import CoordinateConformance.Proofs.Verification.ConsistencyResult
import CoordinateConformance.Proofs.Verification.DomainCheck

/-!
Contract: which lists the checks hand to transforms, and when these are whole points.

A check that succeeds has handed a list to a transform if it no longer succeeds once that
transform rejects the list: all errors of transforms are passed on. So the lists are found
without following the programs.

The operation under test only gets whole points. Its inverse declares dimensions of its own,
which no check looks at: it gets whole points exactly if its source dimensions divide the
number of values that it gets, and the checks also succeed if they do not. None of this depends on
the sizes that a machine can compute with.

Owns: `Hands`, `HandsBack`, `wholeCalls_iff`.

Does **not** own: what the checks require of the images.
-/

namespace CoordinateConformance

open Comparison (Agree)

/-! ## Lists handed to a transform -/

namespace Operation

/-- The operation, except that it does not transform the given points. -/
def rejecting (operation : Operation) (points : List Float) : Operation :=
  custom operation.name operation.sourceDimensions operation.targetDimensions
    (fun given => if given = points then none else operation.transform given) operation.inverse?

/-- The operation with another inverse. -/
def withInverse (operation inverse : Operation) : Operation :=
  custom operation.name operation.sourceDimensions operation.targetDimensions
    operation.transform (some inverse)

end Operation

/-- A successful check has handed the points to the operation's transform: it does not succeed if
they are rejected. -/
def Hands (check : Operation → Check Unit) (operation : Operation)
    (points : List Float) : Prop :=
  check (operation.rejecting points) ≠ .ok ()

/-- A successful check has handed the points to the transform of the operation's inverse. -/
def HandsBack (check : Operation → Check Unit) (operation inverse : Operation)
    (points : List Float) : Prop :=
  check (operation.withInverse (inverse.rejecting points)) ≠ .ok ()

/-- A list of whole points, of the dimensions that the operation declares, is transformed into as
many whole points. -/
structure WholeCall (operation : Operation) (points : List Float) : Prop where
  axes : operation.sourceDimensions ≠ 0
  whole : operation.sourceDimensions ∣ points.length
  image : ∃ image, operation.transform points = some image ∧
    image.length = points.length / operation.sourceDimensions * operation.targetDimensions

/-- A check hands whole points to the operation and to its inverse. -/
structure WholeCalls (check : Operation → Check Unit) (operation : Operation) :
    Prop where
  direct : ∀ points, Hands check operation points → WholeCall operation points
  back : ∀ inverse, operation.inverse? = some inverse →
    ∀ points, HandsBack check operation inverse points → WholeCall inverse points

/-- A transform that is accepted is one of whole points if its input is made of such. -/
theorem Maps.wholeCall_iff [SizeArithmetic] {operation : Operation} {points image : List Float}
    (maps : Maps operation points image) :
    WholeCall operation points ↔
      operation.sourceDimensions ≠ 0 ∧ operation.sourceDimensions ∣ points.length := by
  refine ⟨fun call => ⟨call.axes, call.whole⟩,
    fun ⟨axes, whole⟩ => ⟨axes, whole, image, maps.transform_eq, ?_⟩⟩
  rw [maps.length_eq, Operation.exactLength_of_axes axes]

theorem maps_rejecting [SizeArithmetic] {operation : Operation}
    {rejected points image : List Float} :
    Maps (operation.rejecting rejected) points image ↔
      points ≠ rejected ∧ Maps operation points image := by
  have transform_eq : (operation.rejecting rejected).transform points =
      if points = rejected then none else operation.transform points := rfl
  by_cases same : points = rejected
  · rw [if_pos same] at transform_eq
    refine ⟨fun maps => ?_, fun both => absurd same both.1⟩
    cases transform_eq.symm.trans maps.transform_eq
  · rw [if_neg same] at transform_eq
    constructor
    · intro maps
      exact ⟨same, transform_eq.symm.trans maps.transform_eq, maps.fits, maps.length_eq⟩
    · rintro ⟨_, some, fits, length⟩
      exact ⟨transform_eq.trans some, fits, length⟩

/-- The inverse has no part in a transform of the operation itself. -/
theorem maps_withInverse [SizeArithmetic] {operation inverse : Operation}
    {points image : List Float} :
    Maps (operation.withInverse inverse) points image ↔ Maps operation points image :=
  ⟨fun maps => ⟨maps.transform_eq, maps.fits, maps.length_eq⟩,
    fun maps => ⟨maps.transform_eq, maps.fits, maps.length_eq⟩⟩

/-! ## The sample check -/

section Sample

variable [SizeArithmetic] {test : TestCase} {sample : Sample} {operation : Operation}

theorem legHolds_rejecting {rejected points expected : List Float} {calculation : Calculation} :
    LegHolds test sample (operation.rejecting rejected) points expected calculation ↔
      points ≠ rejected ∧ LegHolds test sample operation points expected calculation := by
  simp only [LegHolds, maps_rejecting, and_assoc, exists_and_left]

theorem legHolds_withInverse {inverse : Operation} {points expected : List Float}
    {calculation : Calculation} :
    LegHolds test sample (operation.withInverse inverse) points expected calculation ↔
      LegHolds test sample operation points expected calculation := by
  simp only [LegHolds, maps_withInverse]

theorem verifySample_eq_ok_iff :
    test.verifySample sample operation = .ok () ↔ SampleHolds test sample operation :=
  (decides_verifySample operation).ok_iff ()

/-- The operation gets the control points. -/
theorem hands_verifySample_iff (succeeds : test.verifySample sample operation = .ok ())
    (points : List Float) :
    Hands (test.verifySample sample) operation points ↔ points = sample.sourcePoints := by
  have holds := verifySample_eq_ok_iff.mp succeeds
  unfold Hands
  rw [Ne, verifySample_eq_ok_iff, not_iff_comm]
  constructor
  · intro differ
    exact ⟨holds.source, holds.target, legHolds_rejecting.mpr ⟨Ne.symm differ, holds.direct⟩,
      holds.back⟩
  · intro holdsToo same
    exact (legHolds_rejecting.mp holdsToo.direct).1 same.symm

/-- The inverse gets the images of the control points, if it is tested. -/
theorem handsBack_verifySample_iff (succeeds : test.verifySample sample operation = .ok ())
    {inverse : Operation} (some : operation.inverse? = some inverse) (points : List Float) :
    HandsBack (test.verifySample sample) operation inverse points ↔
      test.configuration.testsInverse = true ∧ points = sample.targetPoints := by
  have holds := verifySample_eq_ok_iff.mp succeeds
  unfold HandsBack
  rw [Ne, verifySample_eq_ok_iff, not_iff_comm]
  constructor
  · intro differ
    refine ⟨holds.source, holds.target, legHolds_withInverse.mpr holds.direct,
      fun tested other otherEq => ?_⟩
    cases otherEq
    exact legHolds_rejecting.mpr ⟨fun same => differ ⟨tested, same.symm⟩,
      holds.back tested inverse some⟩
  · rintro holdsToo ⟨tested, same⟩
    exact (legHolds_rejecting.mp (holdsToo.back tested _ rfl)).1 same.symm

omit [SizeArithmetic] in
theorem length_points_of_mem (registered : sample ∈ Sample.all) :
    sample.sourcePoints.length = 4 ∧ sample.targetPoints.length = 4 := by
  have all : ∀ sample ∈ Sample.all,
      sample.sourcePoints.length = 4 ∧ sample.targetPoints.length = 4 := by
    simp [Sample.all, Sample.ofPoints]
  exact all sample registered

theorem wholeCall_of_hands_verifySample (registered : sample ∈ Sample.all)
    (succeeds : test.verifySample sample operation = .ok ()) {points : List Float}
    (hands : Hands (test.verifySample sample) operation points) :
    WholeCall operation points := by
  have holds := verifySample_eq_ok_iff.mp succeeds
  obtain ⟨image, maps, _⟩ := holds.direct
  rw [(hands_verifySample_iff succeeds points).mp hands, maps.wholeCall_iff, holds.source,
    (length_points_of_mem registered).1]
  decide

theorem wholeCalls_verifySample_iff (registered : sample ∈ Sample.all)
    (succeeds : test.verifySample sample operation = .ok ()) :
    WholeCalls (test.verifySample sample) operation ↔
      (test.configuration.testsInverse = true → ∀ inverse, operation.inverse? = some inverse →
        inverse.sourceDimensions ≠ 0 ∧ inverse.sourceDimensions ∣ 4) := by
  have back := (verifySample_eq_ok_iff.mp succeeds).back
  have four := (length_points_of_mem registered).2
  constructor
  · intro calls tested inverse some
    obtain ⟨image, maps, _⟩ := back tested inverse some
    have call := calls.back inverse some _
      ((handsBack_verifySample_iff succeeds some _).mpr ⟨tested, rfl⟩)
    rwa [maps.wholeCall_iff, four] at call
  · intro divides
    refine ⟨fun points hands => wholeCall_of_hands_verifySample registered succeeds hands,
      fun inverse some points hands => ?_⟩
    obtain ⟨tested, rfl⟩ := (handsBack_verifySample_iff succeeds some points).mp hands
    obtain ⟨image, maps, _⟩ := back tested inverse some
    rw [maps.wholeCall_iff, four]
    exact divides tested inverse some

end Sample

/-! ## The consistency check -/

section Consistency

variable [SizeArithmetic] {operation : Operation} {points : List Float}

theorem verifyConsistency_eq_ok_iff :
    TestCase.verifyConsistency points operation = .ok () ↔ ConsistencyHolds points operation :=
  (decides_verifyConsistency points operation).ok_iff ()

/-- The operation gets all the points, and each of them. -/
theorem hands_verifyConsistency_iff
    (succeeds : TestCase.verifyConsistency points operation = .ok ()) (handed : List Float) :
    Hands (TestCase.verifyConsistency points) operation handed ↔
      handed = points ∨ handed ∈ singlePoints operation points := by
  obtain ⟨axes, whole, values, room, batch, singles, maps, mapsSingly, same⟩ :=
    verifyConsistency_eq_ok_iff.mp succeeds
  unfold Hands
  rw [Ne, verifyConsistency_eq_ok_iff, not_iff_comm, not_or]
  constructor
  · rintro ⟨notAll, notSingle⟩
    refine ⟨axes, whole, values, room, batch, singles,
      maps_rejecting.mpr ⟨Ne.symm notAll, maps⟩, ?_, same⟩
    refine List.forall₂_iff_get.mpr ⟨mapsSingly.length_eq, fun index less less' => ?_⟩
    refine maps_rejecting.mpr ⟨fun equal => notSingle ?_,
      (List.forall₂_iff_get.mp mapsSingly).2 index less less'⟩
    exact equal ▸ List.get_mem (singlePoints operation points) ⟨index, less⟩
  · rintro ⟨_, _, _, _, otherBatch, otherSingles, otherMaps, otherMapsSingly, _⟩
    refine ⟨fun equal => (maps_rejecting.mp otherMaps).1 equal.symm, fun mem => ?_⟩
    obtain ⟨index, less, indexEq⟩ := List.getElem_of_mem mem
    have mapsIndex := (List.forall₂_iff_get.mp otherMapsSingly).2 index less
      (otherMapsSingly.length_eq ▸ less)
    exact (maps_rejecting.mp mapsIndex).1 indexEq

/-- The inverse gets nothing. -/
theorem not_handsBack_verifyConsistency
    (succeeds : TestCase.verifyConsistency points operation = .ok ()) (inverse : Operation)
    (handed : List Float) :
    ¬HandsBack (TestCase.verifyConsistency points) operation inverse handed := by
  have holds := verifyConsistency_eq_ok_iff.mp succeeds
  unfold HandsBack
  rw [Ne, not_not, verifyConsistency_eq_ok_iff]
  obtain ⟨batch, singles, maps, mapsSingly, same⟩ := holds.same
  exact ⟨holds.axes, holds.whole, holds.values, holds.room, batch, singles,
    maps_withInverse.mpr maps, mapsSingly.imp fun _ _ => maps_withInverse.mpr, same⟩

theorem wholeCalls_verifyConsistency
    (succeeds : TestCase.verifyConsistency points operation = .ok ()) :
    WholeCalls (TestCase.verifyConsistency points) operation := by
  refine ⟨fun handed hands => ?_, fun inverse _ handed hands =>
    absurd hands (not_handsBack_verifyConsistency succeeds inverse handed)⟩
  obtain ⟨axes, whole, _, _, batch, singles, maps, mapsSingly, _⟩ :=
    verifyConsistency_eq_ok_iff.mp succeeds
  rcases (hands_verifyConsistency_iff succeeds handed).mp hands with rfl | mem
  · exact maps.wholeCall_iff.mpr ⟨axes, whole⟩
  · obtain ⟨image, mapsPoint⟩ : ∃ image, Maps operation handed image := by
      obtain ⟨index, less, rfl⟩ := List.getElem_of_mem mem
      exact ⟨_, (List.forall₂_iff_get.mp mapsSingly).2 index less (mapsSingly.length_eq ▸ less)⟩
    rw [mapsPoint.wholeCall_iff, length_of_mem_singlePoints mem]
    exact ⟨axes, dvd_rfl⟩

end Consistency

/-! ## The domain check -/

section Domain

variable [SizeArithmetic] {test : TestCase} {sample : Sample} {operation : Operation}

theorem verifyInDomain_eq_ok_iff :
    test.verifyInDomain sample operation = .ok () ↔ DomainHolds test sample operation :=
  decides_verifyInDomain.ok_iff ()

/-- The operation gets the grid, if it has an inverse. -/
theorem hands_verifyInDomain_iff (succeeds : test.verifyInDomain sample operation = .ok ())
    (points : List Float) :
    Hands (test.verifyInDomain sample) operation points ↔
      operation.inverse?.isSome = true ∧
        IsGrid sample.area test.configuration.gridSize points := by
  have holds := verifyInDomain_eq_ok_iff.mp succeeds
  unfold Hands
  rw [Ne, verifyInDomain_eq_ok_iff, not_iff_comm]
  constructor
  · intro differ inverse some
    obtain ⟨source, fits, grid, images, back, isGrid, maps, rest⟩ := holds inverse some
    refine ⟨source, fits, grid, images, back, isGrid, maps_rejecting.mpr ⟨?_, maps⟩, rest⟩
    rintro rfl
    exact differ ⟨Option.isSome_iff_exists.mpr ⟨inverse, some⟩, isGrid⟩
  · rintro holdsToo ⟨isSome, isGrid⟩
    obtain ⟨inverse, some⟩ := Option.isSome_iff_exists.mp isSome
    obtain ⟨_, _, grid, images, back, isGridToo, maps, _⟩ := holdsToo inverse some
    exact (maps_rejecting.mp maps).1 (isGridToo.unique isGrid)

/-- The inverse gets the images of the grid. -/
theorem handsBack_verifyInDomain_iff (succeeds : test.verifyInDomain sample operation = .ok ())
    {inverse : Operation} (some : operation.inverse? = some inverse) (images : List Float) :
    HandsBack (test.verifyInDomain sample) operation inverse images ↔
      ∃ grid, IsGrid sample.area test.configuration.gridSize grid ∧
        Maps operation grid images := by
  obtain ⟨source, fits, grid, projected, back, isGrid, maps, mapsBack, agree⟩ :=
    verifyInDomain_eq_ok_iff.mp succeeds inverse some
  unfold HandsBack
  rw [Ne, verifyInDomain_eq_ok_iff, not_iff_comm]
  constructor
  · intro differ other otherEq
    cases otherEq
    refine ⟨source, fits, grid, projected, back, isGrid, maps_withInverse.mpr maps,
      maps_rejecting.mpr ⟨?_, mapsBack⟩, agree⟩
    rintro rfl
    exact differ ⟨grid, isGrid, maps⟩
  · rintro holdsToo ⟨other, isGridToo, mapsToo⟩
    obtain ⟨_, _, third, thirdImages, _, isGridThird, mapsThird, mapsBackThird, _⟩ :=
      holdsToo _ rfl
    refine (maps_rejecting.mp mapsBackThird).1 ?_
    cases isGridThird.unique isGridToo
    exact Option.some_inj.mp (mapsThird.transform_eq.symm.trans mapsToo.transform_eq)

theorem wholeCall_of_hands_verifyInDomain
    (succeeds : test.verifyInDomain sample operation = .ok ()) {points : List Float}
    (hands : Hands (test.verifyInDomain sample) operation points) :
    WholeCall operation points := by
  obtain ⟨isSome, isGrid⟩ := (hands_verifyInDomain_iff succeeds points).mp hands
  obtain ⟨inverse, some⟩ := Option.isSome_iff_exists.mp isSome
  obtain ⟨source, _, grid, _, _, isGridToo, maps, _⟩ :=
    verifyInDomain_eq_ok_iff.mp succeeds inverse some
  cases isGridToo.unique isGrid
  rw [maps.wholeCall_iff, source, isGrid.length_eq]
  exact ⟨two_ne_zero, Nat.dvd_mul_right _ _⟩

theorem wholeCalls_verifyInDomain_iff (succeeds : test.verifyInDomain sample operation = .ok ()) :
    WholeCalls (test.verifyInDomain sample) operation ↔
      ∀ inverse, operation.inverse? = some inverse → inverse.sourceDimensions ≠ 0 ∧
        inverse.sourceDimensions ∣
          test.configuration.gridSize * test.configuration.gridSize *
            operation.targetDimensions := by
  have imageLength : ∀ grid images, operation.sourceDimensions = 2 →
      IsGrid sample.area test.configuration.gridSize grid → Maps operation grid images →
      images.length = test.configuration.gridSize * test.configuration.gridSize *
        operation.targetDimensions := by
    intro grid images source isGrid maps
    rw [maps.length_eq, Operation.exactLength_of_axes (source ▸ two_ne_zero), source,
      isGrid.length_eq, Nat.mul_div_cancel_left _ two_pos]
  constructor
  · intro calls inverse some
    obtain ⟨source, _, grid, images, back, isGrid, maps, mapsBack, _⟩ :=
      verifyInDomain_eq_ok_iff.mp succeeds inverse some
    have call := calls.back inverse some images
      ((handsBack_verifyInDomain_iff succeeds some images).mpr ⟨grid, isGrid, maps⟩)
    rwa [mapsBack.wholeCall_iff, imageLength grid images source isGrid maps] at call
  · intro divides
    refine ⟨fun points hands => wholeCall_of_hands_verifyInDomain succeeds hands,
      fun inverse some images hands => ?_⟩
    obtain ⟨source, _, grid, imagesToo, back, isGrid, maps, mapsBack, _⟩ :=
      verifyInDomain_eq_ok_iff.mp succeeds inverse some
    obtain ⟨gridToo, isGridToo, mapsToo⟩ :=
      (handsBack_verifyInDomain_iff succeeds some images).mp hands
    cases isGridToo.unique isGrid
    cases mapsToo.transform_eq.symm.trans maps.transform_eq
    rw [mapsBack.wholeCall_iff, imageLength grid images source isGrid maps]
    exact divides inverse some

end Domain

/-- Checks that succeed have handed whole points to the operation under test. All their calls were
of whole points exactly if the inverse declares source dimensions that divide the number of values
that it got: two points of two values in the sample check, the images of the grid in the domain
check, and none in the consistency check. -/
theorem wholeCalls_iff [SizeArithmetic] (test : TestCase) {sample : Sample}
    (registered : sample ∈ Sample.all) (points : List Float) (operation : Operation) :
    (test.verifySample sample operation = .ok () →
      (∀ handed, Hands (test.verifySample sample) operation handed →
        WholeCall operation handed) ∧
      (WholeCalls (test.verifySample sample) operation ↔
        (test.configuration.testsInverse = true → ∀ inverse, operation.inverse? = some inverse →
          inverse.sourceDimensions ≠ 0 ∧ inverse.sourceDimensions ∣ 4))) ∧
    (TestCase.verifyConsistency points operation = .ok () →
      WholeCalls (TestCase.verifyConsistency points) operation) ∧
    (test.verifyInDomain sample operation = .ok () →
      (∀ handed, Hands (test.verifyInDomain sample) operation handed →
        WholeCall operation handed) ∧
      (WholeCalls (test.verifyInDomain sample) operation ↔
        ∀ inverse, operation.inverse? = some inverse → inverse.sourceDimensions ≠ 0 ∧
          inverse.sourceDimensions ∣
            test.configuration.gridSize * test.configuration.gridSize *
              operation.targetDimensions)) := by
  refine ⟨fun succeeds => ⟨fun handed hands => ?_, ?_⟩, wholeCalls_verifyConsistency,
    fun succeeds => ⟨fun handed hands => ?_, ?_⟩⟩
  · exact wholeCall_of_hands_verifySample registered succeeds hands
  · exact wholeCalls_verifySample_iff registered succeeds
  · exact wholeCall_of_hands_verifyInDomain succeeds hands
  · exact wholeCalls_verifyInDomain_iff succeeds

/-- All checks, on the smallest grid and with the tolerances as they are. -/
def roundTripTest : TestCase :=
  ⟨⟨0.01, true, true, true, 2⟩, rfl, .empty⟩

/-- The sample of Makassar. -/
def makassar : Sample :=
  Sample.all.head (List.cons_ne_nil _ _)

/-- Exchanges the control points with their images, and leaves other lists as they are. The inverse
declares the given dimensions. -/
def exchanging (sample : Sample) (inverseSource inverseTarget : Nat) : Operation :=
  .custom "exchanging" 2 2
    (fun points => some (if points = sample.sourcePoints then sample.targetPoints else points))
    (some (.custom "exchanging back" inverseSource inverseTarget
      (fun points => some (if points = sample.targetPoints then sample.sourcePoints else points))
      none))

/-- An inverse between planes gets whole points in all checks. -/
theorem wholeCalls_exchanging :
    (roundTripTest.verifySample makassar (exchanging makassar 2 2) = .ok () ∧
      WholeCalls (roundTripTest.verifySample makassar) (exchanging makassar 2 2)) ∧
    (TestCase.verifyConsistency [110.0, 0.0] (exchanging makassar 2 2) = .ok () ∧
      WholeCalls (TestCase.verifyConsistency [110.0, 0.0]) (exchanging makassar 2 2)) ∧
    roundTripTest.verifyInDomain makassar (exchanging makassar 2 2) = .ok () ∧
      WholeCalls (roundTripTest.verifyInDomain makassar) (exchanging makassar 2 2) := by
  have sampleOk : roundTripTest.verifySample makassar (exchanging makassar 2 2) = .ok () := by rfl
  have consistencyOk :
      TestCase.verifyConsistency [110.0, 0.0] (exchanging makassar 2 2) = .ok () := by rfl
  have domainOk : roundTripTest.verifyInDomain makassar (exchanging makassar 2 2) = .ok () := by
    decide +kernel
  have calls := wholeCalls_iff roundTripTest (List.head_mem (List.cons_ne_nil _ _))
    [110.0, 0.0] (exchanging makassar 2 2)
  refine ⟨⟨sampleOk, (calls.1 sampleOk).2.mpr ?_⟩, ⟨consistencyOk, calls.2.1 consistencyOk⟩,
    domainOk, (calls.2.2 domainOk).2.mpr ?_⟩
  · rintro _ inverse inverseEq
    cases inverseEq
    decide
  · rintro inverse inverseEq
    cases inverseEq
    decide

/-- An inverse from space is accepted, and gets a point and a third. -/
theorem not_wholeCalls_exchanging :
    (roundTripTest.verifySample makassar (exchanging makassar 3 4) = .ok () ∧
      ¬WholeCalls (roundTripTest.verifySample makassar) (exchanging makassar 3 4)) ∧
    roundTripTest.verifyInDomain makassar (exchanging makassar 3 4) = .ok () ∧
      ¬WholeCalls (roundTripTest.verifyInDomain makassar) (exchanging makassar 3 4) := by
  have registered : makassar ∈ Sample.all := List.head_mem (List.cons_ne_nil _ _)
  have sampleOk : roundTripTest.verifySample makassar (exchanging makassar 3 4) = .ok () := by rfl
  have domainOk : roundTripTest.verifyInDomain makassar (exchanging makassar 3 4) = .ok () := by
    decide +kernel
  refine ⟨⟨sampleOk, fun calls => ?_⟩, domainOk, fun calls => ?_⟩
  · have divides := (wholeCalls_verifySample_iff registered sampleOk).mp calls rfl _ rfl
    exact absurd divides.2 (by decide)
  · have divides := (wholeCalls_verifyInDomain_iff domainOk).mp calls _ rfl
    exact absurd divides.2 (by decide)

end CoordinateConformance
