import CoordinateConformance.Proofs.Verification.Handed

/-!
Contract: what becomes of the checks on a machine that counts in words of 64 bits.

The checks multiply sizes twice: to make room for a grid, and to know how many values the image of
a list has. A product beyond a word stops the program, and so does a list that cannot have room.
Nothing is lost otherwise: whatever a machine can count, a program that does not panic returns what
it returns over sizes of any magnitude.

The dimensions of the operation under test are checked before they are used in the sample check.
Nothing is asked of the dimensions that an inverse declares, and nothing bounds the size of a grid.

Owns: `PanicsOr`, `GridCounted`, `LengthsCounted`, `Uncountable`, `checks_exact_iff`.

Does **not** own: what the checks require. They are compared here with themselves, over exact
sizes.
-/

namespace CoordinateConformance

open SizeArithmetic (product reserve fits holds)

/-! ## Programs that agree unless they panic -/

/-- The program panics, or it returns what the other one returns. -/
def PanicsOr {α : Type} (program reference : Check α) : Prop :=
  program = .error .panic ∨ program = reference

namespace PanicsOr

variable {α β : Type} {program reference : Check α}

theorem refl (program : Check α) : PanicsOr program program :=
  Or.inr rfl

theorem bind (first : PanicsOr program reference) {next nextReference : α → Check β}
    (rest : ∀ value, PanicsOr (next value) (nextReference value)) :
    PanicsOr (program >>= next) (reference >>= nextReference) := by
  rcases first with panics | same
  · rw [panics]
    exact Or.inl rfl
  · rw [same]
    cases reference with
    | error stop => exact Or.inr rfl
    | ok value => exact rest value

end PanicsOr

section Machines

variable [SizeArithmetic]

theorem product_panicsOr_exact (first second : Nat) :
    PanicsOr (product first second) (@product .exact first second) := by
  unfold PanicsOr product
  cases fits (first * second) with
  | true => exact Or.inr rfl
  | false => exact Or.inl rfl

theorem reserve_panicsOr_exact (count : Nat) :
    PanicsOr (reserve count) (@reserve .exact count) := by
  unfold PanicsOr reserve
  cases holds count with
  | true => exact Or.inr rfl
  | false => exact Or.inl rfl

theorem transformChecked_panicsOr_exact (operation : Operation) (points : List Float) :
    PanicsOr (operation.transformChecked points)
      (@Operation.transformChecked .exact operation points) := by
  unfold Operation.transformChecked
  cases operation.transform points with
  | none => exact .refl _
  | some image => exact (product_panicsOr_exact _ _).bind fun _ => .refl _

theorem transformSingly_panicsOr_exact (operation : Operation) (points : List (List Float)) :
    PanicsOr (TestCase.transformSingly operation points)
      (@TestCase.transformSingly .exact operation points) := by
  induction points with
  | nil => exact .refl _
  | cons point points inductionHypothesis =>
      exact (transformChecked_panicsOr_exact operation point).bind fun _ =>
        inductionHypothesis.bind fun _ => .refl _

theorem verifyConsistency_panicsOr_exact (points : List Float) (operation : Operation) :
    PanicsOr (TestCase.verifyConsistency points operation)
      (@TestCase.verifyConsistency .exact points operation) := by
  unfold TestCase.verifyConsistency
  dsimp only
  split_ifs
  · exact .refl _
  · exact (transformChecked_panicsOr_exact operation points).bind fun _ =>
      (transformSingly_panicsOr_exact operation _).bind fun _ =>
        (reserve_panicsOr_exact _).bind fun _ => .refl _

theorem makeGrid_panicsOr_exact (area : Rectangle Float) (size : Nat) :
    PanicsOr (TestCase.makeGrid area size) (@TestCase.makeGrid .exact area size) :=
  ((product_panicsOr_exact size size).bind fun rows => product_panicsOr_exact rows 2).bind
    fun capacity => (reserve_panicsOr_exact capacity).bind fun _ => .refl _

variable (test : TestCase) (sample : Sample) (operation : Operation)

theorem verifyTransform_panicsOr_exact (points expected : List Float) (calculation : Calculation) :
    PanicsOr (test.verifyTransform sample operation points expected calculation)
      (@TestCase.verifyTransform .exact test sample operation points expected calculation) :=
  (transformChecked_panicsOr_exact operation points).bind fun _ => .refl _

theorem verifySample_panicsOr_exact :
    PanicsOr (test.verifySample sample operation)
      (@TestCase.verifySample .exact test sample operation) := by
  refine (PanicsOr.refl _).bind fun _ => (PanicsOr.refl _).bind fun _ =>
    (verifyTransform_panicsOr_exact test sample operation _ _ _).bind fun _ => ?_
  cases test.configuration.testsInverse with
  | false => exact .refl _
  | true =>
      cases operation.inverse? with
      | none => exact .refl _
      | some inverse => exact verifyTransform_panicsOr_exact test sample inverse _ _ _

theorem verifyInDomain_panicsOr_exact :
    PanicsOr (test.verifyInDomain sample operation)
      (@TestCase.verifyInDomain .exact test sample operation) := by
  unfold TestCase.verifyInDomain
  cases operation.inverse? with
  | none => exact .refl _
  | some inverse =>
      exact (PanicsOr.refl _).bind fun _ =>
        (makeGrid_panicsOr_exact sample.area _).bind fun points =>
          (transformChecked_panicsOr_exact operation points).bind fun images =>
            (transformChecked_panicsOr_exact inverse images).bind fun _ => .refl _

end Machines

/-! ## Words -/

theorem fits_words_iff {size : Nat} : fits size = true ↔ size < 2 ^ 64 :=
  decide_eq_true_iff

theorem not_fits_words_iff {size : Nat} : fits size = false ↔ 2 ^ 64 ≤ size := by
  rw [← Bool.not_eq_true, fits_words_iff, not_lt]

theorem holds_words_iff {count : Nat} : holds count = true ↔ count < 2 ^ 60 := by
  have bytes : holds count = true ↔ 2 * (8 * count) < 2 ^ 64 := decide_eq_true_iff
  rw [bytes]
  omega

section Grid

/-- `759250124` is the greatest number whose square is below `2 ^ 59`. -/
theorem gridFits_words_iff (size : Nat) : GridFits size ↔ size ≤ 759250124 := by
  constructor
  · rintro ⟨_, _, room⟩
    rw [holds_words_iff] at room
    by_contra large
    have squares := Nat.mul_self_le_mul_self (not_le.mp large)
    omega
  · intro small
    have squares := Nat.mul_self_le_mul_self small
    refine ⟨fits_words_iff.mpr ?_, fits_words_iff.mpr ?_, holds_words_iff.mpr ?_⟩ <;> omega

/-- The capacity of a grid is computed exactly, and there is room for it, up to these sizes. The
grid itself has all its values. -/
structure GridCounted (area : Rectangle Float) (size : Nat) : Prop where
  capacity_eq_ok_iff :
    TestCase.gridCapacity size = .ok (2 * (size * size)) ↔ size ≤ 3037000499
  capacity_eq_panic_iff :
    TestCase.gridCapacity size = .error .panic ↔ 3037000499 < size
  makeGrid_eq_ok_iff :
    TestCase.makeGrid area size = .ok (TestCase.grid area size) ↔ size ≤ 759250124
  makeGrid_eq_panic_iff :
    TestCase.makeGrid area size = .error .panic ↔ 759250124 < size
  length_eq : (TestCase.grid area size).length = 2 * (size * size)

theorem decides_gridCapacity (size : Nat) :
    Decides (TestCase.gridCapacity size)
      (fun capacity => size ≤ 3037000499 ∧ capacity = 2 * (size * size))
      (fun stop => 3037000499 < size ∧ stop = .panic) := by
  have small : size ≤ 3037000499 ↔ 2 * (size * size) < 2 ^ 64 := by
    constructor
    · intro small
      have squares := Nat.mul_self_le_mul_self small
      omega
    · intro fits
      by_contra large
      have squares := Nat.mul_self_le_mul_self (not_le.mp large)
      omega
  unfold TestCase.gridCapacity
  refine ((decides_product size size).bind fun rows _ => decides_product rows 2).congr
    (fun capacity => ?_) (fun stop => ?_)
  · rw [small]
    constructor
    · rintro ⟨_, ⟨_, rfl⟩, values, rfl⟩
      rw [fits_words_iff, Nat.mul_comm] at values
      exact ⟨values, Nat.mul_comm _ _⟩
    · rintro ⟨values, rfl⟩
      refine ⟨_, ⟨fits_words_iff.mpr (by omega), rfl⟩, fits_words_iff.mpr (by omega), ?_⟩
      exact Nat.mul_comm _ _
  · rw [← not_le, small]
    constructor
    · rintro (⟨tooLarge, rfl⟩ | ⟨_, ⟨_, rfl⟩, tooLarge, rfl⟩)
      · rw [not_fits_words_iff] at tooLarge
        exact ⟨by omega, rfl⟩
      · rw [not_fits_words_iff] at tooLarge
        exact ⟨by omega, rfl⟩
    · rintro ⟨tooLarge, rfl⟩
      cases rows : fits (size * size) with
      | false => exact Or.inl ⟨rfl, rfl⟩
      | true => exact Or.inr ⟨_, ⟨rfl, rfl⟩, not_fits_words_iff.mpr (by omega), rfl⟩

theorem gridCounted (area : Rectangle Float) {size : Nat} (large : 2 ≤ size) :
    GridCounted area size := by
  have capacity := decides_gridCapacity size
  have grid := decides_makeGrid area size
  simp only [gridFits_words_iff, not_le] at grid
  refine ⟨?_, ?_, ?_, ?_, (isGrid_grid area large).length_eq⟩
  · rw [capacity.ok_iff]
    exact and_iff_left rfl
  · rw [capacity.error_iff]
    exact and_iff_left rfl
  · rw [grid.ok_iff]
    exact and_iff_left rfl
  · rw [grid.error_iff]
    exact and_iff_left rfl

end Grid

/-! ## Lengths -/

/-- An expected length is computed exactly if it is a word, and otherwise not at all. So an image
that is accepted has exactly the length that its operation declares. -/
structure LengthsCounted (operation : Operation) (points : List Float) : Prop where
  expectedLength_eq_ok_iff :
    operation.expectedLength points.length = .ok (operation.exactLength points.length) ↔
      operation.exactLength points.length < 2 ^ 64
  expectedLength_eq_panic_iff :
    operation.expectedLength points.length = .error .panic ↔
      2 ^ 64 ≤ operation.exactLength points.length
  length_eq : ∀ image, operation.transformChecked points = .ok image →
    image.length = operation.exactLength points.length

theorem lengthsCounted (operation : Operation) (points : List Float) :
    LengthsCounted operation points := by
  have expected := decides_expectedLength operation points.length
  simp only [fits_words_iff, not_fits_words_iff] at expected
  refine ⟨?_, ?_, fun image accepted => ?_⟩
  · rw [expected.ok_iff]
    exact and_iff_left rfl
  · rw [expected.error_iff]
    exact and_iff_left rfl
  · exact (((decides_transformChecked operation points).ok_iff image).mp accepted).length_eq

/-- There is an image, but the number of values that its operation declares is not a word. -/
structure Uncountable (operation : Operation) (points : List Float) : Prop where
  transformed : ∃ image, operation.transform points = some image
  tooLarge : 2 ^ 64 ≤ operation.exactLength points.length

theorem rejects_panic_iff {operation : Operation} {points : List Float} :
    Rejects operation points .panic ↔ Uncountable operation points := by
  constructor
  · intro rejects
    cases rejects with
    | uncountable image some tooLarge => exact ⟨⟨image, some⟩, not_fits_words_iff.mp tooLarge⟩
  · rintro ⟨⟨image, some⟩, tooLarge⟩
    exact .uncountable image some (not_fits_words_iff.mpr tooLarge)

theorem legViolated_panic_iff {test : TestCase} {sample : Sample} {operation : Operation}
    {points expected : List Float} {calculation : Calculation} :
    LegViolated test sample operation points expected calculation .panic ↔
      Uncountable operation points := by
  rw [← rejects_panic_iff]
  constructor
  · intro violated
    cases violated with
    | transform rejects => exact rejects
  · exact .transform

/-- Planar points have planar images: their number of values stays the same. -/
theorem not_uncountable_of_planar {operation : Operation} {points : List Float}
    (source : operation.sourceDimensions = 2) (target : operation.targetDimensions = 2)
    (short : points.length < 2 ^ 64) : ¬Uncountable operation points := by
  intro uncountable
  have tooLarge := uncountable.tooLarge
  rw [Operation.exactLength_of_axes (source ▸ two_ne_zero), source, target] at tooLarge
  omega

/-- A single point has an image of one point, which a word counts if it counts the dimensions. -/
theorem not_uncountable_of_single {operation : Operation} {points point : List Float}
    (axes : operation.sourceDimensions ≠ 0) (word : operation.targetDimensions < 2 ^ 64)
    (mem : point ∈ singlePoints operation points) : ¬Uncountable operation point := by
  intro uncountable
  have tooLarge := uncountable.tooLarge
  rw [Operation.exactLength_of_axes axes, count_of_mem_singlePoints axes mem, Nat.one_mul]
    at tooLarge
  omega

/-! ## Checks that panic -/

section Panics

variable {test : TestCase} {sample : Sample} {operation : Operation} {points : List Float}

/-- The operation is planar, so its product is small. That of the inverse is what it declares. -/
theorem verifySample_eq_panic_iff (registered : sample ∈ Sample.all) :
    test.verifySample sample operation = .error .panic ↔
      operation.sourceDimensions = 2 ∧ operation.targetDimensions = 2 ∧
        LegHolds test sample operation sample.sourcePoints sample.targetPoints .direct ∧
        test.configuration.testsInverse = true ∧
        ∃ inverse, operation.inverse? = some inverse ∧
          Uncountable inverse sample.targetPoints := by
  rw [(decides_verifySample operation).error_iff]
  constructor
  · intro violated
    cases violated with
    | direct source target violated =>
        refine absurd (legViolated_panic_iff.mp violated)
          (not_uncountable_of_planar source target ?_)
        rw [(length_points_of_mem registered).1]
        decide
    | back source target direct tested inverse some violated =>
        exact ⟨source, target, direct, tested, inverse, some, legViolated_panic_iff.mp violated⟩
  · rintro ⟨source, target, direct, tested, inverse, some, uncountable⟩
    exact .back source target direct tested inverse some (legViolated_panic_iff.mpr uncountable)

/-- Once all the images are counted, room is made for the tolerances. -/
theorem verifyConsistency_eq_panic_iff (word : operation.targetDimensions < 2 ^ 64) :
    TestCase.verifyConsistency points operation = .error .panic ↔
      operation.sourceDimensions ≠ 0 ∧ operation.sourceDimensions ∣ points.length ∧
        (Uncountable operation points ∨ 2 ^ 60 ≤ operation.targetDimensions ∧
          (∃ batch, Maps operation points batch) ∧
          ∃ singles, List.Forall₂ (Maps operation) (singlePoints operation points) singles) := by
  have room : holds operation.targetDimensions = false ↔ 2 ^ 60 ≤ operation.targetDimensions := by
    rw [← Bool.not_eq_true, holds_words_iff, not_lt]
  rw [(decides_verifyConsistency points operation).error_iff]
  constructor
  · intro violated
    cases violated with
    | batch axes whole rejects => exact ⟨axes, whole, Or.inl (rejects_panic_iff.mp rejects)⟩
    | single axes whole batch maps rejected =>
        obtain ⟨_, _, pointEq, rejects, _⟩ := rejected
        exact absurd (rejects_panic_iff.mp rejects)
          (not_uncountable_of_single axes word (List.mem_of_getElem? pointEq))
    | noRoom axes whole batch maps singles mapsSingly tooLarge =>
        exact ⟨axes, whole, Or.inr ⟨room.mp tooLarge, ⟨batch, maps⟩, singles, mapsSingly⟩⟩
  · rintro ⟨axes, whole, uncountable | ⟨tooLarge, ⟨batch, maps⟩, singles, mapsSingly⟩⟩
    · exact .batch axes whole (rejects_panic_iff.mpr uncountable)
    · exact .noRoom axes whole batch maps singles mapsSingly (room.mpr tooLarge)

/-- The grid is made first, then it is sent there, and then back. -/
theorem verifyInDomain_eq_panic_iff :
    let grid := TestCase.grid sample.area test.configuration.gridSize
    test.verifyInDomain sample operation = .error .panic ↔
      ∃ inverse, operation.inverse? = some inverse ∧ operation.sourceDimensions = 2 ∧
        (759250124 < test.configuration.gridSize ∨
          test.configuration.gridSize ≤ 759250124 ∧
            (Uncountable operation grid ∨
              ∃ images, Maps operation grid images ∧ Uncountable inverse images)) := by
  intro grid
  have isGrid : IsGrid sample.area test.configuration.gridSize grid :=
    isGrid_grid sample.area (two_le_gridSize test)
  rw [decides_verifyInDomain.error_iff]
  constructor
  · intro violated
    cases violated with
    | noRoom inverse some source tooLarge =>
        rw [gridFits_words_iff, not_le] at tooLarge
        exact ⟨inverse, some, source, Or.inl tooLarge⟩
    | transform inverse some source fits points isGridToo rejects =>
        cases isGridToo.unique isGrid
        exact ⟨inverse, some, source, Or.inr ⟨(gridFits_words_iff _).mp fits,
          Or.inl (rejects_panic_iff.mp rejects)⟩⟩
    | back inverse some source fits points isGridToo images maps rejects =>
        cases isGridToo.unique isGrid
        exact ⟨inverse, some, source, Or.inr ⟨(gridFits_words_iff _).mp fits,
          Or.inr ⟨images, maps, rejects_panic_iff.mp rejects⟩⟩⟩
  · rintro ⟨inverse, some, source, tooLarge | ⟨small, uncountable | ⟨images, maps, uncountable⟩⟩⟩
    · refine .noRoom inverse some source ?_
      rw [gridFits_words_iff, not_le]
      exact tooLarge
    · exact .transform inverse some source ((gridFits_words_iff _).mpr small) grid isGrid
        (rejects_panic_iff.mpr uncountable)
    · exact .back inverse some source ((gridFits_words_iff _).mpr small) grid isGrid images maps
        (rejects_panic_iff.mpr uncountable)

end Panics

/-! ## Result -/

/-- A check over words gives the result that it has over exact sizes, unless it panics. The products
of sizes are exact as far as they are words: those of grids up to the size `3037000499`, for
which there is room up to the size `759250124`, and those of images up to whatever dimensions an
operation declares. The check of a sample panics exactly if an inverse declares too many values, the
consistency check if the operation itself does, and the domain check in all three cases. -/
theorem checks_exact_iff (test : TestCase) {sample : Sample} (registered : sample ∈ Sample.all)
    (points : List Float) (operation : Operation) (word : operation.targetDimensions < 2 ^ 64) :
    GridCounted sample.area test.configuration.gridSize ∧
    (∀ other given, LengthsCounted other given) ∧
    (PanicsOr (test.verifySample sample operation)
        (@TestCase.verifySample .exact test sample operation) ∧
      (test.verifySample sample operation = .error .panic ↔
        operation.sourceDimensions = 2 ∧ operation.targetDimensions = 2 ∧
          LegHolds test sample operation sample.sourcePoints sample.targetPoints .direct ∧
          test.configuration.testsInverse = true ∧
          ∃ inverse, operation.inverse? = some inverse ∧
            Uncountable inverse sample.targetPoints)) ∧
    (PanicsOr (TestCase.verifyConsistency points operation)
        (@TestCase.verifyConsistency .exact points operation) ∧
      (TestCase.verifyConsistency points operation = .error .panic ↔
        operation.sourceDimensions ≠ 0 ∧ operation.sourceDimensions ∣ points.length ∧
          (Uncountable operation points ∨ 2 ^ 60 ≤ operation.targetDimensions ∧
            (∃ batch, Maps operation points batch) ∧
            ∃ singles,
              List.Forall₂ (Maps operation) (singlePoints operation points) singles))) ∧
    PanicsOr (test.verifyInDomain sample operation)
        (@TestCase.verifyInDomain .exact test sample operation) ∧
      (let grid := TestCase.grid sample.area test.configuration.gridSize
      test.verifyInDomain sample operation = .error .panic ↔
        ∃ inverse, operation.inverse? = some inverse ∧ operation.sourceDimensions = 2 ∧
          (759250124 < test.configuration.gridSize ∨
            test.configuration.gridSize ≤ 759250124 ∧
              (Uncountable operation grid ∨
                ∃ images, Maps operation grid images ∧ Uncountable inverse images))) := by
  refine ⟨gridCounted _ (two_le_gridSize test), lengthsCounted,
    ⟨verifySample_panicsOr_exact test sample operation, verifySample_eq_panic_iff registered⟩,
    ⟨verifyConsistency_panicsOr_exact points operation, verifyConsistency_eq_panic_iff word⟩,
    verifyInDomain_panicsOr_exact test sample operation, verifyInDomain_eq_panic_iff⟩

/-- An inverse between planes does not make a check panic, nor does a grid of two by two points. -/
theorem checks_exact_exchanging :
    roundTripTest.verifySample makassar (exchanging makassar 2 2) =
        @TestCase.verifySample .exact roundTripTest makassar (exchanging makassar 2 2) ∧
      TestCase.verifyConsistency [110.0, 0.0] (exchanging makassar 2 2) =
        @TestCase.verifyConsistency .exact [110.0, 0.0] (exchanging makassar 2 2) ∧
      roundTripTest.verifyInDomain makassar (exchanging makassar 2 2) =
        @TestCase.verifyInDomain .exact roundTripTest makassar (exchanging makassar 2 2) := by
  obtain ⟨_, _, ⟨sampleCheck, samplePanics⟩, ⟨consistencyCheck, consistencyPanics⟩, domainCheck,
    _⟩ := checks_exact_iff roundTripTest (List.head_mem (List.cons_ne_nil _ _)) [110.0, 0.0]
      (exchanging makassar 2 2) (by decide)
  refine ⟨sampleCheck.resolve_left fun panics => ?_, consistencyCheck.resolve_left fun panics => ?_,
    domainCheck.resolve_left (by decide +kernel)⟩
  · obtain ⟨_, _, _, _, inverse, inverseEq, uncountable⟩ := samplePanics.mp panics
    cases inverseEq
    exact absurd uncountable.tooLarge (by decide)
  · obtain ⟨_, _, uncountable | ⟨tooLarge, _⟩⟩ := consistencyPanics.mp panics
    · exact absurd uncountable.tooLarge (by decide)
    · exact absurd tooLarge (by decide)

/-- An inverse into a space of `2 ^ 62 + 1` dimensions: the images of four points on a line should
have `2 ^ 64 + 4` values. The check does not say so, it panics. So does the check of a grid of
`10 ^ 9` lines, and the capacity of one of `2 ^ 32` lines, though both sizes are valid. -/
theorem not_checks_exact_exchanging :
    roundTripTest.verifySample makassar (exchanging makassar 1 (2 ^ 62 + 1)) = .error .panic ∧
      @TestCase.verifySample .exact roundTripTest makassar (exchanging makassar 1 (2 ^ 62 + 1)) =
        .error (.error (.dimensionMismatch "transformed coordinates" (2 ^ 64 + 4) 4)) ∧
      (⟨0.01, true, true, true, 2 ^ 32⟩ : Configuration).validate = .ok () ∧
      TestCase.gridCapacity (2 ^ 32) = .error .panic ∧
      (⟨0.01, true, true, true, 10 ^ 9⟩ : Configuration).validate = .ok () ∧
      TestCase.makeGrid makassar.area (10 ^ 9) = .error .panic := by
  refine ⟨?_, ?_, ?_, ?_, ?_, ?_⟩ <;> decide +kernel

end CoordinateConformance
