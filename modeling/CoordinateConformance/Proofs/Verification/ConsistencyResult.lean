import CoordinateConformance.Proofs.Verification.ConsistencyCheck

/-!
Contract: what a consistency check returns.

`ConsistencyResult` has one constructor per result, in the order in which the errors take
precedence: a partial point, the image of all points, the image of a single point, images without
values, and the first element at which the two images differ. Lengths are counted in points of the
declared dimensions.

Owns: `ConsistencyResult`, `verifyConsistency_eq_iff`.

Does **not** own: when a violation is reported by the other checks.
-/

namespace CoordinateConformance

open scoped ExactSizes
open Comparison (AxisHas coordinate)

/-! ## Images of a counted list of points -/

/-- The operation transforms the values into the image of so many points. -/
def Images (operation : Operation) (points : List Float) (count : Nat) (image : List Float) :
    Prop :=
  operation.transform points = some image ∧ image.length = count * operation.targetDimensions

/-- The values are not transformed, or not into the image of so many points. -/
inductive NoImage (operation : Operation) (points : List Float) (count : Nat) :
    ConformanceError → Prop where
  | missing (none : operation.transform points = none) :
      NoImage operation points count (.transformFailed operation.name points)
  | miscounted (image : List Float) (some : operation.transform points = some image)
      (differ : image.length ≠ count * operation.targetDimensions) :
      NoImage operation points count (.dimensionMismatch "transformed coordinates"
        (count * operation.targetDimensions) image.length)

/-- The first of some single points that has no image. -/
def FirstWithoutImage (operation : Operation) (points : List (List Float))
    (error : ConformanceError) : Prop :=
  ∃ (index : Nat) (point : List Float), points[index]? = some point ∧
    NoImage operation point 1 error ∧
    ∀ earlier < index, ∀ other, points[earlier]? = some other →
      ∃ image, Images operation other 1 image

section Counting

variable {operation : Operation} {points : List Float}

theorem maps_iff (axes : operation.sourceDimensions ≠ 0) {image : List Float} :
    Maps operation points image ↔
      Images operation points (points.length / operation.sourceDimensions) image := by
  constructor
  · intro maps
    exact ⟨maps.transform_eq, maps.length_eq.trans (Operation.exactLength_of_axes axes _)⟩
  · rintro ⟨some, length⟩
    exact ⟨some, rfl, length.trans (Operation.exactLength_of_axes axes _).symm⟩

theorem rejects_iff (axes : operation.sourceDimensions ≠ 0) {error : ConformanceError} :
    Rejects operation points (.error error) ↔
      NoImage operation points (points.length / operation.sourceDimensions) error := by
  have length := Operation.exactLength_of_axes axes points.length
  constructor
  · intro rejects
    cases rejects with
    | missing none => exact .missing none
    | miscounted image some _ differ =>
        rw [length] at differ ⊢
        exact .miscounted image some differ
  · intro noImage
    cases noImage with
    | missing none => exact .missing none
    | miscounted image some differ =>
        rw [← length] at differ ⊢
        exact .miscounted image some rfl differ

theorem length_of_mem_singlePoints {point : List Float}
    (mem : point ∈ singlePoints operation points) : point.length = operation.sourceDimensions := by
  obtain ⟨index, indexMem, rfl⟩ := List.mem_map.mp mem
  exact Comparison.length_coordinate (List.mem_range.mp indexMem)

/-- A single source point is one point. -/
theorem count_of_mem_singlePoints (axes : operation.sourceDimensions ≠ 0) {point : List Float}
    (mem : point ∈ singlePoints operation points) :
    point.length / operation.sourceDimensions = 1 := by
  rw [length_of_mem_singlePoints mem]
  exact Nat.div_self (Nat.pos_of_ne_zero axes)

theorem firstRejected_iff (axes : operation.sourceDimensions ≠ 0) {error : ConformanceError} :
    FirstRejected operation (singlePoints operation points) (.error error) ↔
      FirstWithoutImage operation (singlePoints operation points) error := by
  unfold FirstRejected FirstWithoutImage
  refine exists_congr fun index => exists_congr fun point => and_congr_right fun pointEq => ?_
  rw [rejects_iff axes, count_of_mem_singlePoints axes (List.mem_of_getElem? pointEq)]
  refine and_congr_right fun _ => forall₂_congr fun _ _ => forall₂_congr fun other otherEq => ?_
  rw [← count_of_mem_singlePoints axes (List.mem_of_getElem? otherEq)]
  exact exists_congr fun _ => maps_iff axes

theorem forall₂_maps_iff (axes : operation.sourceDimensions ≠ 0) {singles : List (List Float)} :
    List.Forall₂ (Maps operation) (singlePoints operation points) singles ↔
      List.Forall₂ (fun point image => Images operation point 1 image)
        (singlePoints operation points) singles := by
  simp only [List.forall₂_iff_get]
  refine and_congr_right fun _ => forall_congr' fun index => forall₂_congr fun less _ => ?_
  rw [maps_iff axes, count_of_mem_singlePoints axes (List.get_mem _ _)]

end Counting

/-! ## The first difference -/

/-- The first index at which two lists hold values that are not the same. -/
structure FirstDifference (batch singles : List Float) (index : Nat) (first second : Float) :
    Prop where
  batch_eq : batch[index]? = some first
  singles_eq : singles[index]? = some second
  differ : ¬Same first second
  earlier : ∀ i < index, ∀ a b, batch[i]? = some a → singles[i]? = some b → Same a b

section Difference

variable {batch singles : List Float}

theorem FirstDifference.not_forall₂ {index : Nat} {first second : Float}
    (difference : FirstDifference batch singles index first second) :
    ¬List.Forall₂ Same batch singles := by
  intro same
  obtain ⟨less, rfl⟩ := List.getElem?_eq_some_iff.mp difference.batch_eq
  obtain ⟨less', rfl⟩ := List.getElem?_eq_some_iff.mp difference.singles_eq
  exact difference.differ ((List.forall₂_iff_get.mp same).2 index less less')

theorem FirstDifference.unique {i j : Nat} {a b c d : Float}
    (left : FirstDifference batch singles i a b) (right : FirstDifference batch singles j c d) :
    i = j ∧ a = c ∧ b = d := by
  have same : i = j := by
    rcases Nat.lt_trichotomy i j with less | same | greater
    · exact absurd (right.earlier i less a b left.batch_eq left.singles_eq) left.differ
    · exact same
    · exact absurd (left.earlier j greater c d right.batch_eq right.singles_eq) right.differ
  subst same
  exact ⟨rfl, Option.some.inj (left.batch_eq.symm.trans right.batch_eq),
    Option.some.inj (left.singles_eq.symm.trans right.singles_eq)⟩

/-- What a comparison without a tolerance reports about the element at an index. -/
def strictFailure (dimension index : Nat) (first second : Float) : ComparisonFailure :=
  ⟨index / dimension, index % dimension, first, second, (first - second).abs, 0.0, .strict⟩

/-- The axis that a comparison without a tolerance reports is the first difference. -/
theorem exists_firstDifference {dimension : Nat} {failure : ComparisonFailure}
    (reports : Comparison.Reports batch singles (List.replicate dimension 0.0) dimension .identity
      .strict failure) :
    ∃ index first second, FirstDifference batch singles index first second ∧
      failure = strictFailure dimension index first second := by
  obtain ⟨point, axis, first, second, deviation, tolerance, calculation⟩ := failure
  obtain ⟨shaped, pointLess, axisLess, has, fails, deviationEq, calculationEq, earlier⟩ := reports
  have zero : ∀ axis < dimension, ∀ t : Float,
      (List.replicate dimension (0.0 : Float))[axis]? = some t → t = 0.0 := by
    intro axis less t toleranceEq
    rw [List.getElem?_replicate_of_lt less] at toleranceEq
    exact (Option.some.inj toleranceEq).symm
  have toleranceEq := zero axis axisLess tolerance has.tolerance_eq
  dsimp only at *
  subst toleranceEq deviationEq calculationEq
  refine ⟨point * dimension + axis, first, second, ⟨has.expected_eq, has.actual_eq,
    fun same => fails (same.passes 0.0), fun i less a b aEq bEq => ?_⟩, ?_⟩
  · -- the indices before the failing one are those of the lexicographically smaller pairs
    have inAxes := Nat.mod_lt i (Nat.pos_of_ne_zero shaped.axes)
    have split := Nat.div_add_mod' i dimension
    have before : i / dimension < point ∨ i / dimension = point ∧ i % dimension < axis := by
      have le : i / dimension ≤ point := by
        rw [Nat.div_le_iff_le_mul_add_pred (Nat.pos_of_ne_zero shaped.axes)]
        rw [Nat.mul_comm]
        omega
      rcases le.lt_or_eq with smaller | same
      · exact Or.inl smaller
      · rw [same] at split
        exact Or.inr ⟨same, by omega⟩
    obtain ⟨e, c, t, otherHas, passes⟩ := earlier _ _ inAxes before
    have expectedEq := otherHas.expected_eq
    have actualEq := otherHas.actual_eq
    rw [split] at expectedEq actualEq
    rw [aEq] at expectedEq
    rw [bEq] at actualEq
    cases expectedEq
    cases actualEq
    rw [zero _ inAxes t otherHas.tolerance_eq] at passes
    exact same_of_passes_zero passes
  · unfold strictFailure
    rw [Nat.mul_comm, Nat.mul_add_div (Nat.pos_of_ne_zero shaped.axes), Nat.mul_add_mod,
      Nat.div_eq_of_lt axisLess, Nat.mod_eq_of_lt axisLess, Nat.add_zero]

/-- Lists of as many values as points of the dimension have are compared without a tolerance. -/
theorem strictResult_iff {dimension : Nat} (whole : dimension ∣ batch.length)
    (lengths : batch.length = singles.length) {error : ConformanceError} :
    Comparison.Result batch singles (List.replicate dimension 0.0) dimension .identity .strict
        (.error error) ↔
      dimension = 0 ∧ error = .dimensionMismatch "point dimension" 1 0 ∨
      dimension ≠ 0 ∧ ∃ index first second, FirstDifference batch singles index first second ∧
        error = .toleranceExceeded (strictFailure dimension index first second) := by
  have forward : ∀ e, Comparison.Result batch singles (List.replicate dimension 0.0) dimension
        .identity .strict (.error e) →
      dimension = 0 ∧ e = .dimensionMismatch "point dimension" 1 0 ∨
      dimension ≠ 0 ∧ ∃ index first second, FirstDifference batch singles index first second ∧
        e = .toleranceExceeded (strictFailure dimension index first second) := by
    intro e result
    cases result with
    | noAxes zero => exact Or.inl ⟨zero, rfl⟩
    | tolerances _ differ => exact absurd List.length_replicate differ
    | lengths _ _ differ => exact absurd lengths differ
    | partialPoint _ _ _ rest => exact absurd whole rest
    | reports failure reports =>
        obtain ⟨index, first, second, difference, rfl⟩ := exists_firstDifference reports
        exact Or.inr ⟨reports.shaped.axes, index, first, second, difference, rfl⟩
  refine ⟨forward error, ?_⟩
  rintro (⟨zero, rfl⟩ | ⟨axes, index, first, second, difference, rfl⟩)
  · exact .noAxes zero
  · -- the comparison has a result, and it is neither success nor another difference
    have decides := decides_compareCoordinates_zero batch singles dimension
    cases run : compareCoordinates batch singles (List.replicate dimension 0.0) dimension
        .strict with
    | ok _ => exact absurd ((decides.ok_iff ()).mp run).2.2 difference.not_forall₂
    | error e =>
        have result := (decides.error_iff e).mp run
        rcases forward e result with ⟨zero, _⟩ | ⟨_, _, _, _, other, rfl⟩
        · exact absurd zero axes
        · obtain ⟨rfl, rfl, rfl⟩ := other.unique difference
          exact result

end Difference

/-! ## The result of a check -/

/-- The points are whole, and all of them have an image, together and one by one. -/
structure Transformed (points : List Float) (operation : Operation) (batch : List Float)
    (singles : List (List Float)) : Prop where
  axes : operation.sourceDimensions ≠ 0
  whole : operation.sourceDimensions ∣ points.length
  batch : Images operation points (points.length / operation.sourceDimensions) batch
  singles : List.Forall₂ (fun point image => Images operation point 1 image)
    (singlePoints operation points) singles

/-- The result of a consistency check. -/
inductive ConsistencyResult (points : List Float) (operation : Operation) :
    Except ConformanceError Unit → Prop where
  | partialPoint (partialPoint : operation.sourceDimensions = 0 ∨
        ¬operation.sourceDimensions ∣ points.length) :
      ConsistencyResult points operation
        (.error (.dimensionMismatch "points are not a whole number of source points"
          operation.sourceDimensions points.length))
  | noBatch (error : ConformanceError) (axes : operation.sourceDimensions ≠ 0)
      (whole : operation.sourceDimensions ∣ points.length)
      (noImage : NoImage operation points (points.length / operation.sourceDimensions) error) :
      ConsistencyResult points operation (.error error)
  | noSingle (error : ConformanceError) (axes : operation.sourceDimensions ≠ 0)
      (whole : operation.sourceDimensions ∣ points.length) (batch : List Float)
      (images : Images operation points (points.length / operation.sourceDimensions) batch)
      (first : FirstWithoutImage operation (singlePoints operation points) error) :
      ConsistencyResult points operation (.error error)
  | noValues (batch : List Float) (singles : List (List Float))
      (transformed : Transformed points operation batch singles)
      (zero : operation.targetDimensions = 0) :
      ConsistencyResult points operation (.error (.dimensionMismatch "point dimension" 1 0))
  | differ (batch : List Float) (singles : List (List Float))
      (transformed : Transformed points operation batch singles)
      (values : operation.targetDimensions ≠ 0) (index : Nat) (first second : Float)
      (difference : FirstDifference batch singles.flatten index first second) :
      ConsistencyResult points operation
        (.error (.toleranceExceeded
          (strictFailure operation.targetDimensions index first second)))
  | same (batch : List Float) (singles : List (List Float))
      (transformed : Transformed points operation batch singles)
      (values : operation.targetDimensions ≠ 0)
      (same : List.Forall₂ Same batch singles.flatten) :
      ConsistencyResult points operation (.ok ())

section Result

variable {points : List Float} {operation : Operation} {batch : List Float}
  {singles : List (List Float)}

theorem length_flatten_of_images {images : List (List Float)} {singlePoints : List (List Float)}
    (all : List.Forall₂ (fun point image => Images operation point 1 image) singlePoints images) :
    images.flatten.length = singlePoints.length * operation.targetDimensions := by
  induction all with
  | nil => simp
  | cons head _ inductionHypothesis =>
      rw [List.flatten_cons, List.length_append, inductionHypothesis, head.2, List.length_cons]
      ring

/-- Together and one by one, the points have equally many values. -/
theorem Transformed.lengths (transformed : Transformed points operation batch singles) :
    batch.length = singles.flatten.length := by
  rw [length_flatten_of_images transformed.singles, transformed.batch.2]
  simp [singlePoints]

theorem Transformed.dvd_length (transformed : Transformed points operation batch singles) :
    operation.targetDimensions ∣ batch.length := by
  rw [transformed.batch.2]
  exact Nat.dvd_mul_left _ _

theorem Transformed.of_maps (axes : operation.sourceDimensions ≠ 0)
    (whole : operation.sourceDimensions ∣ points.length) (maps : Maps operation points batch)
    (mapsSingly : List.Forall₂ (Maps operation) (singlePoints operation points) singles) :
    Transformed points operation batch singles :=
  ⟨axes, whole, (maps_iff axes).mp maps, (forall₂_maps_iff axes).mp mapsSingly⟩

theorem exists_consistencyResult : ∃ result,
    TestCase.verifyConsistency points operation = .ofResult result ∧
      ConsistencyResult points operation result := by
  have decides := decides_verifyConsistency points operation
  cases run : TestCase.verifyConsistency points operation with
  | ok _ =>
      obtain ⟨axes, whole, values, _, batch, singles, maps, mapsSingly, same⟩ :=
        (decides.ok_iff ()).mp run
      exact ⟨.ok (), rfl, .same batch singles (.of_maps axes whole maps mapsSingly) values same⟩
  | error stop =>
      have violated := (decides.error_iff stop).mp run
      cases stop with
      | panic => exact absurd violated not_consistencyViolated_panic
      | error error =>
          refine ⟨.error error, rfl, ?_⟩
          cases violated with
          | shape shape => exact .partialPoint shape
          | batch axes whole rejects =>
              exact .noBatch error axes whole ((rejects_iff axes).mp rejects)
          | single axes whole batch maps rejected =>
              exact .noSingle error axes whole batch ((maps_iff axes).mp maps)
                ((firstRejected_iff axes).mp rejected)
          | differ axes whole batch maps singles mapsSingly _ result =>
              have transformed := Transformed.of_maps axes whole maps mapsSingly
              rcases (strictResult_iff transformed.dvd_length transformed.lengths).mp result with
                ⟨zero, rfl⟩ | ⟨values, index, first, second, difference, rfl⟩
              · exact .noValues batch singles transformed zero
              · exact .differ batch singles transformed values index first second difference

theorem Transformed.consistencyViolated (transformed : Transformed points operation batch singles)
    {error : ConformanceError}
    (result : Comparison.Result batch singles.flatten
      (List.replicate operation.targetDimensions 0.0) operation.targetDimensions .identity .strict
      (.error error)) :
    ConsistencyViolated points operation (.error error) :=
  .differ transformed.axes transformed.whole batch
    ((maps_iff transformed.axes).mpr transformed.batch) singles
    ((forall₂_maps_iff transformed.axes).mpr transformed.singles) rfl result

theorem ConsistencyResult.verifyConsistency_eq {result : Except ConformanceError Unit}
    (consistencyResult : ConsistencyResult points operation result) :
    TestCase.verifyConsistency points operation = .ofResult result := by
  have decides := decides_verifyConsistency points operation
  cases consistencyResult with
  | partialPoint shape => exact (decides.error_iff _).mpr (.shape shape)
  | noBatch error axes whole noImage =>
      exact (decides.error_iff _).mpr (.batch axes whole ((rejects_iff axes).mpr noImage))
  | noSingle error axes whole batch images first =>
      exact (decides.error_iff _).mpr (.single axes whole batch ((maps_iff axes).mpr images)
        ((firstRejected_iff axes).mpr first))
  | noValues batch singles transformed zero =>
      refine (decides.error_iff _).mpr (transformed.consistencyViolated ?_)
      exact .noAxes zero
  | differ batch singles transformed values index first second difference =>
      refine (decides.error_iff _).mpr (transformed.consistencyViolated ?_)
      exact (strictResult_iff transformed.dvd_length transformed.lengths).mpr
        (Or.inr ⟨values, index, first, second, difference, rfl⟩)
  | same batch singles transformed values same =>
      exact (decides.ok_iff ()).mpr ⟨transformed.axes, transformed.whole, values, rfl, batch,
        singles, (maps_iff transformed.axes).mpr transformed.batch,
        (forall₂_maps_iff transformed.axes).mpr transformed.singles, same⟩

end Result

/-- What a consistency check returns over sizes of any magnitude, for all points and all operations.
The check takes no test, so neither a configuration nor a modifier can change its result. -/
theorem verifyConsistency_eq_iff (points : List Float) (operation : Operation)
    (checked : Check Unit) :
    TestCase.verifyConsistency points operation = checked ↔
      ∃ result, checked = .ofResult result ∧ ConsistencyResult points operation result := by
  constructor
  · rintro rfl
    exact exists_consistencyResult
  · rintro ⟨result, rfl, consistencyResult⟩
    exact consistencyResult.verifyConsistency_eq

end CoordinateConformance
