import CoordinateConformance.Proofs.Binary64.Difference
import CoordinateConformance.Proofs.Verification.SampleCheck

/-!
Contract: what the consistency check requires, and which error reports a violation.

The images of single points, put together, must be those of the whole list. The check compares
with the tolerance zero; since different numbers are never a zero apart, that is equality. It
makes room for one tolerance per value, which a machine may refuse.

Owns: `Same`, `IsExact`, `agree_of_same`, `agree_zero_iff`, `decides_verifyConsistency`.

Does **not** own: the transforms.
-/

namespace CoordinateConformance

open Comparison (Agree coordinate)
open SizeArithmetic (holds)

/-- The values are equal, or both are NaN. -/
def Same (first second : Float) : Prop :=
  (first == second) = true ∨ first.isNaN = true ∧ second.isNaN = true

/-- The source points in a flat list, one after another. -/
def singlePoints (operation : Operation) (points : List Float) : List (List Float) :=
  (List.range (points.length / operation.sourceDimensions)).map
    (coordinate operation.sourceDimensions points)

section Requirements

variable [SizeArithmetic]

/-- The points are whole ones, and their images put together are those of the whole list. -/
structure ConsistencyHolds (points : List Float) (operation : Operation) : Prop where
  axes : operation.sourceDimensions ≠ 0
  whole : operation.sourceDimensions ∣ points.length
  values : operation.targetDimensions ≠ 0
  room : holds operation.targetDimensions = true
  same : ∃ batch singles, Maps operation points batch ∧
    List.Forall₂ (Maps operation) (singlePoints operation points) singles ∧
    List.Forall₂ Same batch singles.flatten

/-- The first of some points that an operation rejects. -/
def FirstRejected (operation : Operation) (points : List (List Float)) (stop : Interruption) :
    Prop :=
  ∃ (index : Nat) (point : List Float), points[index]? = some point ∧
    Rejects operation point stop ∧
    ∀ earlier < index, ∀ other, points[earlier]? = some other → ∃ image, Maps operation other image

inductive ConsistencyViolated (points : List Float) (operation : Operation) :
    Interruption → Prop where
  | shape (partialPoint : operation.sourceDimensions = 0 ∨
        ¬operation.sourceDimensions ∣ points.length) :
      ConsistencyViolated points operation
        (.error (.dimensionMismatch "points are not a whole number of source points"
          operation.sourceDimensions points.length))
  | batch {stop : Interruption} (axes : operation.sourceDimensions ≠ 0)
      (whole : operation.sourceDimensions ∣ points.length)
      (rejects : Rejects operation points stop) :
      ConsistencyViolated points operation stop
  | single {stop : Interruption} (axes : operation.sourceDimensions ≠ 0)
      (whole : operation.sourceDimensions ∣ points.length) (batch : List Float)
      (maps : Maps operation points batch)
      (rejected : FirstRejected operation (singlePoints operation points) stop) :
      ConsistencyViolated points operation stop
  | noRoom (axes : operation.sourceDimensions ≠ 0)
      (whole : operation.sourceDimensions ∣ points.length) (batch : List Float)
      (maps : Maps operation points batch) (singles : List (List Float))
      (mapsSingly : List.Forall₂ (Maps operation) (singlePoints operation points) singles)
      (tooLarge : holds operation.targetDimensions = false) :
      ConsistencyViolated points operation .panic
  | differ {error : ConformanceError} (axes : operation.sourceDimensions ≠ 0)
      (whole : operation.sourceDimensions ∣ points.length) (batch : List Float)
      (maps : Maps operation points batch) (singles : List (List Float))
      (mapsSingly : List.Forall₂ (Maps operation) (singlePoints operation points) singles)
      (room : holds operation.targetDimensions = true)
      (result : Comparison.Result batch singles.flatten
        (List.replicate operation.targetDimensions 0.0) operation.targetDimensions .identity
        .strict (.error error)) :
      ConsistencyViolated points operation (.error error)

end Requirements

theorem same_of_passes_zero {first second : Float} (passes : Comparison.Passes first second 0.0) :
    Same first second := by
  rcases passes with equal | nan | close
  · exact Or.inl equal
  · exact Or.inr nan
  · exact Or.inl (Binary64.beq_of_abs_sub_le_zero close)

theorem Same.passes {first second : Float} (same : Same first second) (tolerance : Float) :
    Comparison.Passes first second tolerance := by
  rcases same with equal | nan
  · exact Or.inl equal
  · exact Or.inr (Or.inl nan)

theorem same_refl (value : Float) : Same value value :=
  same_of_passes_zero (Comparison.passes_refl value 0.0)

/-- Nothing but the same value lies within the tolerance. -/
def IsExact (tolerance : Float) : Prop :=
  ∀ first second, Comparison.Passes first second tolerance → Same first second

/-- The same values agree, whatever becomes of the tolerances. -/
theorem agree_of_same {first second tolerances : List Float} {dimension : Nat}
    {modifier : ToleranceModifier} {calculation : Calculation} (axes : dimension ≠ 0)
    (sameLength : tolerances.length = dimension) (whole : dimension ∣ first.length)
    (same : List.Forall₂ Same first second) :
    Agree first second tolerances dimension modifier calculation := by
  have shaped : Comparison.Shaped first second tolerances dimension :=
    ⟨axes, sameLength, same.length_eq, whole⟩
  refine ⟨shaped, fun point less axis axisLess => ?_⟩
  obtain ⟨e, a, t, has⟩ := Comparison.exists_axisHas shaped less axisLess
  obtain ⟨inRange, expectedEq⟩ := List.getElem?_eq_some_iff.mp has.expected_eq
  obtain ⟨inRange', actualEq⟩ := List.getElem?_eq_some_iff.mp has.actual_eq
  refine ⟨e, a, t, has, Same.passes ?_ t⟩
  rw [← expectedEq, ← actualEq]
  exact (List.forall₂_iff_get.mp same).2 _ inRange inRange'

/-- Where all adjusted tolerances are exact, values agree only if they are the same. -/
theorem agree_iff_of_isExact {first second tolerances : List Float} {dimension : Nat}
    {modifier : ToleranceModifier} {calculation : Calculation}
    (exact : ∀ (point axis : Nat) (tolerance : Float),
      (Comparison.adjusted modifier tolerances calculation
        (coordinate dimension second point))[axis]? = some tolerance → IsExact tolerance) :
    Agree first second tolerances dimension modifier calculation ↔
      tolerances.length = dimension ∧ dimension ≠ 0 ∧ dimension ∣ first.length ∧
        List.Forall₂ Same first second := by
  constructor
  · rintro ⟨⟨axes, same, lengths, whole⟩, passes⟩
    refine ⟨same, axes, whole, List.forall₂_iff_get.mpr ⟨lengths, fun index less less' => ?_⟩⟩
    have axis := Nat.mod_lt index (Nat.pos_of_ne_zero axes)
    have point : index / dimension < first.length / dimension :=
      Nat.div_lt_div_of_lt_of_dvd whole less
    obtain ⟨e, a, t, has, passes⟩ := passes _ point _ axis
    have expectedEq := has.expected_eq
    have actualEq := has.actual_eq
    rw [Nat.div_add_mod', List.getElem?_eq_getElem less] at expectedEq
    rw [Nat.div_add_mod', List.getElem?_eq_getElem less'] at actualEq
    cases expectedEq
    cases actualEq
    exact exact _ _ t has.tolerance_eq _ _ passes
  · rintro ⟨sameLength, axes, whole, same⟩
    exact agree_of_same axes sameLength whole same

/-- Without a tolerance, values agree only if they are the same. -/
theorem agree_zero_iff {first second : List Float} {dimension : Nat} :
    Agree first second (List.replicate dimension 0.0) dimension .identity .strict ↔
      dimension ≠ 0 ∧ dimension ∣ first.length ∧ List.Forall₂ Same first second := by
  rw [agree_iff_of_isExact, List.length_replicate]
  · simp only [true_and]
  · intro point axis tolerance toleranceEq
    have zero : tolerance = 0.0 := List.eq_of_mem_replicate (List.mem_of_getElem? toleranceEq)
    subst zero
    exact fun first second => same_of_passes_zero

theorem decides_compareCoordinates_zero (first second : List Float) (dimension : Nat) :
    Decides
      (compareCoordinates first second (List.replicate dimension 0.0) dimension .strict)
      (fun _ => dimension ≠ 0 ∧ dimension ∣ first.length ∧ List.Forall₂ Same first second)
      (fun error =>
        Comparison.Result first second (List.replicate dimension 0.0) dimension .identity .strict
          (.error error)) :=
  (decides_compareWithModifier _ _ _ _ _ _).congr (fun _ => agree_zero_iff) (fun _ => Iff.rfl)

theorem points_eq_singlePoints (operation : Operation) (points : List Float) :
    Comparison.points operation.sourceDimensions points = singlePoints operation points := by
  refine List.ext_getElem? fun point => ?_
  unfold singlePoints
  by_cases whole : point < points.length / operation.sourceDimensions
  · rw [Comparison.getElem?_points points whole, List.getElem?_map, List.getElem?_range whole]
    rfl
  · rw [List.getElem?_eq_none, List.getElem?_eq_none]
    · simpa using not_lt.mp whole
    · rw [Comparison.length_points]
      exact not_lt.mp whole

section Programs

variable [SizeArithmetic]

/-- A later point is only looked at if the earlier ones are transformed. -/
theorem firstRejected_cons {operation : Operation} {point : List Float}
    {points : List (List Float)} {stop : Interruption} :
    FirstRejected operation (point :: points) stop ↔
      Rejects operation point stop ∨
        (∃ image, Maps operation point image) ∧ FirstRejected operation points stop := by
  constructor
  · rintro ⟨index, rejected, rejectedEq, rejects, earlier⟩
    cases index with
    | zero =>
        cases rejectedEq
        exact Or.inl rejects
    | succ index =>
        exact Or.inr ⟨earlier 0 (Nat.succ_pos index) point rfl, index, rejected, rejectedEq,
          rejects, fun i less => earlier (i + 1) (Nat.succ_lt_succ less)⟩
  · rintro (rejects | ⟨image, index, rejected, rejectedEq, rejects, earlier⟩)
    · exact ⟨0, point, rfl, rejects, fun i less => absurd less (Nat.not_lt_zero i)⟩
    · refine ⟨index + 1, rejected, rejectedEq, rejects, fun i less other otherEq => ?_⟩
      cases i with
      | zero =>
          cases otherEq
          exact image
      | succ i => exact earlier i (Nat.lt_of_succ_lt_succ less) other otherEq

theorem decides_transformSingly (operation : Operation) (points : List (List Float)) :
    Decides (TestCase.transformSingly operation points)
      (fun images => ∃ singles, List.Forall₂ (Maps operation) points singles ∧
        images = singles.flatten)
      (FirstRejected operation points) := by
  induction points with
  | nil =>
      refine (Decides.ok []).congr (fun images => ?_) (fun stop => ?_)
      · simp
      · simp [FirstRejected]
  | cons point points inductionHypothesis =>
      refine ((decides_transformChecked operation point).bind fun image _ =>
        inductionHypothesis.bind fun images _ => Decides.ok (image ++ images)).congr
          (fun images => ?_) (fun stop => ?_)
      · constructor
        · rintro ⟨image, maps, _, ⟨singles, all, rfl⟩, rfl⟩
          exact ⟨image :: singles, .cons maps all, rfl⟩
        · rintro ⟨_, all, rfl⟩
          cases all with
          | cons maps all => exact ⟨_, maps, _, ⟨_, all, rfl⟩, rfl⟩
      · rw [firstRejected_cons]
        simp

theorem decides_verifyConsistency (points : List Float) (operation : Operation) :
    Decides (TestCase.verifyConsistency points operation)
      (fun _ => ConsistencyHolds points operation) (ConsistencyViolated points operation) := by
  unfold TestCase.verifyConsistency
  simp only [ne_eq, ← Nat.dvd_iff_mod_eq_zero, points_eq_singlePoints]
  by_cases shape : operation.sourceDimensions = 0 ∨ ¬operation.sourceDimensions ∣ points.length
  · rw [if_pos shape]
    refine (Decides.error _).congr (fun _ => ?_) (fun stop => ?_)
    · refine ⟨False.elim, fun holds => ?_⟩
      exact shape.elim holds.axes (fun notWhole => notWhole holds.whole)
    · constructor
      · rintro rfl
        exact .shape shape
      · intro violated
        cases violated with
        | shape => rfl
        | batch axes whole => exact absurd shape (not_or.mpr ⟨axes, not_not.mpr whole⟩)
        | single axes whole => exact absurd shape (not_or.mpr ⟨axes, not_not.mpr whole⟩)
        | noRoom axes whole => exact absurd shape (not_or.mpr ⟨axes, not_not.mpr whole⟩)
        | differ axes whole => exact absurd shape (not_or.mpr ⟨axes, not_not.mpr whole⟩)
  · rw [if_neg shape]
    rw [not_or, not_not] at shape
    obtain ⟨axes, whole⟩ := shape
    refine ((decides_transformChecked operation points).bind fun batch _ =>
      (decides_transformSingly operation _).bind fun singles _ =>
        (decides_reserve _).bind fun _ _ =>
          (decides_compareCoordinates_zero batch singles _).ofResult).congr
            (fun _ => ?_) (fun stop => ?_)
    · constructor
      · rintro ⟨batch, maps, _, ⟨singles, all, rfl⟩, _, room, values, _, same⟩
        exact ⟨axes, whole, values, room, batch, singles, maps, all, same⟩
      · rintro ⟨_, _, values, room, batch, singles, maps, all, same⟩
        refine ⟨batch, maps, _, ⟨singles, all, rfl⟩, (), room, values, ?_, same⟩
        rw [maps.length_eq]
        exact Nat.dvd_mul_left _ _
    · constructor
      · rintro (rejects | ⟨batch, maps, rejected | ⟨_, ⟨singles, all, rfl⟩,
          ⟨tooLarge, rfl⟩ | ⟨_, room, _, result, rfl⟩⟩⟩)
        · exact .batch axes whole rejects
        · exact .single axes whole batch maps rejected
        · exact .noRoom axes whole batch maps singles all tooLarge
        · exact .differ axes whole batch maps singles all room result
      · intro violated
        cases violated with
        | shape shape => exact absurd shape (not_or.mpr ⟨axes, not_not.mpr whole⟩)
        | batch _ _ rejects => exact Or.inl rejects
        | single _ _ batch maps rejected => exact Or.inr ⟨batch, maps, Or.inl rejected⟩
        | noRoom _ _ batch maps singles all tooLarge =>
            exact Or.inr ⟨batch, maps, Or.inr ⟨_, ⟨singles, all, rfl⟩, Or.inl ⟨tooLarge, rfl⟩⟩⟩
        | differ _ _ batch maps singles all room result =>
            exact Or.inr ⟨batch, maps, Or.inr ⟨_, ⟨singles, all, rfl⟩,
              Or.inr ⟨(), room, _, result, rfl⟩⟩⟩

end Programs

open scoped ExactSizes in
theorem not_consistencyViolated_panic {points : List Float} {operation : Operation} :
    ¬ConsistencyViolated points operation .panic := by
  intro violated
  cases violated with
  | batch _ _ rejects => exact not_rejects_panic rejects
  | single _ _ _ _ rejected =>
      obtain ⟨_, _, _, rejects, _⟩ := rejected
      exact not_rejects_panic rejects
  | noRoom _ _ _ _ _ _ tooLarge => simp at tooLarge

end CoordinateConformance
