import CoordinateConformance.Proofs.Binary64.Identities
import CoordinateConformance.Proofs.Comparison.Result

/-!
Contract: the two lists of a plain comparison can change places.

Two values pass in both orders or in none, because their distance does not depend on the order,
whatever they are. So both comparisons stop at the same axis of the same point, and the failure of
one is that of the other with the two values exchanged. Of the shapes, only lists of different
lengths tell the two lists apart.

Owns: `ComparisonFailure.exchanged`, `ConformanceError.exchanged`, `compareCoordinates_symmetric`.

Does **not** own: comparisons with a modifier, which looks at the actual coordinate only.
-/

namespace CoordinateConformance

open Comparison

/-! ## Exchanged failures -/

/-- The same failure with the expected and the actual value exchanged. -/
def ComparisonFailure.exchanged (failure : ComparisonFailure) : ComparisonFailure :=
  { failure with expected := failure.actual, actual := failure.expected }

/-- What a comparison of the exchanged lists reports. -/
def ConformanceError.exchanged : ConformanceError → ConformanceError
  | .toleranceExceeded failure => .toleranceExceeded failure.exchanged
  | .dimensionMismatch context expected actual =>
      if context = "actual coordinates" then .dimensionMismatch context actual expected
      else .dimensionMismatch context expected actual
  | error => error

namespace Comparison

/-! ## One axis -/

theorem beq_exchange (x y : Float) : (y == x) = (x == y) := by
  rw [Bool.eq_iff_iff, Binary64.beq_iff, Binary64.beq_iff]
  constructor <;> exact fun ⟨left, right, same⟩ => ⟨right, left, same.symm⟩

theorem isWithinTolerance_exchange (expected actual tolerance : Float) :
    isWithinTolerance actual expected tolerance = isWithinTolerance expected actual tolerance := by
  unfold isWithinTolerance
  rw [beq_exchange, Bool.and_comm, Binary64.abs_minus_exchange]

/-! ## The loops over axes and points -/

section Loops

variable (calculation : Calculation)

theorem failingAxis_exchange (point axis : Nat) (expected actual tolerances : List Float) :
    failingAxis calculation point axis actual expected tolerances =
      (failingAxis calculation point axis expected actual tolerances).map
        ComparisonFailure.exchanged := by
  induction axis, expected, actual, tolerances using failingAxis.induct with
  | case1 axis e expected a actual t tolerances within inductionHypothesis =>
      have exchanged := (isWithinTolerance_exchange e a t).trans within
      rw [failingAxis, failingAxis, if_pos within, if_pos exchanged]
      exact inductionHypothesis
  | case2 axis e expected a actual t tolerances outside =>
      have exchanged := (isWithinTolerance_exchange e a t).trans_ne outside
      rw [failingAxis, failingAxis, if_neg outside, if_neg exchanged, Binary64.abs_minus_exchange]
      rfl
  | case3 expected axis actual tolerances exhausted =>
      rw [failingAxis.eq_2 _ _ _ _ _ _ exhausted,
        failingAxis.eq_2 _ _ _ _ _ _ fun a as e es t ts actualEq expectedEq =>
          exhausted e es a as t ts expectedEq actualEq]
      rfl

/-- Without a modifier, the coordinate that is looked at gives the same tolerances. -/
theorem comparePoints_exchange (tolerances : List Float) (point : Nat)
    (expected actual : List (List Float))
    (expectedLengths : ∀ coordinate ∈ expected, coordinate.length = tolerances.length)
    (actualLengths : ∀ coordinate ∈ actual, coordinate.length = tolerances.length) :
    comparePoints .identity tolerances calculation point actual expected =
      (comparePoints .identity tolerances calculation point expected actual).mapError
        ConformanceError.exchanged := by
  induction point, expected, actual using comparePoints.induct with
  | case1 point e expected a actual inductionHypothesis =>
      rw [List.forall_mem_cons] at expectedLengths actualLengths
      rw [comparePoints_cons _ _ _ _ _ actualLengths.1,
        comparePoints_cons _ _ _ _ _ expectedLengths.1]
      have same : adjusted .identity tolerances calculation e =
          adjusted .identity tolerances calculation a := by
        cases calculation <;> rfl
      rw [same, failingAxis_exchange]
      cases failingAxis calculation point 0 e a (adjusted .identity tolerances calculation a) with
      | some failure => rfl
      | none => exact inductionHypothesis expectedLengths.2 actualLengths.2
  | case2 expected point actual exhausted =>
      rw [comparePoints.eq_2 _ _ _ _ _ _ exhausted,
        comparePoints.eq_2 _ _ _ _ _ _ fun a as e es actualEq expectedEq =>
          exhausted e es a as expectedEq actualEq]
      rfl

end Loops

end Comparison

/-! ## The whole comparison -/

section Comparisons

variable (expected actual tolerances : List Float) (dimension : Nat) (calculation : Calculation)

theorem compareCoordinates_eq_mapError :
    compareCoordinates actual expected tolerances dimension calculation =
      (compareCoordinates expected actual tolerances dimension calculation).mapError
        ConformanceError.exchanged := by
  unfold compareCoordinates
  rw [compareWithModifier_eq_ite, compareWithModifier_eq_ite]
  by_cases axes : dimension ≠ 0
  case neg => rw [if_neg axes, if_neg axes]; rfl
  rw [if_pos axes, if_pos axes]
  by_cases same : dimension = tolerances.length
  case neg => rw [if_neg same, if_neg same]; rfl
  rw [if_pos same, if_pos same]
  by_cases lengths : expected.length = actual.length
  case neg => rw [if_neg lengths, if_neg (Ne.symm lengths)]; rfl
  rw [if_pos lengths, if_pos lengths.symm, ← lengths]
  by_cases whole : expected.length % dimension = 0
  case neg => rw [if_neg whole, if_neg whole]; rfl
  rw [if_pos whole, if_pos whole]
  exact comparePoints_exchange calculation tolerances 0 _ _
    (fun point mem => (length_of_mem_points mem).trans same)
    (fun point mem => (length_of_mem_points mem).trans same)

/-- A plain comparison passes in both orders of its lists or in none. It fails in both orders at the
same axis of the same point, with the same deviation and tolerance; only the expected and the actual
value are exchanged. -/
theorem compareCoordinates_symmetric :
    (compareCoordinates actual expected tolerances dimension calculation = .ok () ↔
      compareCoordinates expected actual tolerances dimension calculation = .ok ()) ∧
    ∀ failure : ComparisonFailure,
      compareCoordinates actual expected tolerances dimension calculation =
          .error (.toleranceExceeded failure.exchanged) ↔
        compareCoordinates expected actual tolerances dimension calculation =
          .error (.toleranceExceeded failure) := by
  have exchanged := compareCoordinates_eq_mapError expected actual tolerances dimension calculation
  have exchangedBack :=
    compareCoordinates_eq_mapError actual expected tolerances dimension calculation
  refine ⟨⟨?_, ?_⟩, fun failure => ⟨?_, ?_⟩⟩
  · intro ok
    rw [exchangedBack, ok]
    rfl
  · intro ok
    rw [exchanged, ok]
    rfl
  · intro error
    rw [exchangedBack, error]
    rfl
  · intro error
    rw [exchanged, error]
    rfl

end Comparisons

end CoordinateConformance
