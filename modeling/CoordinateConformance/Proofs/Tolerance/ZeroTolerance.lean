import CoordinateConformance.Proofs.Tolerance.AxisWise
import CoordinateConformance.Proofs.Verification.ConsistencyCheck

/-!
Contract: a tolerance of zero under the modifiers of the catalogue.

Multiplying zero by a factor and dividing it by the length of a degree give zero again, or no number
at all: `0 / 0` where the cosine of a latitude vanishes. Either way nothing but the same value lies
within the tolerance, because different numbers are never a zero apart. So a comparison that starts
from zero tolerances asks for equality, under every modifier, for every calculation and whatever
the actual coordinates are.

Owns: `Vanishes`, `vanishes_onAxis`, `compareWithModifier_zero_eq_ok_iff`.

Does **not** own: tolerances other than zero.
-/

namespace CoordinateConformance

open Binary64

/-- The tolerance is a zero of either sign, or not a number. -/
def Vanishes (tolerance : Float) : Prop :=
  value tolerance = 0

section Arithmetic

variable {tolerance : Float} (vanishes : Vanishes tolerance)

include vanishes

/-- No factor takes a tolerance away from zero, an infinite one makes it undefined. -/
theorem Vanishes.mul (factor : Float) : Vanishes (tolerance * factor) := by
  apply magnitude_eq_zero_iff.mp
  rw [magnitude_mul, magnitude_eq_zero_iff.mpr vanishes, zero_mul, rounded_zero]

/-- Nor does a divisor that is a number; the divisor zero makes it undefined. -/
theorem Vanishes.div {divisor : Float} (number : divisor.isNaN = false) :
    Vanishes (tolerance / divisor) := by
  apply magnitude_eq_zero_iff.mp
  rw [magnitude_div tolerance number, magnitude_eq_zero_iff.mpr vanishes, ENNReal.zero_div,
    rounded_zero]

theorem Vanishes.greaterNumber {other : Float} (vanishesToo : Vanishes other) :
    Vanishes (greaterNumber tolerance other) := by
  rcases greaterNumber_eq_or tolerance other with equal | equal
  · rw [equal]
    exact vanishes
  · rw [equal]
    exact vanishesToo

/-- Different numbers are never a zero apart, and no difference is within NaN. -/
theorem Vanishes.isExact : IsExact tolerance := by
  intro first second passes
  rcases passes with equal | undefined | close
  · exact Or.inl equal
  · exact Or.inr undefined
  · obtain ⟨number, _, valueLe⟩ := le_iff.mp close
    have zero : value tolerance = 0 := vanishes
    rw [zero, ← value_zero] at valueLe
    exact Or.inl (beq_of_abs_sub_le_zero (le_iff.mpr ⟨number, isNaN_zero, valueLe⟩))

end Arithmetic

/-! ## Modifiers -/

section Modifiers

variable {functions : ElementaryFunctions Float} {count : Nat} {coordinate : List Float}
  {calculation : Calculation} {axis : Nat} {tolerance : Float}

/-- A degree has a length that is a number, so both divisions keep a vanishing tolerance. -/
theorem MetresToDegrees.vanishes_onAxis (conversion : MetresToDegrees)
    (vanishes : Vanishes tolerance) :
    Vanishes (conversion.onAxis functions count coordinate calculation axis tolerance) := by
  have degrees : Vanishes (tolerance / metresPerDegree) :=
    vanishes.div isDivisor_metresPerDegree.number
  unfold MetresToDegrees.onAxis
  split
  · exact vanishes
  · split
    next => exact vanishes
    next latitude _ =>
      have number := (isDivisor_metresPerLongitudeDegree functions latitude).number
      dsimp only
      split_ifs with missing isLongitude isLatitude isLatitude
      · exact vanishes
      · exact degrees.div number
      · exact vanishes.div number
      · exact degrees
      · exact vanishes

theorem Scale.vanishes_onAxis (factors : Scale) (vanishes : Vanishes tolerance) :
    Vanishes (factors.onAxis calculation axis tolerance) := by
  unfold Scale.onAxis
  split_ifs with selected
  · cases factors.factors[axis]? with
    | none => exact vanishes
    | some factor => exact vanishes.mul factor
  · exact vanishes

/-- No modifier of the catalogue takes a tolerance away from zero. -/
theorem CatalogueModifier.vanishes_onAxis (catalogue : CatalogueModifier)
    (vanishes : Vanishes tolerance) :
    Vanishes (catalogue.onAxis functions count coordinate calculation axis tolerance) := by
  induction catalogue generalizing tolerance with
  | identity => exact vanishes
  | metresToDegrees conversion => exact conversion.vanishes_onAxis vanishes
  | scale factors => exact factors.vanishes_onAxis vanishes
  | maximum first second firstVanishes secondVanishes =>
      exact (firstVanishes vanishes).greaterNumber (secondVanishes vanishes)
  | concatenate first second firstVanishes secondVanishes =>
      exact secondVanishes (firstVanishes vanishes)

/-- All tolerances that are adjusted from zero vanish. -/
theorem vanishes_adjusted {catalogue : CatalogueModifier} {dimension : Nat}
    (adjustedEq : (Comparison.adjusted (catalogue.toModifier functions)
      (List.replicate dimension 0.0) calculation coordinate)[axis]? = some tolerance) :
    Vanishes tolerance := by
  have zero : ∀ original, (List.replicate dimension (0.0 : Float))[axis]? = some original →
      Vanishes original := by
    intro original originalEq
    rw [List.eq_of_mem_replicate (List.mem_of_getElem? originalEq)]
    exact value_zero
  cases calculation with
  | strict => exact zero tolerance adjustedEq
  | _ =>
      simp only [Comparison.adjusted, catalogue.getElem?_apply] at adjustedEq
      obtain ⟨original, originalEq, rfl⟩ := Option.map_eq_some_iff.mp adjustedEq
      exact catalogue.vanishes_onAxis (zero original originalEq)

end Modifiers

/-! ## Result -/

/-- With zero tolerances, whole points agree exactly if all their values are equal, or not a number
at the same places, whatever modifier of the catalogue adjusts the tolerances. -/
theorem compareWithModifier_zero_eq_ok_iff (functions : ElementaryFunctions Float)
    (catalogue : CatalogueModifier) (calculation : Calculation) (dimension : Nat)
    (expected actual : List Float) :
    compareWithModifier expected actual (List.replicate dimension 0.0) dimension
        (catalogue.toModifier functions) calculation = .ok () ↔
      dimension ≠ 0 ∧ dimension ∣ expected.length ∧ List.Forall₂ Same expected actual := by
  rw [Comparison.agree_iff, agree_iff_of_isExact, List.length_replicate]
  · simp only [true_and]
  · intro point axis tolerance adjustedEq
    exact (vanishes_adjusted adjustedEq).isExact

end CoordinateConformance
