import Mathlib
import CoordinateConformance.Geodesy.Ellipsoid

/-!
Contract: the formulas of the library read over the real numbers.

Where `RealNumbers` is open, `Arithmetic` has an instance with exact operations, in which every
number is finite, and `ElementaryFunctions.real` are the functions of analysis. A formula that is
read with them says what it would compute without any rounding.

Owns: `ElementaryFunctions.real`, `toDegrees_toRadians`, `toRadians_toDegrees`,
`Ellipsoid.eccentricity_real`.

Does **not** own: any formula of a projection.
-/

namespace CoordinateConformance

namespace RealNumbers

-- scoped, since real numbers have these operations already
/-- Exact operations. -/
noncomputable scoped instance arithmetic : Arithmetic ℝ where
  pi := Real.pi
  sqrt := Real.sqrt
  abs x := |x|
  lt x y := decide (x < y)
  isFinite _ := true

end RealNumbers

open scoped RealNumbers

/-- The functions of analysis. -/
noncomputable def ElementaryFunctions.real : ElementaryFunctions ℝ where
  sin := Real.sin
  cos := Real.cos
  tan := Real.tan
  asin := Real.arcsin
  atan := Real.arctan
  atan2 y x := (⟨x, y⟩ : ℂ).arg
  sinh := Real.sinh
  atanh := Real.artanh
  exp := Real.exp
  log := Real.log
  pow x y := x ^ y

/-! ## Angles -/

theorem toRadians_real (degrees : ℝ) : toRadians degrees = degrees * (Real.pi / 180) := by
  show degrees * (Real.pi / 180.0) = _
  norm_num

theorem toDegrees_real (radians : ℝ) : toDegrees radians = radians * (180 / Real.pi) := by
  show radians * (180.0 / Real.pi) = _
  norm_num

@[simp]
theorem toDegrees_toRadians (degrees : ℝ) : toDegrees (toRadians degrees) = degrees := by
  have piNonzero := Real.pi_ne_zero
  rw [toRadians_real, toDegrees_real]
  field_simp

@[simp]
theorem toRadians_toDegrees (radians : ℝ) : toRadians (toDegrees radians) = radians := by
  have piNonzero := Real.pi_ne_zero
  rw [toRadians_real, toDegrees_real]
  field_simp

theorem toRadians_lt_toRadians {first second : ℝ} (less : first < second) :
    toRadians first < toRadians second := by
  have positive : 0 < Real.pi / 180 := div_pos Real.pi_pos (by norm_num)
  rw [toRadians_real, toRadians_real]
  exact mul_lt_mul_of_pos_right less positive

/-! ## Ellipsoids -/

namespace Ellipsoid

theorem eccentricity_real (ellipsoid : Ellipsoid ℝ) :
    ellipsoid.eccentricity =
      √(2 * ellipsoid.inverseFlattening⁻¹ - ellipsoid.inverseFlattening⁻¹ ^ 2) := by
  show √(2.0 * (1.0 / ellipsoid.inverseFlattening) -
    1.0 / ellipsoid.inverseFlattening * (1.0 / ellipsoid.inverseFlattening)) = _
  norm_num
  ring_nf

end Ellipsoid

/-- WGS 84 over the real numbers. -/
noncomputable def realWgs84 : Ellipsoid ℝ := ⟨6378137, 298.257223563⟩

end CoordinateConformance
