import Mathlib.Algebra.Order.Archimedean.Real.Basic
import Mathlib.Algebra.Order.Field.Power
import Mathlib.Data.ENNReal.Real
import Mathlib.Data.Int.Log
import Mathlib.Tactic.FieldSimp
import Mathlib.Tactic.Linarith
import Mathlib.Tactic.Positivity

/-!
Contract: rounding to binary64, as a function of exact magnitudes.

`nearest` rounds a non-negative real number to 53 significant bits, or to a multiple of the
least subnormal number where that is coarser, a half going to the even neighbour. `rounded`
adds the overflow to infinity. Both are monotone. The algebra of `ℝ≥0∞` fits the tolerances
of a comparison: `0 / 0`, `∞ / ∞` and `∞ * 0`, for which there is no number, are zero.

Owns: monotonicity of rounding, and that it keeps the numbers of the format.

Does **not** own: that an operation on `Float` is such a rounding.
-/

namespace CoordinateConformance.Binary64

open scoped ENNReal

noncomputable section

/-! ## Rounding to a natural number -/

/-- The nearest natural number, a half going to the even one. -/
def nearestNatural (x : ℝ) : ℕ :=
  if x < ⌊x⌋₊ + 1 / 2 then ⌊x⌋₊
  else if x = ⌊x⌋₊ + 1 / 2 then ⌊x⌋₊ + ⌊x⌋₊ % 2
  else ⌊x⌋₊ + 1

@[simp]
theorem nearestNatural_natCast (n : ℕ) : nearestNatural n = n := by
  simp [nearestNatural]

theorem nearestNatural_bounds (x : ℝ) :
    ⌊x⌋₊ ≤ nearestNatural x ∧ nearestNatural x ≤ ⌊x⌋₊ + 1 := by
  unfold nearestNatural
  split_ifs <;> omega

theorem nearestNatural_mono {x y : ℝ} (le : x ≤ y) : nearestNatural x ≤ nearestNatural y := by
  have floors : ⌊x⌋₊ ≤ ⌊y⌋₊ := Nat.floor_mono le
  rcases floors.eq_or_lt with same | less
  · unfold nearestNatural
    rw [← same]
    split_ifs <;> grind
  · have upper := (nearestNatural_bounds x).2
    have lower := (nearestNatural_bounds y).1
    omega

/-- Numbers within a half of a natural number round to it; a half itself only to an even one. -/
theorem nearestNatural_eq {x : ℝ} {n : ℕ} (low : n - 1 / 2 ≤ x) (high : x ≤ n + 1 / 2)
    (interior : n % 2 = 1 → n - 1 / 2 < x ∧ x < n + 1 / 2) : nearestNatural x = n := by
  rcases le_or_gt (n : ℝ) x with above | below
  · have floor : ⌊x⌋₊ = n := by
      rw [Nat.floor_eq_iff (n.cast_nonneg.trans above)]
      exact ⟨above, by linarith⟩
    unfold nearestNatural
    rw [floor]
    rcases high.lt_or_eq with inside | middle
    · rw [if_pos inside]
    · have even : n % 2 = 0 := by
        by_contra odd
        exact absurd (interior (by omega)).2 (not_lt.mpr middle.ge)
      rw [if_neg (not_lt.mpr middle.ge), if_pos middle, even, add_zero]
  · cases n with
    | zero =>
        have negative : x < 0 := by simpa using below
        have floor : ⌊x⌋₊ = 0 := Nat.floor_eq_zero.mpr (by linarith)
        unfold nearestNatural
        rw [floor, if_pos]
        push_cast
        linarith
    | succ less =>
        push_cast at low below interior
        have nonneg : (0 : ℝ) ≤ less := less.cast_nonneg
        have floor : ⌊x⌋₊ = less := by
          rw [Nat.floor_eq_iff (by linarith)]
          exact ⟨by linarith, below⟩
        unfold nearestNatural
        rw [floor, if_neg (by linarith)]
        split_ifs with middle
        · have odd : less % 2 = 1 := by
            by_contra even
            linarith [(interior (by omega)).1]
          rw [odd]
        · rfl

/-! ## Rounding to the format -/

/-- The value of a mantissa and an exponent. -/
def scaled (mantissa : ℕ) (exponent : ℤ) : ℝ :=
  mantissa * 2 ^ exponent

/-- Numbers of the format near `x` are multiples of two to this exponent. -/
def ulpExponent (x : ℝ) : ℤ :=
  max (Int.log 2 x - 52) (-1074)

/-- The nearest number with 53 significant bits, in the exponent range downwards only. -/
def nearest (x : ℝ) : ℝ :=
  nearestNatural (x / 2 ^ ulpExponent x) * 2 ^ ulpExponent x

theorem ulpExponent_eq {x : ℝ} {exponent : ℤ} (positive : 0 < x) (least : -1074 ≤ exponent)
    (leading : 2 ^ (52 + exponent) ≤ x ∨ exponent = -1074) (upper : x < 2 ^ (53 + exponent)) :
    ulpExponent x = exponent := by
  have above : Int.log 2 x < 53 + exponent :=
    (Int.lt_zpow_iff_log_lt (by norm_num) positive).mp (by simpa using upper)
  unfold ulpExponent
  rcases leading with lower | subnormal
  · have below : 52 + exponent ≤ Int.log 2 x :=
      (Int.zpow_le_iff_le_log (by norm_num) positive).mp (by simpa using lower)
    omega
  · omega

/-- A number rounds to the multiple that it is at most half a unit away from, an even one if it is
in the middle between two. -/
theorem nearest_eq_of_ulpExponent {x : ℝ} {n : ℕ} {exponent : ℤ} (grid : ulpExponent x = exponent)
    (low : (n - 1 / 2) * 2 ^ exponent ≤ x) (high : x ≤ (n + 1 / 2) * 2 ^ exponent)
    (interior : n % 2 = 1 → (n - 1 / 2) * 2 ^ exponent < x ∧ x < (n + 1 / 2) * 2 ^ exponent) :
    nearest x = n * 2 ^ exponent := by
  have unit : (0 : ℝ) < 2 ^ exponent := by positivity
  rw [nearest, grid, nearestNatural_eq]
  · rwa [le_div_iff₀ unit]
  · rwa [div_le_iff₀ unit]
  · rwa [lt_div_iff₀ unit, div_lt_iff₀ unit]

theorem nearest_nonneg (x : ℝ) : 0 ≤ nearest x := by
  unfold nearest
  positivity

/-- A natural number times two to an exponent in the range of the format is kept if it has at
most 53 bits. -/
theorem nearest_scaled {mantissa : ℕ} {exponent : ℤ} (small : mantissa < 2 ^ 53)
    (least : -1074 ≤ exponent) :
    nearest (mantissa * 2 ^ exponent) = mantissa * 2 ^ exponent := by
  rcases Nat.eq_zero_or_pos mantissa with rfl | positive
  · simp [nearest, nearestNatural]
  · have valuePositive : (0 : ℝ) < mantissa * 2 ^ exponent := by positivity
    have below : (mantissa : ℝ) * 2 ^ exponent < (2 : ℕ) ^ (53 + exponent) := by
      rw [Nat.cast_ofNat, zpow_add₀ two_ne_zero]
      gcongr
      exact_mod_cast small
    have logarithm := (Int.lt_zpow_iff_log_lt (by norm_num) valuePositive).mp below
    have ulpLe : ulpExponent (mantissa * 2 ^ exponent) ≤ exponent := by
      unfold ulpExponent
      omega
    unfold nearest
    obtain ⟨shift, shiftEq⟩ := Int.le.dest ulpLe
    generalize ulpExponent (mantissa * 2 ^ exponent) = ulp at shiftEq
    have multiple : (mantissa : ℝ) * 2 ^ exponent / 2 ^ ulp =
        ((mantissa * 2 ^ shift : ℕ) : ℝ) := by
      rw [← shiftEq, zpow_add₀ two_ne_zero, zpow_natCast]
      push_cast
      field_simp
    rw [multiple, nearestNatural_natCast, ← multiple]
    field_simp

@[simp]
theorem nearest_zero : nearest 0 = 0 := by
  simpa using @nearest_scaled 0 0 (by norm_num) (by norm_num)

/-- Rounding does not cross a multiple of the unit in the last place. -/
theorem nearest_le_multiple {x : ℝ} {count : ℕ} (le : x ≤ count * 2 ^ ulpExponent x) :
    nearest x ≤ count * 2 ^ ulpExponent x := by
  have quotient : x / 2 ^ ulpExponent x ≤ count := by
    rw [div_le_iff₀ (by positivity)]
    exact le
  have naturals := nearestNatural_mono quotient
  rw [nearestNatural_natCast] at naturals
  unfold nearest
  gcongr

theorem multiple_le_nearest {x : ℝ} {count : ℕ} (le : count * 2 ^ ulpExponent x ≤ x) :
    count * 2 ^ ulpExponent x ≤ nearest x := by
  have quotient : (count : ℝ) ≤ x / 2 ^ ulpExponent x := by
    rw [le_div_iff₀ (by positivity)]
    exact le
  have naturals := nearestNatural_mono quotient
  rw [nearestNatural_natCast] at naturals
  unfold nearest
  gcongr

/-- Where the larger number has the greater exponent, a power of two lies between the two
results. -/
theorem nearest_mono {x y : ℝ} (nonneg : 0 ≤ x) (le : x ≤ y) : nearest x ≤ nearest y := by
  rcases nonneg.eq_or_lt with rfl | positive
  · rw [nearest_zero]
    exact nearest_nonneg y
  · have logarithms : Int.log 2 x ≤ Int.log 2 y := Int.log_mono_right positive le
    by_cases same : ulpExponent x = ulpExponent y
    · unfold nearest
      rw [same]
      gcongr
      exact nearestNatural_mono (by gcongr)
    · -- the grid of `y` is coarser, so the leading power of two of `y` is on both grids
      have exponents : ulpExponent x + 53 ≤ Int.log 2 y + 1 ∧
          ulpExponent y + 52 = Int.log 2 y ∧ Int.log 2 x + 1 ≤ Int.log 2 y := by
        unfold ulpExponent at *
        omega
      obtain ⟨shift, shiftEq⟩ := Int.le.dest (show ulpExponent x ≤ Int.log 2 y by omega)
      have upper : nearest x ≤ 2 ^ Int.log 2 y := by
        have power : (2 : ℝ) ^ Int.log 2 y = ((2 ^ shift : ℕ) : ℝ) * 2 ^ ulpExponent x := by
          rw [← shiftEq, zpow_add₀ two_ne_zero, zpow_natCast]
          push_cast
          ring
        have belowPower : x ≤ 2 ^ Int.log 2 y := by
          calc x ≤ (2 : ℕ) ^ (Int.log 2 x + 1) := (Int.lt_zpow_succ_log_self (by norm_num) x).le
            _ ≤ 2 ^ Int.log 2 y := by
              rw [Nat.cast_ofNat]
              exact zpow_le_zpow_right₀ (by norm_num) exponents.2.2
        rw [power] at belowPower ⊢
        exact nearest_le_multiple belowPower
      have lower : 2 ^ Int.log 2 y ≤ nearest y := by
        have power : (2 : ℝ) ^ Int.log 2 y = ((2 ^ 52 : ℕ) : ℝ) * 2 ^ ulpExponent y := by
          rw [← exponents.2.1, zpow_add₀ two_ne_zero]
          norm_num
          ring
        have abovePower : (2 : ℝ) ^ Int.log 2 y ≤ y := by
          have := Int.zpow_log_le_self (b := 2) (by norm_num) (positive.trans_le le)
          simpa using this
        rw [power] at abovePower ⊢
        exact multiple_le_nearest abovePower
      exact upper.trans lower

/-- At most 53 bits are kept, or a carry has made them two to the power of 53. -/
theorem nearestNatural_le (x : ℝ) :
    nearestNatural (x / 2 ^ ulpExponent x) ≤ 2 ^ 53 := by
  have quotient : x / 2 ^ ulpExponent x ≤ ((2 ^ 53 : ℕ) : ℝ) := by
    rw [div_le_iff₀ (by positivity)]
    calc x ≤ (2 : ℕ) ^ (Int.log 2 x + 1) := (Int.lt_zpow_succ_log_self (by norm_num) x).le
      _ ≤ 2 ^ (53 + ulpExponent x) := by
        rw [Nat.cast_ofNat]
        refine zpow_le_zpow_right₀ (by norm_num) ?_
        unfold ulpExponent
        omega
      _ = ((2 ^ 53 : ℕ) : ℝ) * 2 ^ ulpExponent x := by
        rw [zpow_add₀ two_ne_zero]
        norm_num
  exact (nearestNatural_mono quotient).trans_eq (nearestNatural_natCast _)

/-- Above the least exponent, all 53 bits are used. -/
theorem le_nearestNatural {x : ℝ} (positive : 0 < x) (above : ulpExponent x ≠ -1074) :
    2 ^ 52 ≤ nearestNatural (x / 2 ^ ulpExponent x) := by
  have quotient : ((2 ^ 52 : ℕ) : ℝ) ≤ x / 2 ^ ulpExponent x := by
    rw [le_div_iff₀ (by positivity)]
    calc ((2 ^ 52 : ℕ) : ℝ) * 2 ^ ulpExponent x = 2 ^ (52 + ulpExponent x) := by
          rw [zpow_add₀ two_ne_zero]
          norm_num
      _ = (2 : ℕ) ^ Int.log 2 x := by
        rw [Nat.cast_ofNat]
        congr 1
        unfold ulpExponent at *
        omega
      _ ≤ x := Int.zpow_log_le_self (by norm_num) positive
  exact (nearestNatural_natCast _).symm.trans_le (nearestNatural_mono quotient)

/-! ## Overflow -/

/-- The least power of two beyond the format. -/
def overflowBound : ℝ := 2 ^ (1024 : ℤ)

/-- The nearest number of the format, infinity included. -/
def rounded (x : ℝ≥0∞) : ℝ≥0∞ :=
  if x = ∞ ∨ overflowBound ≤ nearest x.toReal then ∞ else ENNReal.ofReal (nearest x.toReal)

@[simp]
theorem rounded_top : rounded ∞ = ∞ := by
  simp [rounded]

theorem rounded_ofReal {x : ℝ} (nonneg : 0 ≤ x) :
    rounded (ENNReal.ofReal x) =
      if overflowBound ≤ nearest x then ∞ else ENNReal.ofReal (nearest x) := by
  simp [rounded, ENNReal.toReal_ofReal nonneg]

@[simp]
theorem rounded_zero : rounded 0 = 0 := by
  have bound : ¬overflowBound ≤ 0 := by
    unfold overflowBound
    exact not_le.mpr (by positivity)
  simp [rounded, bound]

theorem rounded_mono {x y : ℝ≥0∞} (le : x ≤ y) : rounded x ≤ rounded y := by
  unfold rounded
  by_cases overflow : y = ∞ ∨ overflowBound ≤ nearest y.toReal
  · rw [if_pos overflow]
    exact le_top
  · obtain ⟨finite, within⟩ := not_or.mp overflow
    have reals : x.toReal ≤ y.toReal := ENNReal.toReal_mono finite le
    have values := nearest_mono ENNReal.toReal_nonneg reals
    have smallFinite : x ≠ ∞ := ne_top_of_le_ne_top finite le
    have small : ¬(x = ∞ ∨ overflowBound ≤ nearest x.toReal) := by
      simp only [smallFinite, false_or, not_le] at *
      exact values.trans_lt within
    rw [if_neg small, if_neg overflow]
    exact ENNReal.ofReal_le_ofReal values

end

end CoordinateConformance.Binary64
