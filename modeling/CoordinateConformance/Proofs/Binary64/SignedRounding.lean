import CoordinateConformance.Proofs.Binary64.Rounding

/-!
Contract: rounding of signed reals, and its error.

`nearestSigned` extends `nearest` to negative numbers. The error of rounding is at most half a
unit in the last place, so multiplying by a factor and dividing by it again ends at most one
unit away from the start; where the product is exact, it ends at the start.

Owns: `nearestSigned_mono`, `nearest_quotient_le`, `le_nearest_quotient`,
`nearest_quotient_exact`.

Does **not** own: that an operation on `Float` is such a rounding.
-/

namespace CoordinateConformance.Binary64

noncomputable section

/-! ## Signs -/

/-- The nearest number with 53 significant bits, of either sign. -/
def nearestSigned (x : ℝ) : ℝ :=
  if x < 0 then -nearest (-x) else nearest x

theorem nearestSigned_of_nonneg {x : ℝ} (nonneg : 0 ≤ x) : nearestSigned x = nearest x :=
  if_neg (not_lt.mpr nonneg)

theorem nearestSigned_of_neg {x : ℝ} (negative : x < 0) : nearestSigned x = -nearest (-x) :=
  if_pos negative

theorem nearestSigned_mono {x y : ℝ} (le : x ≤ y) : nearestSigned x ≤ nearestSigned y := by
  rcases lt_or_ge x 0 with negative | nonneg
  · rw [nearestSigned_of_neg negative]
    rcases lt_or_ge y 0 with negativeToo | nonneg
    · rw [nearestSigned_of_neg negativeToo, neg_le_neg_iff]
      exact nearest_mono (by linarith) (by linarith)
    · rw [nearestSigned_of_nonneg nonneg]
      linarith [nearest_nonneg (-x), nearest_nonneg y]
  · rw [nearestSigned_of_nonneg nonneg, nearestSigned_of_nonneg (nonneg.trans le)]
    exact nearest_mono nonneg le

/-! ## Bounds -/

theorem nearest_le_two_zpow {x : ℝ} {exponent : ℤ} (nonneg : 0 ≤ x) (least : -1074 ≤ exponent)
    (le : x ≤ 2 ^ exponent) : nearest x ≤ 2 ^ exponent := by
  have kept : nearest (2 ^ exponent) = 2 ^ exponent := by
    simpa using @nearest_scaled 1 exponent (by norm_num) least
  exact (nearest_mono nonneg le).trans_eq kept

theorem two_zpow_le_nearest {x : ℝ} {exponent : ℤ} (least : -1074 ≤ exponent)
    (le : 2 ^ exponent ≤ x) : 2 ^ exponent ≤ nearest x := by
  have kept : nearest (2 ^ exponent) = 2 ^ exponent := by
    simpa using @nearest_scaled 1 exponent (by norm_num) least
  exact kept.symm.trans_le (nearest_mono (by positivity) le)

theorem abs_nearestNatural_sub_le {x : ℝ} (nonneg : 0 ≤ x) : |nearestNatural x - x| ≤ 1 / 2 := by
  have lower := Nat.floor_le nonneg
  have upper := Nat.lt_floor_add_one x
  have parity := Nat.mod_two_eq_zero_or_one ⌊x⌋₊
  unfold nearestNatural
  rw [abs_le]
  split_ifs with below half
  · constructor <;> linarith
  · rcases parity with even | odd
    · rw [even, add_zero]
      constructor <;> linarith
    · rw [odd]
      push_cast
      constructor <;> linarith
  · rw [not_lt] at below
    push_cast
    constructor <;> linarith

/-- Where 53 bits are kept, the error is relative. -/
theorem abs_nearest_sub_le {x : ℝ} (normal : 2 ^ (-1022 : ℤ) ≤ x) :
    |nearest x - x| ≤ x * 2 ^ (-53 : ℤ) := by
  have positive : 0 < x := lt_of_lt_of_le (by positivity) normal
  have power : (0 : ℝ) < 2 ^ ulpExponent x := by positivity
  have split : nearest x - x =
      (nearestNatural (x / 2 ^ ulpExponent x) - x / 2 ^ ulpExponent x) * 2 ^ ulpExponent x := by
    unfold nearest
    field_simp
  have leading : -1022 ≤ Int.log 2 x := by
    rw [← Int.zpow_le_iff_le_log (by norm_num) positive, Nat.cast_ofNat]
    exact normal
  have ulp : ulpExponent x = Int.log 2 x + -53 + 1 := by
    unfold ulpExponent
    omega
  have below : (2 : ℝ) ^ Int.log 2 x ≤ x := by
    simpa using Int.zpow_log_le_self (b := 2) (by norm_num) positive
  rw [split, abs_mul, abs_of_pos power]
  calc |nearestNatural (x / 2 ^ ulpExponent x) - x / 2 ^ ulpExponent x| * 2 ^ ulpExponent x
      ≤ 1 / 2 * 2 ^ ulpExponent x := by
        gcongr
        exact abs_nearestNatural_sub_le (by positivity)
    _ = 2 ^ Int.log 2 x * 2 ^ (-53 : ℤ) := by
        rw [ulp, zpow_add₀ two_ne_zero, zpow_add₀ two_ne_zero]
        ring
    _ ≤ x * 2 ^ (-53 : ℤ) := by gcongr

/-! ## Multiplying and dividing by the same factor -/

section Quotient

variable {mantissa : ℕ} {exponent : ℤ} {factor : ℝ}

/-- The error of the product is less than one unit in the last place of the multiplicand. -/
theorem abs_nearest_product_sub_le (leading : 2 ^ 52 ≤ mantissa) (small : mantissa < 2 ^ 53)
    (least : -1074 ≤ exponent) (one_le : 1 ≤ factor) :
    |nearest (mantissa * 2 ^ exponent * factor) - mantissa * 2 ^ exponent * factor| ≤
      2 ^ exponent * factor := by
  have leadingReal : (2 ^ 52 : ℝ) ≤ mantissa := by exact_mod_cast leading
  have smallReal : (mantissa : ℝ) ≤ 2 ^ 53 := by exact_mod_cast small.le
  have normal : 2 ^ (-1022 : ℤ) ≤ mantissa * 2 ^ exponent * factor := by
    calc (2 : ℝ) ^ (-1022 : ℤ) = 2 ^ 52 * 2 ^ (-1074 : ℤ) * 1 := by
          rw [← zpow_natCast, ← zpow_add₀ two_ne_zero]
          norm_num
      _ ≤ mantissa * 2 ^ exponent * factor := by
          gcongr
          norm_num
  calc _ ≤ mantissa * 2 ^ exponent * factor * 2 ^ (-53 : ℤ) := abs_nearest_sub_le normal
    _ ≤ 2 ^ 53 * 2 ^ exponent * factor * 2 ^ (-53 : ℤ) := by gcongr
    _ = 2 ^ exponent * factor := by
        rw [zpow_neg]
        norm_num
        ring

theorem nearest_quotient_le (leading : 2 ^ 52 ≤ mantissa) (small : mantissa + 1 < 2 ^ 53)
    (least : -1074 ≤ exponent) (one_le : 1 ≤ factor) :
    nearest (nearest (mantissa * 2 ^ exponent * factor) / factor) ≤
      (mantissa + 1 : ℕ) * 2 ^ exponent := by
  have error := (abs_le.mp (abs_nearest_product_sub_le leading (by omega) least one_le)).2
  rw [← nearest_scaled small least]
  refine nearest_mono (div_nonneg (nearest_nonneg _) (by linarith)) ?_
  rw [div_le_iff₀ (by linarith)]
  push_cast
  linarith

theorem le_nearest_quotient (leading : 2 ^ 52 ≤ mantissa) (small : mantissa < 2 ^ 53)
    (least : -1074 ≤ exponent) (one_le : 1 ≤ factor) :
    (mantissa - 1 : ℕ) * 2 ^ exponent ≤
      nearest (nearest (mantissa * 2 ^ exponent * factor) / factor) := by
  have error := (abs_le.mp (abs_nearest_product_sub_le leading small least one_le)).1
  have predecessor : ((mantissa - 1 : ℕ) : ℝ) = mantissa - 1 := by
    rw [Nat.cast_sub (by omega), Nat.cast_one]
  rw [← nearest_scaled (by omega : mantissa - 1 < 2 ^ 53) least]
  refine nearest_mono (by positivity) ?_
  rw [le_div_iff₀ (by linarith), predecessor]
  linarith

end Quotient

/-- A product of natural numbers with at most 53 bits is exact, and so is its quotient. -/
theorem nearest_quotient_exact {natural factor : ℕ} (positive : 0 < factor)
    (small : natural * factor < 2 ^ 53) :
    nearest (nearest (natural * factor) / factor) = natural := by
  have keeps : ∀ {n : ℕ}, n < 2 ^ 53 → nearest n = n := by
    intro n less
    simpa using @nearest_scaled n 0 less (by norm_num)
  have factorPositive : (0 : ℝ) < factor := by exact_mod_cast positive
  have product : nearest (natural * factor) = natural * factor := by
    exact_mod_cast keeps small
  rw [product, mul_div_assoc, div_self factorPositive.ne', mul_one]
  exact keeps ((Nat.le_mul_of_pos_right natural positive).trans_lt small)

end

end CoordinateConformance.Binary64
