import CoordinateConformance.Decimal.Basic
import CoordinateConformance.Proofs.Binary64.DecimalValue

/-!
Contract: which decimals are read as a given number.

The reals that round to a number fill the interval between the middles to its neighbours; the two
ends belong to it if the significand is even, and below a power of two the interval is half as wide.
A decimal with the sign of the number and a value in this interval is read as the number, with every
bit.

Owns: `Attracts`, `Attracts.nearest_eq`, `Decimal.toFloat_of_denotes`.

Does **not** own: the search for a short decimal in the interval.
-/

namespace CoordinateConformance

open Binary64
open Float.Model.UnpackedFloat (Sign)

/-! ## The number of digits -/

theorem lt_pow_decimalLength (n : ℕ) : n < 10 ^ decimalLength n :=
  (Nat.length_toDigits_le_iff (by norm_num) Nat.length_toDigits_pos).mp le_rfl

theorem pow_decimalLength_le {n : ℕ} (positive : 0 < n) : 10 ^ (decimalLength n - 1) ≤ n := by
  have length : 0 < decimalLength n := Nat.length_toDigits_pos
  by_cases one : decimalLength n = 1
  · rw [one]
    exact positive
  · by_contra less
    have shorter : decimalLength n ≤ decimalLength n - 1 :=
      (Nat.length_toDigits_le_iff (by norm_num) (by omega)).mpr (not_le.mp less)
    omega

/-- A number has no more decimal digits than bits. -/
theorem decimalLength_le_log2 {n : ℕ} (positive : 0 < n) : decimalLength n ≤ n.log2 + 1 := by
  have powers : 2 ^ (decimalLength n - 1) ≤ n :=
    (Nat.pow_le_pow_left (by norm_num) _).trans (pow_decimalLength_le positive)
  have bits := (Nat.le_log2 positive.ne').mpr powers
  omega

/-! ## The interval of a number -/

/-- The middle between a number and the next smaller one. -/
noncomputable def lowEnd (x : BinaryExpansion) : ℝ :=
  scaled (4 * x.significand) (x.exponent - 2) - scaled x.gapBelow (x.exponent - 2)

/-- The middle between a number and the next greater one. -/
noncomputable def highEnd (x : BinaryExpansion) : ℝ :=
  scaled (4 * x.significand + 2) (x.exponent - 2)

/-- A magnitude lies between the middles to the two neighbours of a number. The middles themselves
round to it only if its significand is even. -/
structure Attracts (x : BinaryExpansion) (r : ℝ) : Prop where
  low : lowEnd x ≤ r
  high : r ≤ highEnd x
  interior : x.significand % 2 = 1 → lowEnd x < r ∧ r < highEnd x

theorem two_zpow_eq (exponent : ℤ) : (2 : ℝ) ^ exponent = 4 * 2 ^ (exponent - 2) := by
  rw [zpow_sub₀ two_ne_zero]
  norm_num
  ring

section Ends

variable (x : BinaryExpansion)

theorem gapBelow_bounds : 1 ≤ x.gapBelow ∧ x.gapBelow ≤ 2 := by
  unfold BinaryExpansion.gapBelow
  split_ifs <;> omega

theorem lowEnd_eq : lowEnd x = (4 * x.significand - x.gapBelow) * 2 ^ (x.exponent - 2) := by
  unfold lowEnd scaled
  push_cast
  ring

theorem highEnd_eq : highEnd x = (4 * x.significand + 2) * 2 ^ (x.exponent - 2) := by
  unfold highEnd scaled
  push_cast
  rfl

theorem half_le_lowEnd : (x.significand - 1 / 2) * 2 ^ x.exponent ≤ lowEnd x := by
  have gap : (x.gapBelow : ℝ) ≤ 2 := by exact_mod_cast (gapBelow_bounds x).2
  rw [lowEnd_eq, two_zpow_eq x.exponent, ← mul_assoc]
  gcongr
  linarith

theorem lowEnd_lt : lowEnd x < x.significand * 2 ^ x.exponent := by
  have gap : (1 : ℝ) ≤ x.gapBelow := by exact_mod_cast (gapBelow_bounds x).1
  rw [lowEnd_eq, two_zpow_eq x.exponent, ← mul_assoc]
  gcongr
  linarith

theorem highEnd_eq_half : highEnd x = (x.significand + 1 / 2) * 2 ^ x.exponent := by
  rw [highEnd_eq, two_zpow_eq x.exponent]
  ring

theorem lt_highEnd : x.significand * 2 ^ x.exponent < highEnd x := by
  rw [highEnd_eq_half]
  gcongr
  linarith

end Ends

namespace Attracts

variable {x : BinaryExpansion} {r : ℝ}

/-- Every magnitude between an inner point of the interval and the number lies in the interval. -/
theorem of_below (near : lowEnd x < r) (below : r ≤ x.significand * 2 ^ x.exponent) :
    Attracts x r :=
  ⟨near.le, (below.trans_lt (lt_highEnd x)).le, fun _ => ⟨near, below.trans_lt (lt_highEnd x)⟩⟩

theorem of_above (above : x.significand * 2 ^ x.exponent ≤ r) (near : r < highEnd x) :
    Attracts x r :=
  ⟨((lowEnd_lt x).trans_le above).le, near.le, fun _ => ⟨(lowEnd_lt x).trans_le above, near⟩⟩

theorem half_below (inside : Attracts x r) : (x.significand - 1 / 2) * 2 ^ x.exponent ≤ r :=
  (half_le_lowEnd x).trans inside.low

theorem half_above (inside : Attracts x r) : r ≤ (x.significand + 1 / 2) * 2 ^ x.exponent :=
  inside.high.trans_eq (highEnd_eq_half x)

theorem half_interior (inside : Attracts x r) (odd : x.significand % 2 = 1) :
    (x.significand - 1 / 2) * 2 ^ x.exponent < r ∧
      r < (x.significand + 1 / 2) * 2 ^ x.exponent := by
  obtain ⟨low, high⟩ := inside.interior odd
  exact ⟨(half_le_lowEnd x).trans_lt low, high.trans_eq (highEnd_eq_half x)⟩

theorem pos (inside : Attracts x r) (positive : 0 < x.significand) : 0 < r := by
  have one : (1 : ℝ) ≤ x.significand := by exact_mod_cast positive
  have half : (0 : ℝ) < x.significand - 1 / 2 := by linarith
  calc (0 : ℝ) < (x.significand - 1 / 2) * 2 ^ x.exponent := by positivity
    _ ≤ r := inside.half_below

/-- The least positive number attracts from the half of it on. -/
theorem half_least_le (inside : Attracts x r) (positive : 0 < x.significand)
    (least : -1074 ≤ x.exponent) : 2 ^ (-1075 : ℤ) ≤ r := by
  have one : (1 : ℝ) ≤ x.significand := by exact_mod_cast positive
  have half : (2 : ℝ) ^ (-1075 : ℤ) = 1 / 2 * 2 ^ (-1074 : ℤ) := by
    rw [show (-1074 : ℤ) = -1075 + 1 by norm_num, zpow_add_one₀ two_ne_zero]
    ring
  have power : (2 : ℝ) ^ (-1074 : ℤ) ≤ 2 ^ x.exponent :=
    zpow_le_zpow_right₀ (by norm_num) least
  calc (2 : ℝ) ^ (-1075 : ℤ) = 1 / 2 * 2 ^ (-1074 : ℤ) := half
    _ ≤ (x.significand - 1 / 2) * 2 ^ x.exponent :=
        mul_le_mul (by linarith) power (by positivity) (by linarith)
    _ ≤ r := inside.half_below

theorem lt_power (inside : Attracts x r) (small : x.significand < 2 ^ 53) :
    r < 2 ^ (53 + x.exponent) := by
  have bits : (x.significand : ℝ) + 1 ≤ 2 ^ 53 := by exact_mod_cast small
  calc r ≤ (x.significand + 1 / 2) * 2 ^ x.exponent := inside.half_above
    _ < 2 ^ 53 * 2 ^ x.exponent := by
        gcongr
        linarith
    _ = 2 ^ (53 + x.exponent) := by
        rw [zpow_add₀ two_ne_zero]
        norm_num

/-- Only the number at the start of a binade attracts numbers below the binade. -/
theorem significand_of_lt_power (inside : Attracts x r) (leading : 2 ^ 52 ≤ x.significand)
    (less : r < 2 ^ (52 + x.exponent)) : x.significand = 2 ^ 52 := by
  have power : (2 : ℝ) ^ (52 + x.exponent) = 2 ^ 52 * 2 ^ x.exponent := by
    rw [zpow_add₀ two_ne_zero]
    norm_num
  have product := inside.half_below.trans_lt less
  rw [power] at product
  have below : (x.significand : ℝ) - 1 / 2 < 2 ^ 52 :=
    lt_of_mul_lt_mul_right product (by positivity)
  have bound : (x.significand : ℝ) < ((2 ^ 52 + 1 : ℕ) : ℝ) := by
    push_cast
    linarith
  have naturals : x.significand < 2 ^ 52 + 1 := by exact_mod_cast bound
  omega

variable (positive : 0 < x.significand) (small : x.significand < 2 ^ 53)
include positive small

/-- Within the binade of the number, and among the subnormal numbers, the interval is half a unit
wide on both sides. -/
theorem nearest_eq_of_binade (inside : Attracts x r) (least : -1074 ≤ x.exponent)
    (binade : 2 ^ (52 + x.exponent) ≤ r ∨ x.exponent = -1074) :
    nearest r = x.significand * 2 ^ x.exponent :=
  nearest_eq_of_ulpExponent
    (ulpExponent_eq (inside.pos positive) least binade (inside.lt_power small))
    inside.half_below inside.half_above inside.half_interior

omit small in
/-- Just below the binade the numbers are twice as dense. The power of two at its start is an even
multiple of their distance, and attracts the magnitudes at half this distance. -/
theorem nearest_eq_of_lt_binade (inside : Attracts x r) (power : x.significand = 2 ^ 52)
    (normal : -1074 < x.exponent) (less : r < 2 ^ (52 + x.exponent)) :
    nearest r = x.significand * 2 ^ x.exponent := by
  set unit : ℝ := 2 ^ (x.exponent - 1) with unitEq
  have whole : (2 : ℝ) ^ x.exponent = 2 * unit := by
    rw [unitEq, zpow_sub₀ two_ne_zero]
    norm_num
    ring
  have halved : (2 : ℝ) ^ (x.exponent - 2) = unit / 2 := by
    rw [unitEq, show x.exponent - 1 = x.exponent - 2 + 1 by ring, zpow_add_one₀ two_ne_zero]
    ring
  have below : r < 2 ^ 53 * unit := by
    rw [zpow_add₀ two_ne_zero, whole] at less
    norm_num at less ⊢
    linarith
  have above : (2 ^ 53 - 1 / 2) * unit ≤ r := by
    have gap : x.gapBelow = 1 := if_pos ⟨power, normal⟩
    have low := inside.low
    rw [lowEnd_eq, power, gap, halved] at low
    push_cast at low
    linarith
  have binade : 2 ^ (52 + (x.exponent - 1)) ≤ r := by
    rw [zpow_add₀ two_ne_zero, ← unitEq]
    norm_num
    linarith
  have grid : ulpExponent r = x.exponent - 1 := by
    refine ulpExponent_eq (inside.pos positive) (by omega) (Or.inl binade) ?_
    rwa [show 53 + (x.exponent - 1) = 52 + x.exponent by ring]
  have rounds : nearest r = (2 ^ 53 : ℕ) * unit := by
    refine nearest_eq_of_ulpExponent grid ?_ ?_ (fun odd => absurd odd (by norm_num))
    · push_cast
      linarith
    · push_cast
      linarith
  rw [rounds, power, whole]
  push_cast
  ring

/-- The interval of a number rounds to the number. -/
theorem nearest_eq (inside : Attracts x r) (least : -1074 ≤ x.exponent)
    (leading : 2 ^ 52 ≤ x.significand ∨ x.exponent = -1074) :
    nearest r = x.significand * 2 ^ x.exponent := by
  by_cases binade : 2 ^ (52 + x.exponent) ≤ r ∨ x.exponent = -1074
  · exact inside.nearest_eq_of_binade positive small least binade
  · obtain ⟨less, normal⟩ := not_or.mp binade
    rw [not_le] at less
    have power := inside.significand_of_lt_power (leading.resolve_right normal) less
    exact inside.nearest_eq_of_lt_binade positive power (by omega) less

end Attracts

theorem significand_ofFloat_lt {x : Float} (finite : x.isFinite = true) :
    (BinaryExpansion.ofFloat x).significand < 2 ^ 53 := by
  rcases read_cases finite with ⟨sign, read⟩ | ⟨sign, mantissa, exponent, positive, read⟩
  · rw [ofFloat_of_zero read]
    positivity
  · rw [ofFloat_of_finite read]
    exact (unpack_finite read).1

namespace Decimal

/-! ## The size of a decimal -/

/-- The absolute value of a decimal. -/
noncomputable def size (d : Decimal) : ℝ :=
  d.coefficient * 10 ^ d.exponent

@[simp]
theorem size_eq_zero_iff (d : Decimal) : d.size = 0 ↔ d.coefficient = 0 := by
  have power : (10 : ℝ) ^ d.exponent ≠ 0 := by positivity
  simp [size, power]

section Leading

variable {d : Decimal} (positive : 0 < d.coefficient)

theorem size_lt (d : Decimal) : d.size < 10 ^ (d.exponent + decimalLength d.coefficient) := by
  have digits : (d.coefficient : ℝ) < 10 ^ decimalLength d.coefficient := by
    exact_mod_cast lt_pow_decimalLength d.coefficient
  rw [zpow_add₀ (by norm_num), zpow_natCast, mul_comm]
  unfold size
  gcongr

include positive in
theorem le_size : 10 ^ (d.exponent + decimalLength d.coefficient - 1) ≤ d.size := by
  have length : 0 < decimalLength d.coefficient := Nat.length_toDigits_pos
  have digits : (10 : ℝ) ^ (decimalLength d.coefficient - 1) ≤ d.coefficient := by
    exact_mod_cast pow_decimalLength_le positive
  have split : d.exponent + decimalLength d.coefficient - 1 =
      ((decimalLength d.coefficient - 1 : ℕ) : ℤ) + d.exponent := by omega
  rw [split, zpow_add₀ (by norm_num), zpow_natCast]
  unfold size
  gcongr

theorem two_zpow_le_ten_zpow {n : ℤ} (nonneg : 0 ≤ n) : (2 : ℝ) ^ (3 * n) ≤ 10 ^ n := by
  rw [zpow_mul]
  exact zpow_le_zpow_left₀ nonneg (by norm_num) (by norm_num)

/-- Decimals within the range of the format are not settled by the number of their digits. -/
theorem leading_le (upper : d.size < 2 ^ (1024 : ℤ)) (positive : 0 < d.coefficient) :
    d.exponent + decimalLength d.coefficient ≤ 400 := by
  by_contra beyond
  have large : (10 : ℝ) ^ (400 : ℤ) ≤ d.size :=
    (zpow_le_zpow_right₀ (by norm_num) (by omega)).trans (le_size positive)
  have overflow : (2 : ℝ) ^ (1024 : ℤ) ≤ 2 ^ (3 * 400 : ℤ) :=
    zpow_le_zpow_right₀ (by norm_num) (by norm_num)
  have powers := two_zpow_le_ten_zpow (show (0 : ℤ) ≤ 400 by norm_num)
  exact absurd upper (not_lt.mpr (overflow.trans (powers.trans large)))

theorem le_leading (lower : 2 ^ (-1075 : ℤ) ≤ d.size) :
    -400 ≤ d.exponent + decimalLength d.coefficient := by
  by_contra below
  have small : d.size < (10 : ℝ) ^ (-400 : ℤ) :=
    (size_lt d).trans (zpow_lt_zpow_right₀ (by norm_num) (by omega))
  have powers : (10 : ℝ) ^ (-400 : ℤ) ≤ 2 ^ (-(3 * 400) : ℤ) := by
    rw [zpow_neg, zpow_neg]
    exact inv_anti₀ (by positivity) (two_zpow_le_ten_zpow (by norm_num))
  have underflow : (2 : ℝ) ^ (-(3 * 400) : ℤ) ≤ 2 ^ (-1075 : ℤ) :=
    zpow_le_zpow_right₀ (by norm_num) (by norm_num)
  exact absurd lower (not_le.mpr (small.trans_le (powers.trans underflow)))

end Leading

/-! ## Reading a decimal -/

/-- A decimal without a sign that is no subject of overflow has the rounded value. -/
theorem hasValue_toFloat {coefficient : ℕ} {exponent : ℤ} (positive : 0 < coefficient)
    (lower : 2 ^ (-1075 : ℤ) ≤ size ⟨false, coefficient, exponent⟩)
    (upper : size ⟨false, coefficient, exponent⟩ < 2 ^ (1024 : ℤ))
    (within : nearest (size ⟨false, coefficient, exponent⟩) < overflowBound) :
    HasValue (toFloat ⟨false, coefficient, exponent⟩)
      (nearest (size ⟨false, coefficient, exponent⟩)) := by
  have greatest := leading_le upper positive
  have least := le_leading lower
  have length : 0 < decimalLength coefficient := Nat.length_toDigits_pos
  have bits := decimalLength_le_log2 positive
  dsimp only at greatest least
  unfold toFloat
  simp only [positive.ne', if_false, Bool.false_eq_true, not_lt.mpr greatest, not_lt.mpr least]
  cases exponent with
  | ofNat exponent =>
      have scale : size ⟨false, coefficient, .ofNat exponent⟩ = coefficient * 10 ^ exponent := rfl
      rw [scale] at within ⊢
      simp only [Int.ofNat_eq_natCast] at greatest
      exact hasValue_ofScientific_up positive (by omega) within
  | negSucc exponent =>
      have scale : size ⟨false, coefficient, .negSucc exponent⟩ =
          coefficient / 10 ^ (exponent + 1) := by
        unfold size
        rw [zpow_negSucc, div_eq_mul_inv]
      rw [scale] at within ⊢
      exact hasValue_ofScientific_down positive (by omega) (by omega) within

theorem toFloat_eq_ite (d : Decimal) :
    d.toFloat = if d.negative then -toFloat ⟨false, d.coefficient, d.exponent⟩
      else toFloat ⟨false, d.coefficient, d.exponent⟩ := rfl

/-- A decimal has the sign of an expansion, and its size rounds to the one of the expansion. -/
structure Denotes (d : Decimal) (x : BinaryExpansion) : Prop where
  negative : d.negative = x.negative
  zero : x.significand = 0 → d.size = 0
  interval : 0 < x.significand → Attracts x d.size

theorem toFloat_of_zero {d : Decimal} {x : Float} {sign : Sign}
    (read : x.toModel.unpack = .zero sign)
    (denotes : Denotes d (BinaryExpansion.ofFloat x)) : d.toFloat = x := by
  have negative := denotes.negative
  have zero := denotes.zero
  rw [ofFloat_of_zero read] at negative zero
  have magnitude : toFloat ⟨false, 0, d.exponent⟩ = 0.0 := rfl
  rw [toFloat_eq_ite, negative, (size_eq_zero_iff d).mp (zero rfl), magnitude]
  cases sign with
  | negative =>
      have negativeZero : (-0.0 : Float).toModel.unpack = .zero .negative := rfl
      exact eq_of_unpack_eq (negativeZero.trans read.symm)
  | positive =>
      have positiveZero : (0.0 : Float).toModel.unpack = .zero .positive := rfl
      exact eq_of_unpack_eq (positiveZero.trans read.symm)

theorem toFloat_of_finite {d : Decimal} {x : Float} {sign : Sign} {mantissa : ℕ} {exponent : ℤ}
    {positive : 0 < mantissa} (read : x.toModel.unpack = .finite sign mantissa exponent positive)
    (denotes : Denotes d (BinaryExpansion.ofFloat x)) : d.toFloat = x := by
  obtain ⟨negative, -, interval⟩ := denotes
  rw [ofFloat_of_finite read] at negative interval
  have inside := interval positive
  obtain ⟨small, least, leading, greatest⟩ := unpack_finite read
  have kept : nearest d.size = mantissa * 2 ^ exponent :=
    inside.nearest_eq positive small least leading
  have within : nearest d.size < overflowBound := by
    rw [kept]
    exact lt_of_not_ge (mt (overflowBound_le_iff small leading).mp (not_lt.mpr greatest))
  have upper : d.size < 2 ^ (1024 : ℤ) :=
    (inside.lt_power small).trans_le (zpow_le_zpow_right₀ (by norm_num) (by dsimp only; omega))
  have lower : (2 : ℝ) ^ (-1075 : ℤ) ≤ d.size := inside.half_least_le positive least
  have coefficient : 0 < d.coefficient := by
    by_contra zero
    rw [(size_eq_zero_iff d).mpr (Nat.eq_zero_of_not_pos zero)] at lower
    exact absurd lower (not_le.mpr (by positivity))
  have has := hasValue_toFloat coefficient lower upper within
  rw [show size ⟨false, d.coefficient, d.exponent⟩ = d.size from rfl, kept] at has
  have magnitude : (toFloat ⟨false, d.coefficient, d.exponent⟩).toModel.unpack =
      .finite .positive mantissa exponent positive := has.read_eq ⟨small, least, leading⟩
  rw [toFloat_eq_ite, negative]
  cases sign with
  | negative =>
      refine eq_of_unpack_eq ?_
      rw [read, isNegative, if_pos rfl, unpack_neg, magnitude]
      rfl
  | positive =>
      refine eq_of_unpack_eq ?_
      rw [read, isNegative, if_neg Bool.false_ne_true, magnitude]

/-- A decimal in the interval of a number is read as this number. -/
theorem toFloat_of_denotes {d : Decimal} {x : Float} (finite : x.isFinite = true)
    (denotes : Denotes d (BinaryExpansion.ofFloat x)) : d.toFloat = x := by
  rcases read_cases finite with ⟨sign, read⟩ | ⟨sign, mantissa, exponent, positive, read⟩
  · exact toFloat_of_zero read denotes
  · exact toFloat_of_finite read denotes

end Decimal

end CoordinateConformance
