import CoordinateConformance.Proofs.Binary64.RealValue

/-!
Contract: bounds of magnitudes, and the number from which on a product overflows.

Rounding is monotone, so the result of an operation is at most that of the same operation on larger
numbers. There is no number between neighbours of the format: what is beyond the last number with a
finite product is at least the next one, and has an infinite product.

Owns: `magnitude_mul_le`, `magnitude_sub_le`, `magnitude_le_greatest`, `isFinite_sub_of_least`,
`isFinite_mul_iff`.

Does **not** own: signs.
-/

namespace CoordinateConformance.Binary64

open Float.Model (UnpackedFloat)
open Float.Model.UnpackedFloat
open scoped ENNReal

/-! ## Absolute values -/

theorem abs_le_iff {x bound : Float} (nonneg : 0.0 ≤ bound) :
    x.abs ≤ bound ↔ x.isNaN = false ∧ magnitude x ≤ magnitude bound := by
  have valueAbs := coe_magnitude (unsigned_abs x).nonneg
  rw [magnitude_abs] at valueAbs
  rw [le_iff, isNaN_abs, ← coe_magnitude (value_nonneg_of_le nonneg), ← valueAbs,
    EReal.coe_ennreal_le_coe_ennreal_iff]
  exact ⟨fun ⟨number, _, le⟩ => ⟨number, le⟩, fun ⟨number, le⟩ =>
    ⟨number, (le_iff.mp nonneg).2.1, le⟩⟩

theorem magnitude_le_of_abs_le {x bound : Float} (nonneg : 0.0 ≤ bound) (le : x.abs ≤ bound) :
    magnitude x ≤ magnitude bound :=
  ((abs_le_iff nonneg).mp le).2

theorem isFinite_of_abs_le {x bound : Float} (nonneg : 0.0 ≤ bound)
    (finite : bound.isFinite = true) (le : x.abs ≤ bound) : x.isFinite = true := by
  obtain ⟨number, magnitudeLe⟩ := (abs_le_iff nonneg).mp le
  exact isFinite_iff.mpr
    ⟨number, ne_top_of_le_ne_top (isFinite_iff.mp finite).2 magnitudeLe⟩

/-! ## Monotone operations -/

section Operations

variable {x y largerX largerY smallerY : Float}

theorem magnitude_mul_le (left : magnitude x ≤ magnitude largerX)
    (right : magnitude y ≤ magnitude largerY) :
    magnitude (x * y) ≤ magnitude (largerX * largerY) := by
  rw [magnitude_mul, magnitude_mul]
  exact rounded_mono (mul_le_mul' left right)

theorem magnitude_div_le (number : y.isNaN = false) (numberToo : smallerY.isNaN = false)
    (left : magnitude x ≤ magnitude largerX) (right : magnitude smallerY ≤ magnitude y) :
    magnitude (x / y) ≤ magnitude (largerX / smallerY) := by
  rw [magnitude_div x number, magnitude_div largerX numberToo]
  exact rounded_mono (ENNReal.div_le_div left right)

theorem exists_hasValue (finite : x.isFinite = true) : ∃ r, HasValue x r := by
  cases read : x.toModel.unpack with
  | notANumber =>
      change x.toModel.unpack.isFinite = true at finite
      rw [read] at finite
      cases finite
  | infinity sign =>
      change x.toModel.unpack.isFinite = true at finite
      rw [read] at finite
      cases finite
  | zero sign =>
      refine ⟨0, ?_, ?_⟩
      · show x.toModel.unpack.isNaN = false
        rw [read]
        rfl
      · show unpackedValue x.toModel.unpack = _
        rw [read]
        rfl
  | finite sign mantissa exponent positive => exact ⟨_, hasValue_of_read read⟩

theorem isNaN_sub_of_isNaN (nan : x.isNaN = true ∨ y.isNaN = true) :
    (x - y).isNaN = true := by
  change x.toModel.unpack.isNaN = true ∨ y.toModel.unpack.isNaN = true at nan
  show (x - y).toModel.unpack.isNaN = true
  rw [unpack_sub]
  cases readX : x.toModel.unpack with
  | notANumber => cases y.toModel.unpack <;> rfl
  | _ =>
      cases readY : y.toModel.unpack with
      | notANumber => rfl
      | _ => simp [readX, readY, Float.Model.UnpackedFloat.isNaN] at nan

theorem isNaN_saturate_finite (sign : Sign) (mantissa : ℕ) (exponent : ℤ)
    (positive : 0 < mantissa) :
    (saturate (.finite sign mantissa exponent positive)).isNaN = false := by
  unfold saturate
  dsimp only
  split_ifs <;> rfl

/-- The difference of two finite numbers is a number. -/
theorem isNaN_sub_of_finite (left : x.isFinite = true) (right : y.isFinite = true) :
    (x - y).isNaN = false := by
  obtain ⟨r, hasX⟩ := exists_hasValue left
  obtain ⟨s, hasY⟩ := exists_hasValue right
  show (x - y).toModel.unpack.isNaN = false
  rw [unpack_sub]
  rcases hasX.unpack_cases with ⟨sign, read, _⟩ | ⟨sign, m₁, e₁, positive₁, read, _⟩
  · rcases hasY.unpack_cases with ⟨t, readToo, _⟩ | ⟨t, m₂, e₂, positive₂, readToo, _⟩
    · rw [read, readToo]
      cases sign <;> cases t <;> rfl
    · rw [read, readToo]
      exact isNaN_saturate_finite (-t) m₂ e₂ positive₂
  · rcases hasY.unpack_cases with ⟨t, readToo, _⟩ | ⟨t, m₂, e₂, positive₂, readToo, _⟩
    · rw [read, readToo]
      exact isNaN_saturate_finite sign m₁ e₁ positive₁
    · rw [read, readToo]
      exact isNaN_normalize _ _

/-- A difference with zero is the other number; others are rounded once. -/
theorem magnitude_sub {r s : ℝ} (left : HasValue x r) (right : HasValue y s) :
    magnitude (x - y) = rounded (ENNReal.ofReal |r - s|) := by
  have difference := unpack_sub x y
  rcases left.unpack_cases with ⟨sign, read, rfl⟩ | ⟨sign, m₁, e₁, positive₁, read, leftEq⟩
  · have same : magnitude (x - y) = magnitude y := by
      unfold magnitude value
      rw [difference, read]
      rcases right.unpack_cases with ⟨t, readToo, _⟩ | ⟨t, m₂, e₂, positive₂, readToo, _⟩
      · rw [readToo]
        cases sign <;> cases t <;> rfl
      · have kept := saturate_unpack y.toModel
        rw [readToo] at kept ⊢
        have inRange : ¬971 < e₂ := not_lt.mpr (unpack_finite readToo).2.2.2
        change (unpackedValue (saturate (.finite (-t) m₂ e₂ positive₂))).abs = _
        unfold saturate
        dsimp only
        rw [if_neg inRange, abs_unpackedValue_finite, abs_unpackedValue_finite]
    rw [same, zero_sub, abs_neg, ← right.magnitude_eq, rounded_magnitude]
  · rcases right.unpack_cases with ⟨t, readToo, rfl⟩ | ⟨t, m₂, e₂, positive₂, readToo, rightEq⟩
    · have same : (x - y).toModel.unpack = x.toModel.unpack := by
        calc (x - y).toModel.unpack = saturate x.toModel.unpack := by
              rw [difference, read, readToo]
              rfl
          _ = x.toModel.unpack := saturate_unpack x.toModel
      have sameMagnitude : magnitude (x - y) = magnitude x := by
        unfold magnitude value
        rw [same]
      rw [sameMagnitude, sub_zero, ← left.magnitude_eq, rounded_magnitude]
    · obtain ⟨_, roundsTo⟩ := roundsTo_sub sign t e₁ e₂ positive₁ positive₂
      unfold magnitude value
      rw [difference, read, readToo, leftEq, rightEq]
      exact roundsTo.abs_value (abs_nonneg _)

theorem magnitude_sub_le (left : x.isFinite = true) (right : y.isFinite = true) :
    magnitude (x - y) ≤ rounded (magnitude x + magnitude y) := by
  obtain ⟨r, hasLeft⟩ := exists_hasValue left
  obtain ⟨s, hasRight⟩ := exists_hasValue right
  rw [magnitude_sub hasLeft hasRight, hasLeft.magnitude_eq, hasRight.magnitude_eq,
    ← ENNReal.ofReal_add (abs_nonneg r) (abs_nonneg s)]
  exact rounded_mono (ENNReal.ofReal_le_ofReal (abs_sub r s))

theorem magnitude_two : magnitude 2.0 = 2 := by
  have read : (2.0 : Float).toModel.unpack = .finite .positive (2 ^ 52) (-51) (by norm_num) := rfl
  unfold magnitude value
  rw [read, abs_unpackedValue_finite]
  norm_num

/-- A difference is at most twice a bound of its operands. -/
theorem magnitude_sub_le_double {bound : Float} (left : x.isFinite = true)
    (right : y.isFinite = true) (leftLe : magnitude x ≤ magnitude bound)
    (rightLe : magnitude y ≤ magnitude bound) :
    magnitude (x - y) ≤ magnitude (2.0 * bound) := by
  refine (magnitude_sub_le left right).trans ?_
  rw [magnitude_mul, magnitude_two, two_mul]
  exact rounded_mono (add_le_add leftLe rightLe)

end Operations

/-! ## The greatest number -/

/-- The greatest number of the format. -/
def greatestNumber : Float := 1.7976931348623157e308

theorem magnitude_le_greatest {x : Float} (finite : x.isFinite = true) :
    magnitude x ≤ magnitude greatestNumber := by
  have bits : greatestNumber = .ofBits 0x7FEFFFFFFFFFFFFF := by decide +kernel
  have readGreatest : greatestNumber.toModel.unpack =
      .finite .positive (2 ^ 53 - 1) 971 (by norm_num) := by
    rw [bits]
    rfl
  obtain ⟨r, has⟩ := exists_hasValue finite
  rw [(hasValue_of_read readGreatest).magnitude_eq, abs_signedReal, has.magnitude_eq]
  refine ENNReal.ofReal_le_ofReal ?_
  rcases has.unpack_cases with ⟨_, _, rfl⟩ | ⟨sign, mantissa, exponent, positive, read, rfl⟩
  · rw [abs_zero]
    positivity
  · obtain ⟨small, _, _, greatest⟩ := unpack_finite read
    have mantissaLe : mantissa ≤ 2 ^ 53 - 1 := by omega
    rw [abs_signedReal]
    gcongr
    norm_num

/-- If the least number can be taken from a number without an overflow, then every number can. -/
theorem isFinite_sub_of_least {x y : Float} (left : x.isFinite = true) (right : y.isFinite = true)
    (nonneg : 0.0 ≤ x) (within : (x - -greatestNumber).isFinite = true) :
    (x - y).isFinite = true := by
  obtain ⟨r, hasX⟩ := exists_hasValue left
  obtain ⟨s, hasY⟩ := exists_hasValue right
  obtain ⟨least, hasLeast⟩ := exists_hasValue (x := -greatestNumber) (by decide +kernel)
  have absolute : (-greatestNumber).abs = greatestNumber := by decide +kernel
  have realNonneg : 0 ≤ r := (hasValue_zero.le_iff hasX).mp nonneg
  have leastNonpos : least ≤ 0 := (hasLeast.le_iff hasValue_zero).mp (by decide +kernel)
  have bounded : |s| ≤ -least := by
    have greatest := magnitude_le_greatest right
    rw [← absolute, magnitude_abs, hasY.magnitude_eq, hasLeast.magnitude_eq,
      abs_of_nonpos leastNonpos, ENNReal.ofReal_le_ofReal_iff (neg_nonneg.mpr leastNonpos)]
      at greatest
    exact greatest
  have closer : |r - s| ≤ |r - least| := by
    calc |r - s| ≤ |r| + |s| := abs_sub r s
      _ = r + |s| := by rw [abs_of_nonneg realNonneg]
      _ ≤ r - least := by linarith
      _ ≤ |r - least| := le_abs_self _
  have magnitudeLe : magnitude (x - y) ≤ magnitude (x - -greatestNumber) := by
    rw [magnitude_sub hasX hasY, magnitude_sub hasX hasLeast]
    exact rounded_mono (ENNReal.ofReal_le_ofReal closer)
  exact isFinite_iff.mpr ⟨isNaN_sub_of_finite left right,
    ne_top_of_le_ne_top (isFinite_iff.mp within).2 magnitudeLe⟩

/-! ## The last finite product -/

/-- No number lies between a significand of 53 bits and the next one. -/
theorem magnitude_next_le {x last next : Float} {mantissa : ℕ} {exponent : ℤ}
    {positive : 0 < mantissa} {positiveNext : 0 < mantissa + 1}
    (readLast : last.toModel.unpack = .finite .positive mantissa exponent positive)
    (readNext : next.toModel.unpack = .finite .positive (mantissa + 1) exponent positiveNext)
    (leading : 2 ^ 52 ≤ mantissa) (less : magnitude last < magnitude x) :
    magnitude next ≤ magnitude x := by
  have nextSmall := (unpack_finite readNext).1
  unfold magnitude value at *
  rw [readLast, abs_unpackedValue_finite] at less
  rw [readNext, abs_unpackedValue_finite]
  cases read : x.toModel.unpack with
  | infinity sign =>
      rw [abs_unpackedValue_infinity]
      exact le_top
  | notANumber =>
      rw [read, abs_unpackedValue_notANumber] at less
      exact absurd less not_lt_zero
  | zero sign =>
      rw [read, abs_unpackedValue_zero] at less
      exact absurd less not_lt_zero
  | finite sign m e positive =>
      obtain ⟨small, _, normal, _⟩ := unpack_finite read
      rw [read, abs_unpackedValue_finite, ENNReal.ofReal_lt_ofReal_iff (by positivity)] at less
      rw [abs_unpackedValue_finite]
      refine ENNReal.ofReal_le_ofReal ?_
      rcases lt_trichotomy e exponent with below | rfl | above
      · exact absurd less (mantissa_mul_lt_of_exponent_lt small leading below).not_gt
      · have power : (0 : ℝ) < 2 ^ e := by positivity
        have mantissaLess : (mantissa : ℝ) < m := lt_of_mul_lt_mul_right less power.le
        have mantissaLe : ((mantissa + 1 : ℕ) : ℝ) ≤ m := by
          exact_mod_cast mantissaLess
        gcongr
      · have least := (unpack_finite readLast).2.1
        exact (mantissa_mul_lt_of_exponent_lt nextSmall
          (normal.resolve_right (by omega)) above).le

/-- Products with a factor are finite up to a number, if that number has a finite product and the
next one has not. -/
theorem isFinite_mul_iff {factor last next : Float} {mantissa : ℕ} {exponent : ℤ}
    {positive : 0 < mantissa} {positiveNext : 0 < mantissa + 1}
    (readLast : last.toModel.unpack = .finite .positive mantissa exponent positive)
    (readNext : next.toModel.unpack = .finite .positive (mantissa + 1) exponent positiveNext)
    (leading : 2 ^ 52 ≤ mantissa) (factorFinite : factor.isFinite = true)
    (within : (last * factor).isFinite = true) (beyond : (next * factor).isFinite = false)
    (x : Float) : (x * factor).isFinite = true ↔ x.abs ≤ last := by
  have lastHas := hasValue_of_read readLast
  have nonneg : 0.0 ≤ last :=
    (hasValue_zero.le_iff lastHas).mpr (signedReal_positive_pos positive exponent).le
  have infinite : magnitude (next * factor) = ∞ := by
    by_contra finite
    have number := isNaN_mul_of_finite (hasValue_of_read readNext).isFinite factorFinite
    rw [isFinite_iff.mpr ⟨number, finite⟩] at beyond
    cases beyond
  rw [abs_le_iff nonneg]
  constructor
  · intro finite
    obtain ⟨number, notInfinite⟩ := isFinite_iff.mp finite
    have numberX : x.isNaN = false := by
      rw [← Bool.not_eq_true] at number ⊢
      exact fun nan => number ((isNaN_mul x factor).mpr (Or.inl nan))
    refine ⟨numberX, not_lt.mp fun less => notInfinite ?_⟩
    have nextLe := magnitude_next_le readLast readNext leading less
    exact top_le_iff.mp (infinite.symm.trans_le (magnitude_mul_le nextLe le_rfl))
  · rintro ⟨number, le⟩
    have finiteX : x.isFinite = true :=
      isFinite_iff.mpr ⟨number, ne_top_of_le_ne_top (isFinite_iff.mp lastHas.isFinite).2 le⟩
    refine isFinite_iff.mpr ⟨isNaN_mul_of_finite finiteX factorFinite, ?_⟩
    exact ne_top_of_le_ne_top (isFinite_iff.mp within).2 (magnitude_mul_le le le_rfl)

end CoordinateConformance.Binary64
