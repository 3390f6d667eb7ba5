import CoordinateConformance.Proofs.Binary64.Arithmetic

/-!
Contract: differences of numbers.

The difference of two finite numbers is the exact one, rounded. The exact one is a multiple of
the least positive number, so it does not round to zero unless it is zero: gradual underflow.

Owns: `beq_of_abs_sub_le_zero`.

Does **not** own: the sign of a difference.
-/

namespace CoordinateConformance.Binary64

open Float.Model (Format UnpackedFloat)
open Float.Model.UnpackedFloat
open scoped ENNReal

/-- Shifting a significand to a lower exponent keeps the value. -/
theorem apply_shiftLeft (s : Sign) (mantissa : Nat) {exponent target : Int}
    (le : target ≤ exponent) :
    ((s.apply (mantissa <<< (exponent - target).toNat : Nat) : Int) : ℝ) * 2 ^ target =
      signedReal s mantissa exponent := by
  have shifted : ((mantissa <<< (exponent - target).toNat : Nat) : ℝ) * 2 ^ target =
      mantissa * 2 ^ exponent := by
    have exponents : exponent = (exponent - target).toNat + target := by omega
    rw [Nat.shiftLeft_eq]
    conv_rhs => rw [exponents, zpow_add₀ two_ne_zero, zpow_natCast]
    push_cast
    ring
  cases s <;>
    simp only [Sign.apply, Int.cast_neg, Int.cast_natCast, neg_mul, shifted, signedReal, scaled]

/-- Two canonical numbers are multiples of one power of two, which the format has. -/
theorem signedReal_sub_eq (s t : Sign) {m₁ m₂ : Nat} {e₁ e₂ : Int} :
    signedReal s m₁ e₁ - signedReal t m₂ e₂ =
      ((s.apply (m₁ <<< (e₁ - min e₁ e₂).toNat : Nat) -
        t.apply (m₂ <<< (e₂ - min e₁ e₂).toNat : Nat) : Int) : ℝ) * 2 ^ min e₁ e₂ := by
  rw [Int.cast_sub, sub_mul, apply_shiftLeft s m₁ (min_le_left e₁ e₂),
    apply_shiftLeft t m₂ (min_le_right e₁ e₂)]

theorem roundsTo_normalize (mantissa exponent : Int) :
    ∃ sign, RoundsTo (UnpackedFloat.normalize .binary64 mantissa exponent .positive) sign
      |(mantissa : ℝ) * 2 ^ exponent| := by
  have power : (0 : ℝ) < 2 ^ exponent := by positivity
  rw [abs_mul, abs_of_pos power, ← Int.cast_abs]
  unfold UnpackedFloat.normalize
  rcases lt_trichotomy mantissa 0 with less | rfl | greater
  · rw [compare_lt_iff_lt.mpr less, abs_of_neg less]
    have rounding := @roundsTo_round .negative (-mantissa).toNat (by omega) exponent
    rw [← Int.cast_natCast, Int.toNat_of_nonneg (by omega)] at rounding
    exact ⟨.negative, rounding⟩
  · refine ⟨.positive, ?_⟩
    simpa using roundsTo_zero .positive
  · rw [compare_gt_iff_gt.mpr greater, abs_of_pos greater]
    have rounding := @roundsTo_round .positive mantissa.toNat (by omega) exponent
    rw [← Int.cast_natCast, Int.toNat_of_nonneg (by omega)] at rounding
    exact ⟨.positive, rounding⟩

theorem roundsTo_sub (s t : Sign) {m₁ m₂ : Nat} (e₁ e₂ : Int) (positive₁ : 0 < m₁)
    (positive₂ : 0 < m₂) :
    ∃ sign, RoundsTo (sub .binary64 (.finite s m₁ e₁ positive₁) (.finite t m₂ e₂ positive₂)) sign
      |signedReal s m₁ e₁ - signedReal t m₂ e₂| := by
  rw [signedReal_sub_eq]
  exact roundsTo_normalize _ _

theorem canonical_sub {a b : UnpackedFloat} (canonicalLeft : Canonical a)
    (canonicalRight : Canonical b) : Canonical (sub .binary64 a b) := by
  cases a with
  | notANumber => trivial
  | infinity s =>
      cases b <;> first | trivial | (unfold sub; dsimp only; split_ifs <;> trivial)
  | zero s =>
      cases b with
      | finite t m₂ e₂ positive₂ => exact canonicalRight
      | zero t => unfold sub; dsimp only; split_ifs <;> trivial
      | _ => trivial
  | finite s m₁ e₁ positive₁ =>
      cases b with
      | finite t m₂ e₂ positive₂ =>
          obtain ⟨sign, roundsTo⟩ := roundsTo_sub s t e₁ e₂ positive₁ positive₂
          exact roundsTo.canonical
      | zero t => exact canonicalLeft
      | _ => trivial

theorem unpack_sub (x y : Float) :
    (x - y).toModel.unpack = saturate (sub .binary64 x.toModel.unpack y.toModel.unpack) :=
  unpack_pack (canonical_sub (canonical_unpack x.toModel) (canonical_unpack y.toModel))

/-! ## Gradual underflow -/

theorem lt_of_rounded_eq_zero {x : ℝ} (nonneg : 0 ≤ x) (zero : rounded (ENNReal.ofReal x) = 0) :
    x < 2 ^ (-1074 : ℤ) := by
  by_contra notLess
  have least : nearest (2 ^ (-1074 : ℤ)) = 2 ^ (-1074 : ℤ) := by
    simpa using @nearest_scaled 1 (-1074) (by norm_num) le_rfl
  have large := nearest_mono (by positivity) (not_lt.mp notLess)
  rw [least] at large
  have positive : 0 < nearest x := lt_of_lt_of_le (by positivity) large
  rw [rounded_ofReal nonneg] at zero
  split_ifs at zero
  · exact ENNReal.top_ne_zero zero
  · exact absurd (ENNReal.ofReal_eq_zero.mp zero) (not_le.mpr positive)

/-- Two different canonical numbers are at least the least positive number apart. -/
theorem signedReal_eq_of_abs_sub_lt {s t : Sign} {m₁ m₂ : Nat} {e₁ e₂ : Int} {positive₁ : 0 < m₁}
    {positive₂ : 0 < m₂} (canonicalLeft : Canonical (.finite s m₁ e₁ positive₁))
    (canonicalRight : Canonical (.finite t m₂ e₂ positive₂))
    (less : |signedReal s m₁ e₁ - signedReal t m₂ e₂| < 2 ^ (-1074 : ℤ)) :
    signedReal s m₁ e₁ = signedReal t m₂ e₂ := by
  have power : (0 : ℝ) < 2 ^ min e₁ e₂ := by positivity
  have least : (2 : ℝ) ^ (-1074 : ℤ) ≤ 2 ^ min e₁ e₂ :=
    zpow_le_zpow_right₀ (by norm_num) (le_min canonicalLeft.2.1 canonicalRight.2.1)
  rw [← sub_eq_zero]
  rw [signedReal_sub_eq] at *
  generalize s.apply _ - t.apply _ = multiple at *
  rw [abs_mul, abs_of_pos power] at less
  -- an integer multiple of the common power of two, smaller than one of them
  have small : |(multiple : ℝ)| < 1 := by
    by_contra notLess
    nlinarith
  have zero : multiple = 0 := Int.abs_lt_one_iff.mp (by exact_mod_cast small)
  rw [zero, Int.cast_zero, zero_mul]

theorem abs_saturate_finite_ne_zero (sign : Sign) (mantissa : Nat) (exponent : Int)
    (positive : 0 < mantissa) :
    (unpackedValue (saturate (.finite sign mantissa exponent positive))).abs ≠ 0 := by
  unfold saturate
  dsimp only
  split_ifs
  · rw [abs_unpackedValue_infinity]
    exact ENNReal.top_ne_zero
  · exact abs_unpackedValue_finite_pos sign exponent positive

theorem unpackedValue_eq_of_sub_eq_zero {a b : UnpackedFloat} (canonicalLeft : Canonical a)
    (canonicalRight : Canonical b)
    (number : (saturate (sub .binary64 a b)).isNaN = false)
    (zero : (unpackedValue (saturate (sub .binary64 a b))).abs = 0) :
    a.isNaN = false ∧ b.isNaN = false ∧ unpackedValue a = unpackedValue b := by
  cases a with
  | notANumber => cases number
  | infinity s =>
      cases b with
      | notANumber => cases number
      | infinity t =>
          -- equal infinities have no difference
          cases s <;> cases t <;>
            first
            | (cases number; done)
            | exact absurd zero ENNReal.top_ne_zero
      | _ => exact absurd zero ((abs_unpackedValue_infinity s).trans_ne ENNReal.top_ne_zero)
  | zero s =>
      cases b with
      | notANumber => cases number
      | zero t => exact ⟨rfl, rfl, rfl⟩
      | infinity t =>
          exact absurd zero ((abs_unpackedValue_infinity (-t)).trans_ne ENNReal.top_ne_zero)
      | finite t m₂ e₂ positive₂ =>
          exact absurd zero (abs_saturate_finite_ne_zero (-t) m₂ e₂ positive₂)
  | finite s m₁ e₁ positive₁ =>
      cases b with
      | notANumber => cases number
      | infinity t =>
          exact absurd zero ((abs_unpackedValue_infinity (-t)).trans_ne ENNReal.top_ne_zero)
      | zero t => exact absurd zero (abs_saturate_finite_ne_zero s m₁ e₁ positive₁)
      | finite t m₂ e₂ positive₂ =>
          obtain ⟨sign, roundsTo⟩ := roundsTo_sub s t e₁ e₂ positive₁ positive₂
          rw [roundsTo.abs_value (abs_nonneg _)] at zero
          have equal := signedReal_eq_of_abs_sub_lt canonicalLeft canonicalRight
            (lt_of_rounded_eq_zero (abs_nonneg _) zero)
          exact ⟨rfl, rfl, congrArg Real.toEReal equal⟩

/-- Numbers that are not further apart than zero are equal. -/
theorem beq_of_abs_sub_le_zero {x y : Float} (le : (x - y).abs ≤ 0.0) : (x == y) = true := by
  obtain ⟨number, _, valueLe⟩ := le_iff.mp le
  rw [isNaN_abs] at number
  rw [value_zero] at valueLe
  have zero : magnitude (x - y) = 0 := by
    have absolute := coe_magnitude (unsigned_abs (x - y)).nonneg
    rw [magnitude_abs] at absolute
    rw [← absolute] at valueLe
    exact le_zero_iff.mp (by exact_mod_cast valueLe)
  unfold magnitude value at zero
  rw [unpack_sub] at zero
  change (x - y).toModel.unpack.isNaN = false at number
  rw [unpack_sub] at number
  exact beq_iff.mpr (unpackedValue_eq_of_sub_eq_zero (canonical_unpack x.toModel)
    (canonical_unpack y.toModel) number zero)

end CoordinateConformance.Binary64
