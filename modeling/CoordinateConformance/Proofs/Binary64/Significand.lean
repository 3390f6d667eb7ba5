import CoordinateConformance.Proofs.Binary64.Encoding
import CoordinateConformance.Proofs.Binary64.Rounding

/-!
Contract: the shifts of a significand round to nearest.

An extended significand holds a natural number, a round bit and a sticky bit. `Describes`
says which real numbers these three stand for; shifting to the right halves the number that
is described. So shifting to the exponent of the result and rounding there gives `nearest`.

Owns: `RoundsTo`, `roundsTo_roundWithAccuracy`, `roundsTo_round`.

Does **not** own: zeros and infinities among the operands.
-/

namespace CoordinateConformance.Binary64

open Float.Model (Format UnpackedFloat totalExponent)
open Float.Model.UnpackedFloat

/-! ## What an extended significand stands for -/

/-- The significand is the integral part of `x`, the round bit says that at least a half
follows, and the sticky bit is clear for exactly an integer or a half. -/
structure Describes (extended : ExtendedMantissa) (x : ℝ) : Prop where
  lower : extended.mantissa ≤ x
  upper : x < extended.mantissa + 1
  round_iff : extended.roundBit = true ↔ extended.mantissa + 1 / 2 ≤ x
  sticky_iff : extended.stickyBit = false ↔ x = extended.mantissa ∨ x = extended.mantissa + 1 / 2

theorem describes_exact (mantissa : Nat) :
    Describes (ExtendedMantissa.ofMantissaAndAccuracy mantissa .exact) mantissa where
  lower := le_refl _
  upper := lt_add_one _
  round_iff := by norm_num [ExtendedMantissa.ofMantissaAndAccuracy]
  sticky_iff := by simp [ExtendedMantissa.ofMantissaAndAccuracy]

/-- The quotient of two natural numbers, with the accuracy that its remainder gives. -/
theorem describes_quotient (numerator : Nat) {denominator : Nat} (positive : 0 < denominator) :
    Describes (ExtendedMantissa.ofMantissaAndAccuracy (numerator / denominator)
        (accuracyOfFraction (numerator % denominator) denominator))
      (numerator / denominator : ℝ) := by
  have denominatorPositive : (0 : ℝ) < denominator := by exact_mod_cast positive
  have division : (numerator : ℝ) =
      denominator * (numerator / denominator : Nat) + (numerator % denominator : Nat) := by
    exact_mod_cast (Nat.div_add_mod numerator denominator).symm
  have remainder : ((numerator % denominator : Nat) : ℝ) < denominator := by
    exact_mod_cast Nat.mod_lt numerator positive
  rw [division]
  generalize numerator / denominator = quotient at *
  generalize numerator % denominator = rest at *
  have split : (denominator * quotient + rest : ℝ) / denominator =
      quotient + rest / denominator := by
    field_simp
  have below : (rest : ℝ) / denominator < 1 := (div_lt_one denominatorPositive).mpr remainder
  rw [split]
  unfold accuracyOfFraction
  by_cases exact : rest = 0
  · rw [if_pos exact, exact]
    simpa using describes_exact quotient
  · rw [if_neg exact]
    have restPositive : (0 : ℝ) < rest := by exact_mod_cast Nat.pos_of_ne_zero exact
    have above : 0 < (rest : ℝ) / denominator := by positivity
    -- the accuracy compares twice the remainder with the denominator: below, at or above a half
    rcases lt_trichotomy (2 * rest) denominator with less | half | greater
    · have belowHalf : (rest : ℝ) / denominator < 1 / 2 := by
        rw [div_lt_div_iff₀ denominatorPositive two_pos]
        exact_mod_cast (by omega : rest * 2 < 1 * denominator)
      rw [compare_lt_iff_lt.mpr less]
      refine ⟨?_, ?_, ?_, ?_⟩ <;> simp only [ExtendedMantissa.ofMantissaAndAccuracy] <;> grind
    · have isHalf : (rest : ℝ) / denominator = 1 / 2 := by
        rw [div_eq_div_iff denominatorPositive.ne' two_ne_zero]
        exact_mod_cast (by omega : rest * 2 = 1 * denominator)
      rw [compare_eq_iff_eq.mpr half]
      refine ⟨?_, ?_, ?_, ?_⟩ <;> simp only [ExtendedMantissa.ofMantissaAndAccuracy] <;> grind
    · have aboveHalf : 1 / 2 < (rest : ℝ) / denominator := by
        rw [div_lt_div_iff₀ two_pos denominatorPositive]
        exact_mod_cast (by omega : 1 * denominator < rest * 2)
      rw [compare_gt_iff_gt.mpr greater]
      refine ⟨?_, ?_, ?_, ?_⟩ <;> simp only [ExtendedMantissa.ofMantissaAndAccuracy] <;> grind

/-! ## Shifting and rounding -/

theorem Describes.shiftRightOne {extended : ExtendedMantissa} {x : ℝ}
    (describes : Describes extended x) : Describes extended.shiftRightOne (x / 2) := by
  obtain ⟨lower, upper, round_iff, sticky_iff⟩ := describes
  rcases extended with ⟨mantissa, roundBit, stickyBit⟩
  have halves : (mantissa : ℝ) = 2 * (mantissa / 2 : Nat) + (mantissa % 2 : Nat) := by
    exact_mod_cast (Nat.div_add_mod mantissa 2).symm
  unfold ExtendedMantissa.shiftRightOne
  simp only at *
  rcases Nat.mod_two_eq_zero_or_one mantissa with even | odd
  · rw [even, Nat.cast_zero, add_zero] at halves
    refine ⟨?_, ?_, ?_, ?_⟩ <;> grind
  · rw [odd, Nat.cast_one] at halves
    refine ⟨?_, ?_, ?_, ?_⟩ <;> grind

theorem Describes.shiftRight {extended : ExtendedMantissa} {x : ℝ}
    (describes : Describes extended x) (count : Nat) :
    Describes (extended >>> count) (x / 2 ^ count) := by
  induction count with
  | zero =>
      rw [pow_zero, div_one]
      exact describes
  | succ count inductionHypothesis =>
      have shifted := inductionHypothesis.shiftRightOne
      rwa [div_div, ← pow_succ] at shifted

theorem Describes.mantissa_eq {extended : ExtendedMantissa} {x : ℝ}
    (describes : Describes extended x) : ⌊x⌋₊ = extended.mantissa :=
  (Nat.floor_eq_iff (le_trans (Nat.cast_nonneg _) describes.lower)).mpr
    ⟨describes.lower, describes.upper⟩

theorem Describes.roundedMantissa {extended : ExtendedMantissa} {x : ℝ}
    (describes : Describes extended x) : extended.roundedMantissa = nearestNatural x := by
  unfold nearestNatural
  rw [describes.mantissa_eq]
  obtain ⟨lower, upper, round_iff, sticky_iff⟩ := describes
  rcases extended with ⟨mantissa, roundBit, stickyBit⟩
  unfold ExtendedMantissa.roundedMantissa
  cases roundBit <;> cases stickyBit <;>
    simp only [ExtendedMantissa.accuracy, Accuracy.roundToNearestEven] at * <;> grind

/-! ## Rounding to the target exponent -/

/-- The number with the given parts; without a significand it is zero. -/
def ofParts (sign : Sign) (mantissa : Nat) (exponent : Int) : UnpackedFloat :=
  if positive : 0 < mantissa then .finite sign mantissa exponent positive else .zero sign

theorem targetExponent_eq (mantissa : Nat) (exponent : Int) :
    Format.binary64.targetExponent (totalExponent mantissa exponent) =
      max (mantissa.log2 + exponent - 52) (-1074) := by
  have least : Format.binary64.minExponent = -1074 := rfl
  have bits : (Format.binary64.mantissaBits : Int) = 53 := rfl
  unfold Format.targetExponent totalExponent
  rw [least, bits]
  congr 1
  omega

/-- The target exponent is that of the unit in the last place, if no bit has been lost yet. -/
theorem ulpExponent_eq_targetExponent {mantissa : Nat} {exponent : Int} {y : ℝ}
    (positive : 0 < y) (lower : mantissa ≤ y) (upper : y < mantissa + 1)
    (low : exponent ≤ Format.binary64.targetExponent (totalExponent mantissa exponent)) :
    ulpExponent (y * 2 ^ exponent) =
      Format.binary64.targetExponent (totalExponent mantissa exponent) := by
  have valuePositive : 0 < y * 2 ^ exponent := by positivity
  have greatest : Int.log 2 (y * 2 ^ exponent) < (mantissa.log2 : Int) + 1 + exponent := by
    rw [← Int.lt_zpow_iff_log_lt (by norm_num) valuePositive, Nat.cast_ofNat,
      zpow_add₀ two_ne_zero]
    have power : ((mantissa + 1 : Nat) : ℝ) ≤ (2 ^ (mantissa.log2 + 1) : Nat) := by
      exact_mod_cast Nat.lt_log2_self
    push_cast at power
    rw [← Nat.cast_succ, zpow_natCast]
    gcongr
    exact upper.trans_le power
  rw [targetExponent_eq] at low ⊢
  unfold ulpExponent
  rcases Nat.eq_zero_or_pos mantissa with rfl | mantissaPositive
  · rw [Nat.log2_zero] at *
    omega
  · have least : (mantissa.log2 : Int) + exponent ≤ Int.log 2 (y * 2 ^ exponent) := by
      rw [← Int.zpow_le_iff_le_log (by norm_num) valuePositive, Nat.cast_ofNat,
        zpow_add₀ two_ne_zero, zpow_natCast]
      have power : ((2 ^ mantissa.log2 : Nat) : ℝ) ≤ mantissa := by
        exact_mod_cast Nat.log2_self_le mantissaPositive.ne'
      push_cast at power
      gcongr
      exact power.trans lower
    omega

/-- What rounding leaves: at most 53 bits or two to the power of 53, and at least 53 bits above
the least exponent. -/
structure Rounded (mantissa : Nat) (exponent : Int) : Prop where
  le : mantissa ≤ 2 ^ 53
  least : -1074 ≤ exponent
  leading : mantissa = 0 ∨ 2 ^ 52 ≤ mantissa ∨ exponent = -1074

/-- The first shift, which rounds. -/
theorem shiftToTargetExponent_spec {mantissa : Nat} {exponent : Int} {accuracy : Accuracy} {y : ℝ}
    (describes : Describes (ExtendedMantissa.ofMantissaAndAccuracy mantissa accuracy) y)
    (low : exponent ≤ Format.binary64.targetExponent (totalExponent mantissa exponent)) :
    let shifted := shiftToTargetExponent .binary64 mantissa exponent accuracy
    Rounded shifted.1.roundedMantissa shifted.2 ∧
      (shifted.1.roundedMantissa : ℝ) * 2 ^ shifted.2 = nearest (y * 2 ^ exponent) := by
  intro shifted
  -- the accuracy only sets the two residual bits
  have mantissaEq :
      (ExtendedMantissa.ofMantissaAndAccuracy mantissa accuracy).mantissa = mantissa := by
    unfold ExtendedMantissa.ofMantissaAndAccuracy
    split <;> rfl
  have lower := mantissaEq ▸ describes.lower
  have upper := mantissaEq ▸ describes.upper
  obtain ⟨count, countEq⟩ := Int.le.dest low
  have shiftedEq : shifted =
      (ExtendedMantissa.ofMantissaAndAccuracy mantissa accuracy >>> count, exponent + count) := by
    show shiftToTargetExponent _ _ _ _ = _
    unfold shiftToTargetExponent shiftToExponent
    rw [← countEq]
    simp
  have rounded : shifted.1.roundedMantissa = nearestNatural (y / 2 ^ count) := by
    rw [shiftedEq]
    exact (describes.shiftRight count).roundedMantissa
  have exponentEq : shifted.2 =
      Format.binary64.targetExponent (totalExponent mantissa exponent) := by
    rw [shiftedEq, countEq]
  rcases (le_trans (Nat.cast_nonneg _) lower).eq_or_lt with rfl | positive
  · have zero : shifted.1.roundedMantissa = 0 := by
      rw [rounded, zero_div]
      exact_mod_cast nearestNatural_natCast 0
    rw [zero, exponentEq, targetExponent_eq]
    refine ⟨⟨by norm_num, by omega, Or.inl rfl⟩, ?_⟩
    simp
  · have ulp := ulpExponent_eq_targetExponent positive lower upper low
    have quotient : y / 2 ^ count = y * 2 ^ exponent / 2 ^ ulpExponent (y * 2 ^ exponent) := by
      rw [ulp, ← countEq, zpow_add₀ two_ne_zero, zpow_natCast]
      field_simp
    have valuePositive : 0 < y * 2 ^ exponent := by positivity
    rw [rounded, quotient, exponentEq, ← ulp]
    refine ⟨⟨nearestNatural_le _, le_max_right _ _, Or.inr ?_⟩, rfl⟩
    by_cases least : ulpExponent (y * 2 ^ exponent) = -1074
    · exact Or.inr least
    · exact Or.inl (le_nearestNatural valuePositive least)

/-- The second shift, which takes back a carry and loses nothing. -/
theorem shiftToTargetExponent_exact {mantissa : Nat} {exponent : Int}
    (rounded : Rounded mantissa exponent) :
    let shifted := shiftToTargetExponent .binary64 mantissa exponent .exact
    (shifted.1.mantissa : ℝ) * 2 ^ shifted.2 = mantissa * 2 ^ exponent ∧
      (0 < shifted.1.mantissa → shifted.1.mantissa < 2 ^ 53 ∧ -1074 ≤ shifted.2 ∧
        (2 ^ 52 ≤ shifted.1.mantissa ∨ shifted.2 = -1074)) := by
  intro shifted
  obtain ⟨le, least, leading⟩ := rounded
  rcases le.lt_or_eq with small | rfl
  · have length : mantissa.log2 ≤ 52 := by
      rcases Nat.eq_zero_or_pos mantissa with rfl | positive
      · norm_num
      · exact Nat.le_of_lt_succ ((Nat.log2_lt positive.ne').mpr small)
    have unshifted : (Format.binary64.targetExponent (totalExponent mantissa exponent) -
        exponent).toNat = 0 := by
      rw [targetExponent_eq]
      omega
    have shiftedEq : shifted = (⟨mantissa, false, false⟩, exponent) := by
      show shiftToTargetExponent _ _ _ _ = _
      simp only [shiftToTargetExponent, shiftToExponent, unshifted]
      exact Prod.ext rfl (add_zero exponent)
    rw [shiftedEq]
    exact ⟨rfl, fun positive => ⟨small, least, leading.resolve_left positive.ne'⟩⟩
  · -- rounding has carried into a 54th bit, and all lower bits are clear
    have once : (Format.binary64.targetExponent (totalExponent (2 ^ 53) exponent) - exponent).toNat
        = 1 := by
      rw [targetExponent_eq, Nat.log2_two_pow]
      omega
    have shiftedEq : shifted = (⟨2 ^ 52, false, false⟩, exponent + 1) := by
      show shiftToTargetExponent _ _ _ _ = _
      simp only [shiftToTargetExponent, shiftToExponent, once]
      rfl
    rw [shiftedEq]
    refine ⟨?_, fun _ => ⟨by norm_num, by omega, Or.inl le_rfl⟩⟩
    rw [zpow_add₀ two_ne_zero]
    push_cast
    ring

/-- The number has the sign and the nearest magnitude, with an exponent that may be beyond the
range. -/
def RoundsTo (number : UnpackedFloat) (sign : Sign) (x : ℝ) : Prop :=
  ∃ mantissa exponent, number = ofParts sign mantissa exponent ∧ Canonical number ∧
    scaled mantissa exponent = nearest x

theorem roundsTo_zero (sign : Sign) : RoundsTo (.zero sign) sign 0 :=
  ⟨0, 0, rfl, trivial, by rw [scaled, nearest_zero, Nat.cast_zero, zero_mul]⟩

theorem roundsTo_roundWithAccuracy (sign : Sign) {mantissa : Nat} {exponent : Int}
    {accuracy : Accuracy} {y : ℝ}
    (describes : Describes (ExtendedMantissa.ofMantissaAndAccuracy mantissa accuracy) y)
    (low : exponent ≤ Format.binary64.targetExponent (totalExponent mantissa exponent)) :
    RoundsTo (roundWithAccuracy .binary64 sign mantissa exponent accuracy) sign
      (y * 2 ^ exponent) := by
  let first := shiftToTargetExponent .binary64 mantissa exponent accuracy
  let second := shiftToTargetExponent .binary64 first.1.roundedMantissa first.2 .exact
  obtain ⟨rounded, nearestEq⟩ := shiftToTargetExponent_spec describes low
  obtain ⟨kept, canonical⟩ := shiftToTargetExponent_exact rounded
  have parts : roundWithAccuracy .binary64 sign mantissa exponent accuracy =
      ofParts sign second.1.mantissa second.2 := by
    unfold roundWithAccuracy ofParts
    simp only [Nat.pos_iff_ne_zero, dite_not]
    rfl
  refine ⟨second.1.mantissa, second.2, parts, ?_, kept.trans nearestEq⟩
  rw [parts]
  unfold ofParts
  split_ifs with positive
  · exact canonical positive
  · trivial

theorem log2_shiftLeft {mantissa : Nat} (positive : 0 < mantissa) (count : Nat) :
    (mantissa <<< count).log2 = mantissa.log2 + count := by
  induction count with
  | zero => rfl
  | succ count inductionHypothesis =>
      have shiftedPositive : mantissa <<< count ≠ 0 := by
        rw [Nat.shiftLeft_eq]
        positivity
      rw [Nat.shiftLeft_succ, Nat.log2_two_mul shiftedPositive, inductionHypothesis, add_assoc]

/-- An exact significand may have any length. -/
theorem roundsTo_round (sign : Sign) {mantissa : Nat} (positive : 0 < mantissa) (exponent : Int) :
    RoundsTo (UnpackedFloat.round .binary64 sign mantissa exponent) sign
      (mantissa * 2 ^ exponent) := by
  unfold UnpackedFloat.round decreaseExponent
  rw [targetExponent_eq]
  set count := (exponent - max (mantissa.log2 + exponent - 52) (-1074)).toNat with countEq
  have length := log2_shiftLeft positive count
  have low : exponent - count ≤
      Format.binary64.targetExponent (totalExponent (mantissa <<< count) (exponent - count)) := by
    rw [targetExponent_eq, length]
    omega
  have same : ((mantissa <<< count : Nat) : ℝ) * 2 ^ (exponent - count) =
      mantissa * 2 ^ exponent := by
    rw [Nat.shiftLeft_eq, zpow_sub₀ two_ne_zero, zpow_natCast]
    push_cast
    field_simp
  rw [← same]
  exact roundsTo_roundWithAccuracy sign (describes_exact (mantissa <<< count)) low

end CoordinateConformance.Binary64
