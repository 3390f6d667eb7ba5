import CoordinateConformance.Decimal.Basic
import CoordinateConformance.Proofs.Binary64.Identities

/-!
Contract: the value of a decimal with an exponent, and of the expansion of a number.

A coefficient of any length times a power of ten is rounded once, on the short way over a table of
exact powers as well as on the long way over an exact product or quotient. The expansion of a finite
number, which is computed from its bits, has the value of the number.

Owns: `ofFloat_of_finite`, `hasValue_ofScientific_up`, `hasValue_ofScientific_down`,
`HasValue.read_eq`, `unpack_neg`.

Does **not** own: decimals beyond the range of the format.
-/

namespace CoordinateConformance

open Float.Model (Format UnpackedFloat)
open Float.Model.UnpackedFloat

namespace Binary64

/-! ## The expansion of a number -/

def isNegative : Sign → Bool
  | .negative => true
  | .positive => false

theorem isNegative_ofBitVec (bit : BitVec 1) :
    isNegative (Sign.ofBitVec bit) = decide (bit.toNat = 1) := by
  revert bit
  decide

section Bits

variable (x : Float)

theorem toNat_unpackMantissa :
    (@unpackMantissa .binary64 x.toModel.toBits.toBitVec).toNat =
      x.toBits.toNat % BinaryExpansion.hiddenBit := by
  show (x.toBits.toBitVec.extractLsb 51 0).toNat = _
  rw [BitVec.extractLsb_toNat]
  rfl

theorem toNat_unpackExponent :
    (@unpackExponent .binary64 x.toModel.toBits.toBitVec).toNat =
      x.toBits.toNat / BinaryExpansion.hiddenBit % 2048 := by
  show (x.toBits.toBitVec.extractLsb 62 52).toNat = _
  rw [BitVec.extractLsb_toNat, Nat.shiftRight_eq_div_pow]
  rfl

theorem toNat_unpackSign :
    (@unpackSign .binary64 x.toModel.toBits.toBitVec).toNat = x.toBits.toNat / 2 ^ 63 := by
  have bound := x.toBits.toNat_lt
  show (x.toBits.toBitVec.extractLsb 63 63).toNat = _
  rw [BitVec.extractLsb_toNat, Nat.shiftRight_eq_div_pow]
  exact Nat.mod_eq_of_lt (by show x.toBits.toNat / 2 ^ 63 < 2 ^ 1; omega)

/-- The parts of a number, as they are read from its bits and as an expansion has them. -/
theorem ofFloat_eq_of_parts {sign : BitVec 1} {biased : BitVec 11} {fraction : BitVec 52}
    (signEq : @unpackSign .binary64 x.toModel.toBits.toBitVec = sign)
    (biasedEq : @unpackExponent .binary64 x.toModel.toBits.toBitVec = biased)
    (fractionEq : @unpackMantissa .binary64 x.toModel.toBits.toBitVec = fraction) :
    BinaryExpansion.ofFloat x =
      if biased.toNat = 0 then ⟨isNegative (Sign.ofBitVec sign), fraction.toNat, -1074⟩
      else
        ⟨isNegative (Sign.ofBitVec sign), 2 ^ 52 + fraction.toNat,
          biased.toNat - (1075 : Int)⟩ := by
  rw [isNegative_ofBitVec, ← signEq, ← biasedEq, ← fractionEq, toNat_unpackSign,
    toNat_unpackExponent, toNat_unpackMantissa]
  rfl

end Bits

theorem ofFloat_of_finite {x : Float} {sign : Sign} {mantissa : Nat} {exponent : Int}
    {positive : 0 < mantissa} (read : x.toModel.unpack = .finite sign mantissa exponent positive) :
    BinaryExpansion.ofFloat x = ⟨isNegative sign, mantissa, exponent⟩ := by
  rw [ofFloat_eq_of_parts x rfl rfl rfl]
  unfold Float.Model.unpack UnpackedFloat.unpack at read
  dsimp only at read
  split_ifs at read with ones zeroFraction zeroExponent zeroFraction
  · injection read with signEq mantissaEq exponentEq
    have zero : BitVec.toNat _ = 0 := congrArg BitVec.toNat zeroExponent
    rw [if_pos zero, signEq, mantissaEq, ← exponentEq, zero]
    rfl
  · injection read with signEq mantissaEq exponentEq
    have notZero : BitVec.toNat _ ≠ 0 :=
      fun equal => zeroExponent (BitVec.eq_of_toNat_eq equal)
    rw [toNat_one_append] at mantissaEq
    rw [if_neg notZero, signEq, mantissaEq, ← exponentEq]
    rfl

theorem ofFloat_of_zero {x : Float} {sign : Sign} (read : x.toModel.unpack = .zero sign) :
    BinaryExpansion.ofFloat x = ⟨isNegative sign, 0, -1074⟩ := by
  rw [ofFloat_eq_of_parts x rfl rfl rfl]
  unfold Float.Model.unpack UnpackedFloat.unpack at read
  dsimp only at read
  split_ifs at read with ones zeroFraction zeroExponent zeroFraction
  injection read with signEq
  have zero : BitVec.toNat _ = 0 := congrArg BitVec.toNat zeroExponent
  have fraction : BitVec.toNat _ = 0 := congrArg BitVec.toNat zeroFraction
  rw [if_pos zero, signEq, fraction]

/-- The value of an expansion. -/
noncomputable def expanded (x : BinaryExpansion) : ℝ :=
  (if x.negative then -1 else 1) * scaled x.significand x.exponent

theorem read_cases {x : Float} (finite : x.isFinite = true) :
    (∃ sign, x.toModel.unpack = .zero sign) ∨
      ∃ sign mantissa exponent positive,
        x.toModel.unpack = .finite sign mantissa exponent positive := by
  change x.toModel.unpack.isFinite = true at finite
  cases read : x.toModel.unpack with
  | zero sign => exact Or.inl ⟨sign, rfl⟩
  | finite sign mantissa exponent positive =>
      exact Or.inr ⟨sign, mantissa, exponent, positive, rfl⟩
  | _ =>
      rw [read] at finite
      cases finite

theorem hasValue_expanded {x : Float} (finite : x.isFinite = true) :
    HasValue x (expanded (BinaryExpansion.ofFloat x)) := by
  rcases read_cases finite with ⟨sign, read⟩ | ⟨sign, mantissa, exponent, positive, read⟩
  · rw [ofFloat_of_zero read]
    have zero : expanded ⟨isNegative sign, 0, -1074⟩ = 0 := by simp [expanded, scaled]
    rw [zero]
    constructor
    · show x.toModel.unpack.isNaN = false
      rw [read]
      rfl
    · show unpackedValue x.toModel.unpack = _
      rw [read]
      rfl
  · rw [ofFloat_of_finite read]
    have same : expanded ⟨isNegative sign, mantissa, exponent⟩ =
        signedReal sign mantissa exponent := by
      cases sign <;> simp [expanded, isNegative, signedReal, scaled]
    rw [same]
    exact hasValue_of_read read

/-! ## Decimals with an exponent -/

theorem roundsTo_scaledDown {n : ℕ} (positive : 0 < n) {exponent : ℕ} (nonzero : 0 < exponent)
    (low : exponent ≤ 2048 + n.log2) :
    RoundsTo (UnpackedFloat.ofScientific .binary64 n (-(exponent : Int))) .positive
      (n / 10 ^ exponent) := by
  have parts : UnpackedFloat.ofScientific .binary64 n (-(exponent : Int)) =
      UnpackedFloat.div .binary64 (.finite .positive n 0 positive)
        (.finite .positive (10 ^ exponent) 0 (by positivity)) := by
    unfold UnpackedFloat.ofScientific
    have bits : (2 : Int) ^ Format.binary64.exponentBits = 2048 := rfl
    rw [dif_neg positive.ne', if_neg (by rw [bits]; omega), if_neg (by rw [bits]; omega),
      if_neg (by omega)]
    simp only [neg_neg, Int.toNat_natCast]
  have quotient : (n : ℝ) * 2 ^ (0 : ℤ) / ((10 ^ exponent : ℕ) * 2 ^ (0 : ℤ)) =
      n / 10 ^ exponent := by simp
  rw [parts, ← quotient]
  exact roundsTo_div

/-- The powers of ten that are numbers of the format: five to the exponent has at most 53 bits. -/
theorem ofFloat_powerOfTen : ∀ exponent : Fin 23,
    Float.exactlyRepresentablePowersOfTen[exponent].isFinite = true ∧
      BinaryExpansion.ofFloat Float.exactlyRepresentablePowersOfTen[exponent] =
        ⟨false, 5 ^ exponent.val * 2 ^ (52 - (5 ^ exponent.val).log2),
          exponent.val + (5 ^ exponent.val).log2 - 52⟩ := by
  decide +kernel

theorem hasValue_powerOfTen {exponent : ℕ} (within : exponent < 23) :
    HasValue Float.exactlyRepresentablePowersOfTen[exponent] (10 ^ exponent) := by
  obtain ⟨finite, expansion⟩ := ofFloat_powerOfTen ⟨exponent, within⟩
  have short : (5 ^ exponent).log2 < 52 := by
    rw [Nat.log2_lt (by positivity)]
    calc 5 ^ exponent ≤ 5 ^ 22 := Nat.pow_le_pow_right (by norm_num) (by omega)
      _ < 2 ^ 52 := by norm_num
  have shifts : ((2 ^ (52 - (5 ^ exponent).log2) : ℕ) : ℝ) *
      2 ^ ((exponent : ℤ) + (5 ^ exponent).log2 - 52) = 2 ^ exponent := by
    rw [Nat.cast_pow, Nat.cast_ofNat, ← zpow_natCast, ← zpow_add₀ two_ne_zero, ← zpow_natCast]
    congr 1
    omega
  have power : expanded ⟨false, 5 ^ exponent * 2 ^ (52 - (5 ^ exponent).log2),
      exponent + (5 ^ exponent).log2 - 52⟩ = 10 ^ exponent := by
    simp only [expanded, scaled, Bool.false_eq_true, if_false, one_mul]
    rw [Nat.cast_mul, mul_assoc, shifts, Nat.cast_pow, ← mul_pow]
    norm_num
  have has := hasValue_expanded finite
  rw [expansion, power] at has
  exact has

section OfScientific

variable {n exponent : ℕ}

theorem hasValue_ofScientific_up (positive : 0 < n) (high : exponent ≤ 2048)
    (within : nearest (n * 10 ^ exponent) < overflowBound) :
    HasValue (Float.ofScientific n false exponent) (nearest (n * 10 ^ exponent)) := by
  unfold Float.ofScientific
  by_cases short : n < 2 ^ 53 ∧ exponent ≤ 22
  · rw [dif_pos short]
    exact (hasValue_coefficient short.1).mul (hasValue_powerOfTen (by omega)) (by positivity)
      (by positivity) within
  · rw [dif_neg short]
    exact (roundsTo_scaledUp positive high).hasValue within

theorem hasValue_ofScientific_down (positive : 0 < n) (nonzero : 0 < exponent)
    (low : exponent ≤ 2048 + n.log2) (within : nearest (n / 10 ^ exponent) < overflowBound) :
    HasValue (Float.ofScientific n true exponent) (nearest (n / 10 ^ exponent)) := by
  unfold Float.ofScientific
  by_cases short : n < 2 ^ 53 ∧ exponent ≤ 22
  · rw [dif_pos short]
    exact (hasValue_coefficient short.1).div (hasValue_powerOfTen (by omega)) (by positivity)
      (by positivity) within
  · rw [dif_neg short]
    have negated : Int.negOfNat exponent = -(exponent : Int) := Int.negOfNat_eq
    simp only [if_true, negated]
    exact (roundsTo_scaledDown positive nonzero low).hasValue within

end OfScientific

/-! ## Numbers by their value -/

/-- A positive value is that of one significand and one exponent. -/
theorem HasValue.read_eq {x : Float} {mantissa : ℕ} {exponent : ℤ} {positive : 0 < mantissa}
    (has : HasValue x (mantissa * 2 ^ exponent))
    (canonical : Canonical (.finite .positive mantissa exponent positive)) :
    x.toModel.unpack = .finite .positive mantissa exponent positive := by
  have valuePositive : (0 : ℝ) < mantissa * 2 ^ exponent := by positivity
  rcases has.unpack_cases with ⟨_, _, zero⟩ | ⟨sign, significand, power, nonzero, read, same⟩
  · exact absurd zero valuePositive.ne'
  · cases sign with
    | negative => exact absurd (same ▸ valuePositive) (signedReal_negative_neg nonzero power).not_gt
    | positive =>
        have canonicalRead := canonical_unpack x.toModel
        rw [read] at canonicalRead
        have compared := compare_lexicographic canonical canonicalRead
        have equal : (compare exponent power).then (compare mantissa significand) = .eq :=
          compared.eq_eq.mpr same
        rw [Ordering.then_eq_eq, compare_eq_iff_eq, compare_eq_iff_eq] at equal
        obtain ⟨rfl, rfl⟩ := equal
        exact read

@[simp]
theorem unpack_neg (x : Float) : (-x).toModel.unpack = x.toModel.unpack.neg := by
  have canonical : Canonical x.toModel.unpack.neg := by
    have unsigned := canonical_unpack x.toModel
    generalize x.toModel.unpack = number at unsigned
    cases number <;> exact unsigned
  have read : (-x).toModel.unpack = saturate x.toModel.unpack.neg := unpack_pack canonical
  rw [read]
  have kept := saturate_unpack x.toModel
  generalize x.toModel.unpack = number at kept
  cases number with
  | finite sign mantissa exponent positive =>
      unfold saturate at kept
      dsimp only at kept
      split_ifs at kept with beyond
      unfold saturate UnpackedFloat.neg
      dsimp only
      rw [if_neg beyond]
  | _ => rfl

end Binary64

end CoordinateConformance
