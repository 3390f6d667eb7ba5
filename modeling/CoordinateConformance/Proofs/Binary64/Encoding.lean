import Mathlib

/-!
Contract: reading back what has been written to the 64 bits of a number.

An unpacked number is canonical if its significand has 53 bits or its exponent is the least
one, -1074. Reading the bits of a number gives a canonical one. Writing a canonical number
and reading it back changes it only if its exponent is beyond 971, where it becomes infinite.

Owns: `unpack_pack`, `canonical_unpack`, `saturate_unpack`.

Does **not** own: any arithmetic.
-/

namespace CoordinateConformance.Binary64

open Float.Model (Format UnpackedFloat totalExponent)
open Float.Model.UnpackedFloat

/-- The form in which numbers are read from their bits, without an upper bound on the exponent. -/
def Canonical : UnpackedFloat → Prop
  | .finite _ mantissa exponent _ =>
      mantissa < 2 ^ 53 ∧ -1074 ≤ exponent ∧ (2 ^ 52 ≤ mantissa ∨ exponent = -1074)
  | _ => True

/-- The number that is left when a canonical number is written to 64 bits. -/
def saturate : UnpackedFloat → UnpackedFloat
  | .finite sign mantissa exponent positive =>
      if 971 < exponent then .infinity sign else .finite sign mantissa exponent positive
  | other => other

theorem unpackSign_packComponents (sign : Sign) (exponent : BitVec 11) (mantissa : BitVec 52) :
    unpackSign (packComponents .binary64 sign exponent mantissa) = sign.toBitVec := by
  change (sign.toBitVec ++ exponent ++ mantissa).extractLsb' 63 1 = sign.toBitVec
  rw [BitVec.extractLsb'_append_eq_of_le (by decide),
    BitVec.extractLsb'_append_eq_of_le (by decide)]
  exact BitVec.extractLsb'_eq_self

theorem ofBitVec_toBitVec (sign : Sign) : Sign.ofBitVec sign.toBitVec = sign := by
  cases sign <;> rfl

theorem toNat_one_append (mantissa : BitVec 52) :
    (1#1 ++ mantissa).toNat = 2 ^ 52 + mantissa.toNat := by
  rw [BitVec.toNat_append, ← Nat.shiftLeft_add_eq_or_of_lt mantissa.isLt]
  rfl

/-- Reading the components of a number with a hidden leading bit. -/
theorem unpack_normal (sign : Sign) (mantissa : Nat) (biased : Nat) (positive : 0 < mantissa)
    (leading : 2 ^ 52 ≤ mantissa) (small : mantissa < 2 ^ 53) (least : 0 < biased)
    (greatest : biased < 2047) :
    UnpackedFloat.unpack .binary64
        (packComponents .binary64 sign (BitVec.ofNat 11 biased) (BitVec.ofNat 52 mantissa)) =
      .finite sign mantissa ((biased : Int) - 1075) positive := by
  have exponentNat : (BitVec.ofNat 11 biased).toNat = biased := by
    rw [BitVec.toNat_ofNat, Nat.mod_eq_of_lt (by omega)]
  have notOnes : BitVec.ofNat 11 biased ≠ -1#11 := by
    intro equal
    have := congrArg BitVec.toNat equal
    rw [exponentNat] at this
    simp at this
    omega
  have notZero : BitVec.ofNat 11 biased ≠ 0#11 := by
    intro equal
    have := congrArg BitVec.toNat equal
    rw [exponentNat] at this
    simp at this
    omega
  have mantissaNat : (1#1 ++ BitVec.ofNat 52 mantissa).toNat = mantissa := by
    rw [toNat_one_append, BitVec.toNat_ofNat]
    omega
  unfold UnpackedFloat.unpack
  simp only [unpackMantissa_packComponents, unpackExponent_packComponents,
    unpackSign_packComponents, ofBitVec_toBitVec, notOnes, notZero, if_false, mantissaNat,
    exponentNat]
  rfl

/-- Reading the components of a number without a hidden leading bit. -/
theorem unpack_subnormal (sign : Sign) (mantissa : Nat) (positive : 0 < mantissa)
    (small : mantissa < 2 ^ 52) :
    UnpackedFloat.unpack .binary64
        (packComponents .binary64 sign 0#11 (BitVec.ofNat 52 mantissa)) =
      .finite sign mantissa (-1074) positive := by
  have mantissaNat : (BitVec.ofNat 52 mantissa).toNat = mantissa := by
    rw [BitVec.toNat_ofNat, Nat.mod_eq_of_lt small]
  have notZero : BitVec.ofNat 52 mantissa ≠ 0#52 := by
    intro equal
    have := congrArg BitVec.toNat equal
    rw [mantissaNat] at this
    simp at this
    omega
  have notOnes : (0#11 : BitVec 11) ≠ -1#11 := by decide
  unfold UnpackedFloat.unpack
  simp only [unpackMantissa_packComponents, unpackExponent_packComponents,
    unpackSign_packComponents, ofBitVec_toBitVec, notOnes, notZero, if_false, if_true, dif_neg,
    not_false_eq_true, mantissaNat]
  rfl

theorem unpack_packedInfinity (sign : Sign) :
    UnpackedFloat.unpack .binary64 (packedInfinity .binary64 sign) = .infinity sign := by
  cases sign <;> rfl

/-- Writing and reading back. -/
theorem unpack_pack {number : UnpackedFloat} (canonical : Canonical number) :
    (Float.Model.pack number).unpack = saturate number := by
  show UnpackedFloat.unpack .binary64 (UnpackedFloat.pack .binary64 number) = saturate number
  cases number with
  | infinity sign => exact unpack_packedInfinity sign
  | notANumber => rfl
  | zero sign => cases sign <;> rfl
  | finite sign mantissa exponent positive =>
      obtain ⟨small, least, leading⟩ := canonical
      have bias : Format.binary64.exponentBias = 1023 := rfl
      have bits : Format.binary64.mantissaBits = 53 := rfl
      unfold UnpackedFloat.pack saturate
      simp only [bias, bits]
      by_cases overflow : 971 < exponent
      · rw [if_pos overflow, if_pos (by omega)]
        exact unpack_packedInfinity sign
      · rw [if_neg overflow, if_neg (by omega)]
        by_cases normal : 2 ^ 52 ≤ mantissa
        · have length : mantissa.log2 = 52 := (Nat.log2_eq_iff (by omega)).mpr ⟨normal, small⟩
          rw [if_pos (by omega), unpack_normal sign mantissa _ positive normal small
            (by omega) (by omega)]
          congr 1
          omega
        · have length : mantissa.log2 < 52 := (Nat.log2_lt (by omega)).mpr (by omega)
          have exponentEq : exponent = -1074 := by omega
          rw [if_neg (by omega), unpack_subnormal sign mantissa positive (by omega), exponentEq]

/-- The bits of a number hold a canonical number within the range of exponents. -/
theorem unpack_finite {number : Float.Model} {sign : Sign} {mantissa : Nat} {exponent : Int}
    {positive : 0 < mantissa} (read : number.unpack = .finite sign mantissa exponent positive) :
    mantissa < 2 ^ 53 ∧ -1074 ≤ exponent ∧ (2 ^ 52 ≤ mantissa ∨ exponent = -1074) ∧
      exponent ≤ 971 := by
  have bias : Format.binary64.exponentBias = 1023 := rfl
  have fractionLt : (@unpackMantissa .binary64 number.toBits.toBitVec).toNat < 2 ^ 52 :=
    BitVec.isLt _
  have biasedLt : (@unpackExponent .binary64 number.toBits.toBitVec).toNat < 2 ^ 11 :=
    BitVec.isLt _
  unfold Float.Model.unpack UnpackedFloat.unpack at read
  simp only [bias] at read
  split_ifs at read with ones zeroFraction zeroExponent zeroFraction
  · injection read with _ mantissaEq exponentEq
    have zero := congrArg BitVec.toNat zeroExponent
    simp at zero
    omega
  · injection read with _ mantissaEq exponentEq
    have notZero := fun equal => zeroExponent (BitVec.eq_of_toNat_eq equal)
    have notOnes := fun equal => ones (BitVec.eq_of_toNat_eq equal)
    simp at notZero notOnes
    rw [toNat_one_append] at mantissaEq
    omega

theorem canonical_unpack (number : Float.Model) : Canonical number.unpack := by
  cases read : number.unpack with
  | finite sign mantissa exponent positive =>
      obtain ⟨small, least, leading, _⟩ := unpack_finite read
      exact ⟨small, least, leading⟩
  | _ => trivial

theorem saturate_unpack (number : Float.Model) : saturate number.unpack = number.unpack := by
  cases read : number.unpack with
  | finite sign mantissa exponent positive =>
      obtain ⟨_, _, _, greatest⟩ := unpack_finite read
      exact if_neg (by omega)
  | _ => rfl

end CoordinateConformance.Binary64
