import CoordinateConformance.Proofs.Binary64.Significand
import CoordinateConformance.Proofs.Binary64.Value

/-!
Contract: products, quotients and absolute values of numbers.

The magnitude of a product is the rounded product of the magnitudes, for all operands, and so
for quotients. NaN has the magnitude zero, which is what `ℝ≥0∞` has for `∞ * 0`, `0 / 0` and
`∞ / ∞`; `isNaN_mul` and `isNaN_div` say when a result is one. A product of numbers that are
not negative is not negative; a quotient needs a divisor without a sign, because dividing by
negative zero gives a negative infinity.

Owns: `magnitude_mul`, `magnitude_div`, `magnitude_abs`.

Does **not** own: differences.
-/

namespace CoordinateConformance.Binary64

open Float.Model (Format UnpackedFloat totalExponent)
open Float.Model.UnpackedFloat
open scoped ENNReal

/-! ## The value of what rounding gives -/

theorem abs_unpackedValue_finite (sign : Sign) {mantissa : Nat} (exponent : Int)
    (positive : 0 < mantissa) :
    (unpackedValue (.finite sign mantissa exponent positive)).abs =
      ENNReal.ofReal (mantissa * 2 ^ exponent) := by
  unfold unpackedValue
  rw [EReal.abs_def, abs_signedReal]

@[simp]
theorem abs_unpackedValue_infinity (sign : Sign) : (unpackedValue (.infinity sign)).abs = ∞ := by
  cases sign <;> rfl

@[simp]
theorem abs_unpackedValue_zero (sign : Sign) : (unpackedValue (.zero sign)).abs = 0 :=
  EReal.abs_zero

@[simp]
theorem abs_unpackedValue_notANumber : (unpackedValue .notANumber).abs = 0 :=
  EReal.abs_zero

@[simp]
theorem abs_unpackedValue_finite_pos (sign : Sign) {mantissa : Nat} (exponent : Int)
    (positive : 0 < mantissa) :
    (unpackedValue (.finite sign mantissa exponent positive)).abs ≠ 0 := by
  rw [abs_unpackedValue_finite]
  have valuePositive : (0 : ℝ) < mantissa * 2 ^ exponent := by positivity
  exact (ENNReal.ofReal_pos.mpr valuePositive).ne'

@[simp]
theorem abs_unpackedValue_finite_ne_top (sign : Sign) {mantissa : Nat} (exponent : Int)
    (positive : 0 < mantissa) :
    (unpackedValue (.finite sign mantissa exponent positive)).abs ≠ ∞ := by
  rw [abs_unpackedValue_finite]
  exact ENNReal.ofReal_ne_top

/-- A canonical significand is beyond the format if its exponent is. -/
theorem overflowBound_le_iff {mantissa : Nat} {exponent : Int} (small : mantissa < 2 ^ 53)
    (leading : 2 ^ 52 ≤ mantissa ∨ exponent = -1074) :
    overflowBound ≤ mantissa * 2 ^ exponent ↔ 971 < exponent := by
  unfold overflowBound
  constructor
  · intro overflow
    by_contra within
    have below : (mantissa : ℝ) * 2 ^ exponent < 2 ^ 53 * 2 ^ (971 : ℤ) := by
      have mantissaBelow : (mantissa : ℝ) < 2 ^ 53 := by exact_mod_cast small
      have powers : (2 : ℝ) ^ exponent ≤ 2 ^ (971 : ℤ) :=
        zpow_le_zpow_right₀ (by norm_num) (by omega)
      exact mul_lt_mul mantissaBelow powers (by positivity) (by positivity)
    rw [← zpow_natCast, ← zpow_add₀ two_ne_zero] at below
    exact absurd overflow (not_le.mpr below)
  · intro beyond
    have mantissaLe : (2 ^ 52 : ℝ) ≤ mantissa := by
      exact_mod_cast leading.resolve_right (by omega)
    have powers : (2 : ℝ) ^ (972 : ℤ) ≤ 2 ^ exponent :=
      zpow_le_zpow_right₀ (by norm_num) (by omega)
    calc (2 : ℝ) ^ (1024 : ℤ) = 2 ^ 52 * 2 ^ (972 : ℤ) := by
          rw [← zpow_natCast, ← zpow_add₀ two_ne_zero]
          norm_num
      _ ≤ mantissa * 2 ^ exponent := by gcongr

theorem RoundsTo.canonical {number : UnpackedFloat} {sign : Sign} {x : ℝ}
    (roundsTo : RoundsTo number sign x) : Canonical number := by
  obtain ⟨mantissa, exponent, _, canonical, _⟩ := roundsTo
  exact canonical

/-- Writing a rounded number to its 64 bits leaves the rounded magnitude. -/
theorem RoundsTo.abs_value {number : UnpackedFloat} {sign : Sign} {x : ℝ}
    (roundsTo : RoundsTo number sign x) (nonneg : 0 ≤ x) :
    (unpackedValue (saturate number)).abs = rounded (ENNReal.ofReal x) := by
  obtain ⟨mantissa, exponent, rfl, canonical, nearestEq⟩ := roundsTo
  rw [rounded_ofReal nonneg, ← nearestEq, scaled]
  by_cases positive : 0 < mantissa
  · rw [show ofParts sign mantissa exponent = .finite sign mantissa exponent positive from
      dif_pos positive] at canonical ⊢
    have beyond := overflowBound_le_iff canonical.1 canonical.2.2
    unfold saturate
    dsimp only
    by_cases overflow : 971 < exponent
    · rw [if_pos overflow, if_pos (beyond.mpr overflow), abs_unpackedValue_infinity]
    · rw [if_neg overflow, if_neg (mt beyond.mp overflow), abs_unpackedValue_finite]
  · have zero : mantissa = 0 := by omega
    have within : ¬overflowBound ≤ 0 := by
      unfold overflowBound
      exact not_le.mpr (by positivity)
    rw [zero, Nat.cast_zero, zero_mul, if_neg within, ENNReal.ofReal_zero]
    exact abs_unpackedValue_zero sign

theorem RoundsTo.isNaN {number : UnpackedFloat} {sign : Sign} {x : ℝ}
    (roundsTo : RoundsTo number sign x) : (saturate number).isNaN = false := by
  obtain ⟨mantissa, exponent, rfl, _, _⟩ := roundsTo
  unfold ofParts
  split_ifs
  · unfold saturate
    dsimp only
    split_ifs <;> rfl
  · rfl

theorem isFinite_iff {x : Float} : x.isFinite = true ↔ x.isNaN = false ∧ magnitude x ≠ ∞ := by
  change x.toModel.unpack.isFinite = true ↔
    x.toModel.unpack.isNaN = false ∧ (unpackedValue x.toModel.unpack).abs ≠ ∞
  cases x.toModel.unpack with
  | infinity s => simp [UnpackedFloat.isFinite]
  | notANumber => simp [UnpackedFloat.isFinite, UnpackedFloat.isNaN]
  | zero s => simp [UnpackedFloat.isFinite, UnpackedFloat.isNaN]
  | finite s m e positive =>
      simp [UnpackedFloat.isFinite, UnpackedFloat.isNaN]

theorem isInf_iff {x : Float} : x.isInf = true ↔ magnitude x = ∞ := by
  change x.toModel.unpack.isInf = true ↔ (unpackedValue x.toModel.unpack).abs = ∞
  cases x.toModel.unpack with
  | infinity s => simp [UnpackedFloat.isInf]
  | notANumber => simp [UnpackedFloat.isInf]
  | zero s => simp [UnpackedFloat.isInf]
  | finite s m e positive => simp [UnpackedFloat.isInf]

theorem magnitude_one : magnitude 1.0 = 1 := by
  have read : (1.0 : Float).toModel.unpack = .finite .positive (2 ^ 52) (-52) (by norm_num) := rfl
  unfold magnitude value
  rw [read, abs_unpackedValue_finite]
  norm_num

/-- Rounding keeps the numbers of the format. -/
@[simp]
theorem rounded_magnitude (x : Float) : rounded (magnitude x) = magnitude x := by
  unfold magnitude value
  cases read : x.toModel.unpack with
  | infinity s => rw [abs_unpackedValue_infinity, rounded_top]
  | notANumber => rw [abs_unpackedValue_notANumber, rounded_zero]
  | zero s => rw [abs_unpackedValue_zero, rounded_zero]
  | finite s m e positive =>
      obtain ⟨small, least, leading, greatest⟩ := unpack_finite read
      have within : ¬overflowBound ≤ (m : ℝ) * 2 ^ e :=
        mt (overflowBound_le_iff small leading).mp (not_lt.mpr greatest)
      rw [abs_unpackedValue_finite, rounded_ofReal (by positivity), nearest_scaled small least,
        if_neg within]

/-! ## Products -/

/-- The product of two canonical significands has enough bits, or the least exponent is below. -/
theorem roundsTo_mul {s t : Sign} {m₁ m₂ : Nat} {e₁ e₂ : Int} {positive₁ : 0 < m₁}
    {positive₂ : 0 < m₂} (canonicalLeft : Canonical (.finite s m₁ e₁ positive₁))
    (canonicalRight : Canonical (.finite t m₂ e₂ positive₂)) :
    RoundsTo (mul .binary64 (.finite s m₁ e₁ positive₁) (.finite t m₂ e₂ positive₂)) (s * t)
      (m₁ * 2 ^ e₁ * (m₂ * 2 ^ e₂)) := by
  obtain ⟨_, _, leadingLeft⟩ := canonicalLeft
  obtain ⟨_, _, leadingRight⟩ := canonicalRight
  have positive : m₁ * m₂ ≠ 0 := (Nat.mul_pos positive₁ positive₂).ne'
  have low : e₁ + e₂ ≤ Format.binary64.targetExponent (totalExponent (m₁ * m₂) (e₁ + e₂)) := by
    rw [targetExponent_eq]
    -- two subnormal numbers have exponents whose sum is far below the least one
    by_cases normal : 2 ^ 52 ≤ m₁ ∨ 2 ^ 52 ≤ m₂
    · have long : 2 ^ 52 ≤ m₁ * m₂ := by
        rcases normal with normal | normal
        · exact normal.trans (Nat.le_mul_of_pos_right m₁ positive₂)
        · exact normal.trans (Nat.le_mul_of_pos_left m₂ positive₁)
      have length := (Nat.le_log2 positive).mpr long
      omega
    · omega
  have product : (m₁ : ℝ) * 2 ^ e₁ * (m₂ * 2 ^ e₂) = (m₁ * m₂ : Nat) * 2 ^ (e₁ + e₂) := by
    rw [zpow_add₀ two_ne_zero]
    push_cast
    ring
  rw [product]
  exact roundsTo_roundWithAccuracy (s * t) (describes_exact (m₁ * m₂)) low

theorem canonical_mul {a b : UnpackedFloat} (canonicalLeft : Canonical a)
    (canonicalRight : Canonical b) : Canonical (mul .binary64 a b) := by
  cases a with
  | finite s m₁ e₁ positive₁ =>
      cases b with
      | finite t m₂ e₂ positive₂ => exact (roundsTo_mul canonicalLeft canonicalRight).canonical
      | _ => trivial
  | _ => cases b <;> trivial

theorem unpack_mul (x y : Float) :
    (x * y).toModel.unpack = saturate (mul .binary64 x.toModel.unpack y.toModel.unpack) :=
  unpack_pack (canonical_mul (canonical_unpack x.toModel) (canonical_unpack y.toModel))

theorem abs_value_mul {a b : UnpackedFloat} (canonicalLeft : Canonical a)
    (canonicalRight : Canonical b) :
    (unpackedValue (saturate (mul .binary64 a b))).abs =
      rounded ((unpackedValue a).abs * (unpackedValue b).abs) := by
  cases a with
  | notANumber =>
      rw [abs_unpackedValue_notANumber, zero_mul, rounded_zero]
      exact abs_unpackedValue_notANumber
  | zero s =>
      rw [abs_unpackedValue_zero, zero_mul, rounded_zero]
      cases b <;> exact EReal.abs_zero
  | infinity s =>
      rw [abs_unpackedValue_infinity]
      cases b with
      | notANumber =>
          rw [abs_unpackedValue_notANumber, mul_zero, rounded_zero]
          exact abs_unpackedValue_notANumber
      | zero t =>
          rw [abs_unpackedValue_zero, mul_zero, rounded_zero]
          exact abs_unpackedValue_notANumber
      | infinity t =>
          rw [abs_unpackedValue_infinity, ENNReal.top_mul_top, rounded_top]
          exact abs_unpackedValue_infinity (s * t)
      | finite t m₂ e₂ positive₂ =>
          rw [ENNReal.top_mul (abs_unpackedValue_finite_pos t e₂ positive₂), rounded_top]
          exact abs_unpackedValue_infinity (s * t)
  | finite s m₁ e₁ positive₁ =>
      cases b with
      | notANumber =>
          rw [abs_unpackedValue_notANumber, mul_zero, rounded_zero]
          exact abs_unpackedValue_notANumber
      | zero t =>
          rw [abs_unpackedValue_zero, mul_zero, rounded_zero]
          exact abs_unpackedValue_zero (s * t)
      | infinity t =>
          rw [abs_unpackedValue_infinity,
            ENNReal.mul_top (abs_unpackedValue_finite_pos s e₁ positive₁), rounded_top]
          exact abs_unpackedValue_infinity (s * t)
      | finite t m₂ e₂ positive₂ =>
          rw [(roundsTo_mul canonicalLeft canonicalRight).abs_value (by positivity),
            abs_unpackedValue_finite, abs_unpackedValue_finite,
            ENNReal.ofReal_mul (by positivity)]

theorem magnitude_mul (x y : Float) : magnitude (x * y) = rounded (magnitude x * magnitude y) := by
  unfold magnitude value
  rw [unpack_mul]
  exact abs_value_mul (canonical_unpack x.toModel) (canonical_unpack y.toModel)

/-! ## Quotients -/

/-- The dividend is shifted until the quotient has enough bits. -/
theorem roundsTo_div {s t : Sign} {m₁ m₂ : Nat} {e₁ e₂ : Int} {positive₁ : 0 < m₁}
    {positive₂ : 0 < m₂} :
    RoundsTo (div .binary64 (.finite s m₁ e₁ positive₁) (.finite t m₂ e₂ positive₂)) (s / t)
      (m₁ * 2 ^ e₁ / (m₂ * 2 ^ e₂)) := by
  set target := min (e₁ - e₂)
    (Format.binary64.targetExponent (totalExponent m₁ e₁ - totalExponent m₂ e₂)) with targetEq
  set count := (e₁ - e₂ - target).toNat with countEq
  have countInt : (count : Int) = e₁ - e₂ - target := by omega
  have low : target ≤
      Format.binary64.targetExponent (totalExponent ((m₁ <<< count) / m₂) target) := by
    rw [targetExponent_eq]
    have least : Format.binary64.minExponent = -1074 := rfl
    have bits : (Format.binary64.mantissaBits : Int) = 53 := rfl
    unfold Format.targetExponent totalExponent at targetEq
    rw [least, bits] at targetEq
    by_cases subnormal : target ≤ -1074
    · exact subnormal.trans (le_max_right _ _)
    · have length : m₂.log2 + 53 ≤ (m₁ <<< count).log2 := by
        rw [log2_shiftLeft positive₁]
        omega
      have quotient : 2 ^ 52 ≤ (m₁ <<< count) / m₂ := by
        rw [Nat.le_div_iff_mul_le positive₂]
        calc 2 ^ 52 * m₂ ≤ 2 ^ 52 * 2 ^ (m₂.log2 + 1) :=
              Nat.mul_le_mul_left _ Nat.lt_log2_self.le
          _ = 2 ^ (m₂.log2 + 53) := by rw [← pow_add]; congr 1; omega
          _ ≤ 2 ^ (m₁ <<< count).log2 := Nat.pow_le_pow_right two_pos length
          _ ≤ m₁ <<< count := Nat.log2_self_le (by rw [Nat.shiftLeft_eq]; positivity)
      have quotientLength := (Nat.le_log2 (by omega)).mpr quotient
      omega
  have value : ((m₁ <<< count : Nat) : ℝ) / m₂ * 2 ^ target = m₁ * 2 ^ e₁ / (m₂ * 2 ^ e₂) := by
    have exponents : e₁ = count + e₂ + target := by omega
    rw [Nat.shiftLeft_eq, exponents, zpow_add₀ two_ne_zero, zpow_add₀ two_ne_zero, zpow_natCast]
    push_cast
    field_simp
  rw [← value]
  exact roundsTo_roundWithAccuracy (s / t) (describes_quotient (m₁ <<< count) positive₂) low

theorem canonical_div {a b : UnpackedFloat} : Canonical (div .binary64 a b) := by
  cases a with
  | finite s m₁ e₁ positive₁ =>
      cases b with
      | finite t m₂ e₂ positive₂ => exact roundsTo_div.canonical
      | _ => trivial
  | _ => cases b <;> trivial

theorem unpack_div (x y : Float) :
    (x / y).toModel.unpack = saturate (div .binary64 x.toModel.unpack y.toModel.unpack) :=
  unpack_pack canonical_div

/-- Only a divisor that is not a number needs to be excluded: `1 / 0` is infinite. -/
theorem abs_value_div (a : UnpackedFloat) {b : UnpackedFloat} (number : b.isNaN = false) :
    (unpackedValue (saturate (div .binary64 a b))).abs =
      rounded ((unpackedValue a).abs / (unpackedValue b).abs) := by
  cases a with
  | notANumber =>
      rw [abs_unpackedValue_notANumber, ENNReal.zero_div, rounded_zero]
      exact abs_unpackedValue_notANumber
  | zero s =>
      rw [abs_unpackedValue_zero, ENNReal.zero_div, rounded_zero]
      cases b <;> exact EReal.abs_zero
  | infinity s =>
      rw [abs_unpackedValue_infinity]
      cases b with
      | notANumber => cases number
      | zero t =>
          rw [abs_unpackedValue_zero, ENNReal.div_zero ENNReal.top_ne_zero, rounded_top]
          exact abs_unpackedValue_infinity (s / t)
      | infinity t =>
          rw [abs_unpackedValue_infinity, ENNReal.div_top, rounded_zero]
          exact abs_unpackedValue_notANumber
      | finite t m₂ e₂ positive₂ =>
          rw [ENNReal.top_div_of_ne_top (abs_unpackedValue_finite_ne_top t e₂ positive₂),
            rounded_top]
          exact abs_unpackedValue_infinity (s / t)
  | finite s m₁ e₁ positive₁ =>
      cases b with
      | notANumber => cases number
      | zero t =>
          rw [abs_unpackedValue_zero,
            ENNReal.div_zero (abs_unpackedValue_finite_pos s e₁ positive₁), rounded_top]
          exact abs_unpackedValue_infinity (s / t)
      | infinity t =>
          rw [abs_unpackedValue_infinity, ENNReal.div_top, rounded_zero]
          exact abs_unpackedValue_zero (s / t)
      | finite t m₂ e₂ positive₂ =>
          rw [roundsTo_div.abs_value (by positivity), abs_unpackedValue_finite,
            abs_unpackedValue_finite, ENNReal.ofReal_div_of_pos (by positivity)]

theorem magnitude_div (x : Float) {y : Float} (number : y.isNaN = false) :
    magnitude (x / y) = rounded (magnitude x / magnitude y) := by
  unfold magnitude value
  rw [unpack_div]
  exact abs_value_div x.toModel.unpack number

/-! ## Absolute values -/

theorem canonical_abs {a : UnpackedFloat} (canonical : Canonical a) : Canonical a.abs := by
  cases a with
  | finite s m e positive => exact canonical
  | _ => trivial

theorem saturate_abs (a : UnpackedFloat) : saturate a.abs = (saturate a).abs := by
  cases a with
  | finite s m e positive =>
      unfold saturate UnpackedFloat.abs
      dsimp only
      split_ifs <;> rfl
  | _ => rfl

@[simp]
theorem unpack_abs (x : Float) : x.abs.toModel.unpack = x.toModel.unpack.abs := by
  rw [← saturate_unpack x.toModel, ← saturate_abs]
  exact unpack_pack (canonical_abs (canonical_unpack x.toModel))

theorem isNaN_abs (x : Float) : x.abs.isNaN = x.isNaN := by
  show x.abs.toModel.unpack.isNaN = x.toModel.unpack.isNaN
  rw [unpack_abs]
  cases x.toModel.unpack <;> rfl

@[simp]
theorem magnitude_abs (x : Float) : magnitude x.abs = magnitude x := by
  unfold magnitude value
  rw [unpack_abs]
  cases x.toModel.unpack with
  | finite s m e positive =>
      rw [abs_unpackedValue_finite]
      exact abs_unpackedValue_finite .positive e positive
  | infinity s => cases s <;> rfl
  | zero s => rfl
  | notANumber => rfl

/-! ## Numbers without a sign -/

/-- NaN, or a number whose sign bit is clear. -/
def Unsigned : UnpackedFloat → Prop
  | .notANumber => True
  | .infinity sign => sign = .positive
  | .zero sign => sign = .positive
  | .finite sign _ _ _ => sign = .positive

theorem unsigned_abs (x : Float) : Unsigned x.abs.toModel.unpack := by
  rw [unpack_abs]
  cases x.toModel.unpack <;> first | rfl | trivial

theorem Unsigned.nonneg {a : UnpackedFloat} (unsigned : Unsigned a) : 0 ≤ unpackedValue a := by
  cases a with
  | notANumber => exact le_refl _
  | zero s => exact le_refl _
  | infinity s =>
      cases unsigned
      exact le_top
  | finite s m e positive =>
      cases unsigned
      exact EReal.coe_nonneg.mpr (signedReal_positive_pos positive e).le

/-- Of the numbers with a sign, only negative zero is not negative. -/
theorem unsigned_or_zero {a : UnpackedFloat} (nonneg : 0 ≤ unpackedValue a) :
    Unsigned a ∨ a = .zero .negative := by
  cases a with
  | notANumber => exact Or.inl trivial
  | zero s => cases s <;> simp [Unsigned]
  | infinity s =>
      cases s with
      | positive => exact Or.inl rfl
      | negative => exact absurd nonneg (not_le.mpr EReal.bot_lt_zero)
  | finite s m e positive =>
      cases s with
      | positive => exact Or.inl rfl
      | negative =>
          have negative := signedReal_negative_neg positive e
          exact absurd (EReal.coe_nonneg.mp nonneg) (not_le.mpr negative)

theorem RoundsTo.unsigned {number : UnpackedFloat} {x : ℝ}
    (roundsTo : RoundsTo number .positive x) : Unsigned (saturate number) := by
  obtain ⟨mantissa, exponent, rfl, _, _⟩ := roundsTo
  unfold ofParts
  split_ifs
  · unfold saturate
    dsimp only
    split_ifs <;> rfl
  · rfl

theorem Unsigned.mul {a b : UnpackedFloat} (canonicalLeft : Canonical a)
    (canonicalRight : Canonical b) (left : Unsigned a) (right : Unsigned b) :
    Unsigned (saturate (mul .binary64 a b)) := by
  cases a with
  | finite s m₁ e₁ positive₁ =>
      cases left
      cases b with
      | finite t m₂ e₂ positive₂ =>
          cases right
          exact (roundsTo_mul canonicalLeft canonicalRight).unsigned
      | notANumber => trivial
      | _ => cases right; rfl
  | notANumber => trivial
  | _ => cases left; cases b <;> first | trivial | (cases right; rfl)

theorem Unsigned.div {a b : UnpackedFloat} (left : Unsigned a) (right : Unsigned b) :
    Unsigned (saturate (div .binary64 a b)) := by
  cases a with
  | finite s m₁ e₁ positive₁ =>
      cases left
      cases b with
      | finite t m₂ e₂ positive₂ =>
          cases right
          exact RoundsTo.unsigned roundsTo_div
      | notANumber => trivial
      | _ => cases right; rfl
  | notANumber => trivial
  | _ => cases left; cases b <;> first | trivial | (cases right; rfl)

theorem unsigned_mul {x y : Float} (left : Unsigned x.toModel.unpack)
    (right : Unsigned y.toModel.unpack) : Unsigned (x * y).toModel.unpack := by
  rw [unpack_mul]
  exact left.mul (canonical_unpack _) (canonical_unpack _) right

theorem value_nonneg_mul {x y : Float} (left : 0 ≤ value x) (right : 0 ≤ value y) :
    0 ≤ value (x * y) := by
  unfold value at *
  rw [unpack_mul]
  rcases unsigned_or_zero left with unsignedLeft | zero
  · rcases unsigned_or_zero right with unsignedRight | zero
    · exact (unsignedLeft.mul (canonical_unpack _) (canonical_unpack _) unsignedRight).nonneg
    · rw [zero]
      cases x.toModel.unpack <;> exact le_refl _
  · rw [zero]
    cases y.toModel.unpack <;> exact le_refl _

theorem value_nonneg_div {x y : Float} (left : 0 ≤ value x) (right : Unsigned y.toModel.unpack) :
    0 ≤ value (x / y) := by
  unfold value at *
  rw [unpack_div]
  rcases unsigned_or_zero left with unsigned | zero
  · exact (unsigned.div right).nonneg
  · rw [zero]
    cases y.toModel.unpack <;> exact le_refl _

/-! ## Results that are not numbers -/

theorem isNaN_saturate_mul {a b : UnpackedFloat} (canonicalLeft : Canonical a)
    (canonicalRight : Canonical b) :
    (saturate (mul .binary64 a b)).isNaN = true ↔ a.isNaN = true ∨ b.isNaN = true ∨
      (unpackedValue a).abs = ∞ ∧ (unpackedValue b).abs = 0 ∨
      (unpackedValue a).abs = 0 ∧ (unpackedValue b).abs = ∞ := by
  cases a with
  | finite s m₁ e₁ positive₁ =>
      cases b with
      | finite t m₂ e₂ positive₂ =>
          rw [(roundsTo_mul canonicalLeft canonicalRight).isNaN]
          simp [-EReal.abs_eq_zero_iff, UnpackedFloat.isNaN]
      | _ =>
          simp [-EReal.abs_eq_zero_iff, mul, saturate, UnpackedFloat.isNaN]
  | _ =>
      cases b <;>
        simp [-EReal.abs_eq_zero_iff, mul, saturate, UnpackedFloat.isNaN]

theorem isNaN_mul (x y : Float) :
    (x * y).isNaN = true ↔ x.isNaN = true ∨ y.isNaN = true ∨
      magnitude x = ∞ ∧ magnitude y = 0 ∨ magnitude x = 0 ∧ magnitude y = ∞ := by
  show (x * y).toModel.unpack.isNaN = true ↔ _
  rw [unpack_mul]
  exact isNaN_saturate_mul (canonical_unpack x.toModel) (canonical_unpack y.toModel)

theorem isNaN_saturate_div (a b : UnpackedFloat) :
    (saturate (div .binary64 a b)).isNaN = true ↔ a.isNaN = true ∨ b.isNaN = true ∨
      (unpackedValue a).abs = ∞ ∧ (unpackedValue b).abs = ∞ ∨
      (unpackedValue a).abs = 0 ∧ (unpackedValue b).abs = 0 := by
  cases a with
  | finite s m₁ e₁ positive₁ =>
      cases b with
      | finite t m₂ e₂ positive₂ =>
          rw [roundsTo_div.isNaN]
          simp [-EReal.abs_eq_zero_iff, UnpackedFloat.isNaN]
      | _ =>
          simp [-EReal.abs_eq_zero_iff, div, saturate, UnpackedFloat.isNaN]
  | _ =>
      cases b <;>
        simp [-EReal.abs_eq_zero_iff, div, saturate, UnpackedFloat.isNaN]

theorem isNaN_div (x y : Float) :
    (x / y).isNaN = true ↔ x.isNaN = true ∨ y.isNaN = true ∨
      magnitude x = ∞ ∧ magnitude y = ∞ ∨ magnitude x = 0 ∧ magnitude y = 0 := by
  show (x / y).toModel.unpack.isNaN = true ↔ _
  rw [unpack_div]
  exact isNaN_saturate_div x.toModel.unpack y.toModel.unpack

/-- The product of two finite numbers is a number. -/
theorem isNaN_mul_of_finite {x y : Float} (left : x.isFinite = true) (right : y.isFinite = true) :
    (x * y).isNaN = false := by
  obtain ⟨leftNumber, leftFinite⟩ := isFinite_iff.mp left
  obtain ⟨rightNumber, rightFinite⟩ := isFinite_iff.mp right
  rw [← Bool.not_eq_true, isNaN_mul, leftNumber, rightNumber]
  simp [leftFinite, rightFinite]

/-- Dividing by a proper number keeps a tolerance defined. -/
theorem isNaN_div_of_proper {x divisor : Float} (finite : divisor.isFinite = true)
    (nonzero : magnitude divisor ≠ 0) : (x / divisor).isNaN = x.isNaN := by
  obtain ⟨number, notInfinite⟩ := isFinite_iff.mp finite
  have iff : (x / divisor).isNaN = true ↔ x.isNaN = true := by
    rw [isNaN_div, number]
    simp [nonzero, notInfinite]
  exact Bool.eq_iff_iff.mpr iff

end CoordinateConformance.Binary64
