import CoordinateConformance.Proofs.Binary64.Difference
import CoordinateConformance.Proofs.Binary64.SignedRounding

/-!
Contract: operations on numbers that have a real value.

Numbers that are neither NaN nor infinite have a real value. A sum, a product or a quotient of
such numbers has the rounded exact value unless it overflows, and so does a natural number that
is converted.

Owns: `HasValue`, `HasValue.add`, `HasValue.mul`, `HasValue.div`, `RoundsTo.hasValue`,
`hasValue_ofNat`.

Does **not** own: infinities, and negative factors.
-/

namespace CoordinateConformance.Binary64

open Float.Model (Format UnpackedFloat totalExponent)
open Float.Model.UnpackedFloat
open scoped ENNReal

/-! ## Rounded values -/

/-- A magnitude with a sign. -/
noncomputable def signed : Sign → ℝ → ℝ
  | .positive, magnitude => magnitude
  | .negative, magnitude => -magnitude

theorem signedReal_eq_signed (sign : Sign) (mantissa : Nat) (exponent : Int) :
    signedReal sign mantissa exponent = signed sign (mantissa * 2 ^ exponent) := by
  cases sign <;> rfl

theorem lt_overflowBound {x : ℝ} (nonneg : 0 ≤ x) (le : x ≤ 2 ^ (1023 : ℤ)) :
    nearest x < overflowBound := by
  refine (nearest_le_two_zpow nonneg (by norm_num) le).trans_lt ?_
  exact zpow_lt_zpow_right₀ (by norm_num) (by norm_num)

theorem RoundsTo.value_eq {number : UnpackedFloat} {sign : Sign} {x : ℝ}
    (roundsTo : RoundsTo number sign x) (within : nearest x < overflowBound) :
    unpackedValue (saturate number) = (signed sign (nearest x) : ℝ) := by
  obtain ⟨mantissa, exponent, rfl, canonical, nearestEq⟩ := roundsTo
  rw [← nearestEq, scaled] at within ⊢
  by_cases positive : 0 < mantissa
  · rw [show ofParts sign mantissa exponent = .finite sign mantissa exponent positive from
      dif_pos positive] at canonical ⊢
    have inRange := mt (overflowBound_le_iff canonical.1 canonical.2.2).mpr (not_le.mpr within)
    unfold saturate
    dsimp only
    rw [if_neg inRange, ← signedReal_eq_signed]
    rfl
  · have zero : mantissa = 0 := by omega
    subst zero
    cases sign <;> simp [ofParts, saturate, unpackedValue, signed]

theorem nearestSigned_signedReal (sign : Sign) {mantissa : Nat} {exponent : Int}
    (small : mantissa < 2 ^ 53) (least : -1074 ≤ exponent) :
    nearestSigned (signedReal sign mantissa exponent) = signedReal sign mantissa exponent := by
  have kept := nearest_scaled small least
  have nonneg : (0 : ℝ) ≤ mantissa * 2 ^ exponent := by positivity
  rcases nonneg.eq_or_lt with zero | positive
  · have zeroSigned : signedReal sign mantissa exponent = 0 := by
      cases sign <;> simp [signedReal_eq_signed, signed, ← zero]
    rw [zeroSigned, nearestSigned_of_nonneg le_rfl, nearest_zero]
  · cases sign with
    | positive => exact (nearestSigned_of_nonneg nonneg).trans kept
    | negative =>
        rw [signedReal_eq_signed, signed, nearestSigned_of_neg (neg_neg_of_pos positive), neg_neg,
          kept]

/-- The sum of two shifted significands is rounded once. -/
theorem unpackedValue_normalize {mantissa exponent : Int}
    (within : nearest |(mantissa : ℝ) * 2 ^ exponent| < overflowBound) :
    unpackedValue (saturate (UnpackedFloat.normalize .binary64 mantissa exponent .positive)) =
      (nearestSigned (mantissa * 2 ^ exponent) : ℝ) := by
  have power : (0 : ℝ) < 2 ^ exponent := by positivity
  unfold UnpackedFloat.normalize
  rcases lt_trichotomy mantissa 0 with less | rfl | greater
  · have negative : (mantissa : ℝ) * 2 ^ exponent < 0 :=
      mul_neg_of_neg_of_pos (by exact_mod_cast less) power
    have rounding := @roundsTo_round .negative (-mantissa).toNat (by omega) exponent
    rw [← Int.cast_natCast, Int.toNat_of_nonneg (by omega), Int.cast_neg, neg_mul] at rounding
    rw [abs_of_neg negative] at within
    rw [compare_lt_iff_lt.mpr less, nearestSigned_of_neg negative]
    exact rounding.value_eq within
  · rw [Int.cast_zero, zero_mul, nearestSigned_of_nonneg le_rfl, nearest_zero]
    rfl
  · have positive : 0 < (mantissa : ℝ) * 2 ^ exponent :=
      mul_pos (by exact_mod_cast greater) power
    have rounding := @roundsTo_round .positive mantissa.toNat (by omega) exponent
    rw [← Int.cast_natCast, Int.toNat_of_nonneg (by omega)] at rounding
    rw [abs_of_pos positive] at within
    rw [compare_gt_iff_gt.mpr greater, nearestSigned_of_nonneg positive.le]
    exact rounding.value_eq within

theorem isNaN_normalize (mantissa exponent : Int) :
    (saturate (UnpackedFloat.normalize .binary64 mantissa exponent .positive)).isNaN = false := by
  obtain ⟨sign, roundsTo⟩ := roundsTo_normalize mantissa exponent
  exact roundsTo.isNaN

/-! ## Comparisons in a row -/

theorem numbers_le_trans {x y z : Float} (left : x ≤ y) (right : y ≤ z) : x ≤ z := by
  obtain ⟨number, _, le⟩ := le_iff.mp left
  obtain ⟨_, numberToo, leToo⟩ := le_iff.mp right
  exact le_iff.mpr ⟨number, numberToo, le.trans leToo⟩

theorem numbers_le_of_beq {x y : Float} (same : (x == y) = true) : x ≤ y := by
  obtain ⟨number, numberToo, equal⟩ := beq_iff.mp same
  exact le_iff.mpr ⟨number, numberToo, equal.le⟩

theorem numbers_beq_trans {x y z : Float} (left : (x == y) = true) (right : (y == z) = true) :
    (x == z) = true := by
  obtain ⟨number, _, same⟩ := beq_iff.mp left
  obtain ⟨_, numberToo, sameToo⟩ := beq_iff.mp right
  exact beq_iff.mpr ⟨number, numberToo, same.trans sameToo⟩

/-! ## Numbers with a real value -/

/-- The number is neither NaN nor infinite, and has the given value. -/
structure HasValue (x : Float) (r : ℝ) : Prop where
  number : x.isNaN = false
  value_eq : value x = r

namespace HasValue

variable {x y : Float} {r s : ℝ}

theorem le_iff (left : HasValue x r) (right : HasValue y s) : x ≤ y ↔ r ≤ s := by
  rw [Binary64.le_iff, left.value_eq, right.value_eq, EReal.coe_le_coe_iff]
  exact ⟨fun ⟨_, _, le⟩ => le, fun le => ⟨left.number, right.number, le⟩⟩

theorem beq_iff (left : HasValue x r) (right : HasValue y s) : (x == y) = true ↔ r = s := by
  rw [Binary64.beq_iff, left.value_eq, right.value_eq, EReal.coe_eq_coe_iff]
  exact ⟨fun ⟨_, _, same⟩ => same, fun same => ⟨left.number, right.number, same⟩⟩

theorem unique (left : HasValue x r) (right : HasValue x s) : r = s :=
  EReal.coe_eq_coe_iff.mp (left.value_eq.symm.trans right.value_eq)

theorem magnitude_eq (has : HasValue x r) : magnitude x = ENNReal.ofReal |r| := by
  unfold magnitude
  rw [has.value_eq, EReal.abs_def]

theorem isFinite (has : HasValue x r) : x.isFinite = true :=
  isFinite_iff.mpr ⟨has.number, has.magnitude_eq ▸ ENNReal.ofReal_ne_top⟩

theorem of_magnitude (number : x.isNaN = false) (nonneg : 0 ≤ value x) (realNonneg : 0 ≤ r)
    (magnitudeEq : magnitude x = ENNReal.ofReal r) : HasValue x r := by
  refine ⟨number, ?_⟩
  rw [← coe_magnitude nonneg, magnitudeEq, EReal.coe_ennreal_ofReal, max_eq_left realNonneg]

/-- A number with a real value is read from its bits as a zero or with a significand. -/
theorem unpack_cases (has : HasValue x r) :
    (∃ sign, x.toModel.unpack = .zero sign ∧ r = 0) ∨
    ∃ sign mantissa exponent positive,
      x.toModel.unpack = .finite sign mantissa exponent positive ∧
        r = signedReal sign mantissa exponent := by
  obtain ⟨number, valueEq⟩ := has
  change x.toModel.unpack.isNaN = false at number
  unfold value at valueEq
  cases read : x.toModel.unpack with
  | notANumber =>
      rw [read] at number
      cases number
  | infinity sign =>
      rw [read] at valueEq
      cases sign
      · exact absurd valueEq (EReal.bot_ne_coe r)
      · exact absurd valueEq (EReal.top_ne_coe r)
  | zero sign =>
      rw [read] at valueEq
      exact Or.inl ⟨sign, rfl, (EReal.coe_eq_zero.mp valueEq.symm)⟩
  | finite sign mantissa exponent positive =>
      rw [read] at valueEq
      exact Or.inr ⟨sign, mantissa, exponent, positive, rfl,
        EReal.coe_eq_coe_iff.mp valueEq.symm⟩

theorem nearestSigned_eq (has : HasValue x r) : nearestSigned r = r := by
  rcases has.unpack_cases with ⟨_, _, rfl⟩ | ⟨sign, mantissa, exponent, positive, read, rfl⟩
  · rw [nearestSigned_of_nonneg le_rfl, nearest_zero]
  · obtain ⟨small, least, _⟩ := unpack_finite read
    exact nearestSigned_signedReal sign small least

end HasValue

theorem hasValue_of_read {x : Float} {sign : Float.Model.UnpackedFloat.Sign} {mantissa : ℕ}
    {exponent : ℤ} {positive : 0 < mantissa}
    (read : x.toModel.unpack = .finite sign mantissa exponent positive) :
    HasValue x (signedReal sign mantissa exponent) := by
  constructor
  · show x.toModel.unpack.isNaN = false
    rw [read]
    rfl
  · show unpackedValue x.toModel.unpack = _
    rw [read]
    rfl

theorem hasValue_zero : HasValue 0.0 0 :=
  ⟨isNaN_zero, value_zero⟩

/-- The number that is written for a rounded magnitude. -/
theorem RoundsTo.hasValue {number : UnpackedFloat} {r : ℝ} (roundsTo : RoundsTo number .positive r)
    (within : nearest r < overflowBound) :
    HasValue (Float.ofModel (Float.Model.pack number)) (nearest r) := by
  have read : (Float.ofModel (Float.Model.pack number)).toModel.unpack = saturate number :=
    unpack_pack roundsTo.canonical
  constructor
  · show (Float.ofModel (Float.Model.pack number)).toModel.unpack.isNaN = false
    rw [read]
    exact roundsTo.isNaN
  · show unpackedValue (Float.ofModel (Float.Model.pack number)).toModel.unpack = _
    rw [read]
    exact roundsTo.value_eq within

/-- Between numbers with a real value there are only such. -/
theorem exists_hasValue_of_between {lower x upper : Float} {r s : ℝ} (left : HasValue lower r)
    (right : HasValue upper s) (above : lower ≤ x) (below : x ≤ upper) :
    ∃ t, HasValue x t ∧ r ≤ t ∧ t ≤ s := by
  obtain ⟨_, number, aboveValue⟩ := le_iff.mp above
  obtain ⟨_, _, belowValue⟩ := le_iff.mp below
  rw [left.value_eq] at aboveValue
  rw [right.value_eq] at belowValue
  have real : ((value x).toReal : EReal) = value x := by
    refine EReal.coe_toReal ?_ ?_
    · exact ne_top_of_le_ne_top (EReal.coe_ne_top s) belowValue
    · exact ne_bot_of_le_ne_bot (EReal.coe_ne_bot r) aboveValue
  rw [← real, EReal.coe_le_coe_iff] at aboveValue belowValue
  exact ⟨(value x).toReal, ⟨number, real.symm⟩, aboveValue, belowValue⟩

namespace HasValue

variable {x y : Float} {r s : ℝ}

/-! ## Products and quotients -/

theorem mul (left : HasValue x r) (right : HasValue y s) (nonneg : 0 ≤ r) (nonneg' : 0 ≤ s)
    (within : nearest (r * s) < overflowBound) : HasValue (x * y) (nearest (r * s)) := by
  refine of_magnitude (isNaN_mul_of_finite left.isFinite right.isFinite)
    (value_nonneg_mul ?_ ?_) (nearest_nonneg _) ?_
  · rw [left.value_eq]
    exact EReal.coe_nonneg.mpr nonneg
  · rw [right.value_eq]
    exact EReal.coe_nonneg.mpr nonneg'
  · rw [magnitude_mul, left.magnitude_eq, right.magnitude_eq, abs_of_nonneg nonneg,
      abs_of_nonneg nonneg', ← ENNReal.ofReal_mul nonneg, rounded_ofReal (by positivity),
      if_neg (not_le.mpr within)]

theorem unsigned_of_pos (has : HasValue x r) (positive : 0 < r) : Unsigned x.toModel.unpack := by
  rcases has.unpack_cases with ⟨_, _, rfl⟩ | ⟨sign, mantissa, exponent, mantissaPositive, read, rfl⟩
  · exact absurd positive (lt_irrefl 0)
  · rw [read]
    cases sign with
    | positive => rfl
    | negative => exact absurd positive (signedReal_negative_neg mantissaPositive exponent).not_gt

theorem div (left : HasValue x r) (right : HasValue y s) (nonneg : 0 ≤ r) (positive : 0 < s)
    (within : nearest (r / s) < overflowBound) : HasValue (x / y) (nearest (r / s)) := by
  have nonzero : magnitude y ≠ 0 := by
    rw [right.magnitude_eq, abs_of_pos positive]
    exact (ENNReal.ofReal_pos.mpr positive).ne'
  refine of_magnitude ((isNaN_div_of_proper right.isFinite nonzero).trans left.number)
    (value_nonneg_div ?_ (right.unsigned_of_pos positive)) (nearest_nonneg _) ?_
  · rw [left.value_eq]
    exact EReal.coe_nonneg.mpr nonneg
  · rw [magnitude_div x right.number, left.magnitude_eq, right.magnitude_eq,
      abs_of_nonneg nonneg, abs_of_pos positive, ← ENNReal.ofReal_div_of_pos positive,
      rounded_ofReal (by positivity), if_neg (not_le.mpr within)]

end HasValue

/-! ## Sums -/

theorem canonical_add {a b : UnpackedFloat} (canonicalLeft : Canonical a)
    (canonicalRight : Canonical b) : Canonical (add .binary64 a b) := by
  cases a with
  | notANumber => trivial
  | infinity s =>
      cases b <;> first | trivial | (unfold add; dsimp only; split_ifs <;> trivial)
  | zero s =>
      cases b with
      | finite t m₂ e₂ positive₂ => exact canonicalRight
      | zero t => unfold add; dsimp only; split_ifs <;> trivial
      | _ => trivial
  | finite s m₁ e₁ positive₁ =>
      cases b with
      | finite t m₂ e₂ positive₂ =>
          obtain ⟨sign, roundsTo⟩ := roundsTo_normalize
            (s.apply (m₁ <<< (e₁ - min e₁ e₂).toNat : Nat) +
              t.apply (m₂ <<< (e₂ - min e₁ e₂).toNat : Nat)) (min e₁ e₂)
          exact roundsTo.canonical
      | zero t => exact canonicalLeft
      | _ => trivial

theorem unpack_add (x y : Float) :
    (x + y).toModel.unpack = saturate (add .binary64 x.toModel.unpack y.toModel.unpack) :=
  unpack_pack (canonical_add (canonical_unpack x.toModel) (canonical_unpack y.toModel))

theorem signedReal_add_eq (s t : Sign) {m₁ m₂ : Nat} {e₁ e₂ : Int} :
    signedReal s m₁ e₁ + signedReal t m₂ e₂ =
      ((s.apply (m₁ <<< (e₁ - min e₁ e₂).toNat : Nat) +
        t.apply (m₂ <<< (e₂ - min e₁ e₂).toNat : Nat) : Int) : ℝ) * 2 ^ min e₁ e₂ := by
  rw [Int.cast_add, add_mul, apply_shiftLeft s m₁ (min_le_left e₁ e₂),
    apply_shiftLeft t m₂ (min_le_right e₁ e₂)]

/-- A sum with zero is the other number, and others are normalized. -/
theorem HasValue.add {x y : Float} {r s : ℝ} (left : HasValue x r) (right : HasValue y s)
    (within : nearest |r + s| < overflowBound) : HasValue (x + y) (nearestSigned (r + s)) := by
  have sum := unpack_add x y
  rcases left.unpack_cases with ⟨sign, read, rfl⟩ | ⟨sign, m₁, e₁, positive₁, read, leftEq⟩
  · have same : unpackedValue (x + y).toModel.unpack = unpackedValue y.toModel.unpack ∧
        (x + y).toModel.unpack.isNaN = false := by
      rcases right.unpack_cases with ⟨sign', read', _⟩ | ⟨sign', m₂, e₂, positive₂, read', _⟩
      · rw [sum, read, read']
        cases sign <;> cases sign' <;> exact ⟨rfl, rfl⟩
      · have other : (x + y).toModel.unpack = y.toModel.unpack := by
          calc (x + y).toModel.unpack = saturate y.toModel.unpack := by
                rw [sum, read, read']
                rfl
            _ = y.toModel.unpack := saturate_unpack y.toModel
        rw [other]
        exact ⟨rfl, right.number⟩
    rw [zero_add, right.nearestSigned_eq]
    exact ⟨same.2, same.1.trans right.value_eq⟩
  · rcases right.unpack_cases with ⟨sign', read', rfl⟩ | ⟨sign', m₂, e₂, positive₂, read', rightEq⟩
    · have other : (x + y).toModel.unpack = x.toModel.unpack := by
        calc (x + y).toModel.unpack = saturate x.toModel.unpack := by
              rw [sum, read, read']
              rfl
          _ = x.toModel.unpack := saturate_unpack x.toModel
      rw [add_zero, left.nearestSigned_eq]
      exact ⟨(congrArg UnpackedFloat.isNaN other).trans left.number,
        (congrArg unpackedValue other).trans left.value_eq⟩
    · rw [leftEq, rightEq, signedReal_add_eq] at within ⊢
      rw [read, read'] at sum
      constructor
      · show (x + y).toModel.unpack.isNaN = false
        rw [sum]
        exact isNaN_normalize _ _
      · show unpackedValue (x + y).toModel.unpack = _
        rw [sum]
        exact unpackedValue_normalize within

/-! ## Natural numbers -/

theorem nearest_natCast {n : ℕ} (small : n < 2 ^ 53) : nearest n = n := by
  simpa using @nearest_scaled n 0 small (by norm_num)

theorem nearest_natCast_within {n : ℕ} (inRange : n < 2 ^ 64) : nearest n < overflowBound := by
  refine lt_overflowBound (Nat.cast_nonneg n) ?_
  calc (n : ℝ) ≤ 2 ^ 64 := by exact_mod_cast inRange.le
    _ ≤ 2 ^ (1023 : ℤ) := by
      rw [← zpow_natCast]
      exact zpow_le_zpow_right₀ (by norm_num) (by norm_num)

theorem hasValue_toFloat (n : UInt64) : HasValue n.toFloat (nearest n.toNat) := by
  have unscaled : (((n.toNat : Int) : ℝ) * 2 ^ (0 : ℤ)) = n.toNat := by simp
  obtain ⟨sign, roundsTo⟩ := roundsTo_normalize n.toNat 0
  have read : n.toFloat.toModel.unpack =
      saturate (UnpackedFloat.normalize .binary64 n.toNat 0 .positive) :=
    unpack_pack roundsTo.canonical
  have within := nearest_natCast_within n.toNat_lt
  constructor
  · show n.toFloat.toModel.unpack.isNaN = false
    rw [read]
    exact isNaN_normalize _ _
  · show unpackedValue n.toFloat.toModel.unpack = _
    rw [read, unpackedValue_normalize, unscaled, nearestSigned_of_nonneg (Nat.cast_nonneg _)]
    rwa [unscaled, abs_of_nonneg (Nat.cast_nonneg _)]

theorem hasValue_one : HasValue 1.0 1 :=
  .of_magnitude rfl (value_nonneg_of_le (by decide)) zero_le_one
    (by rw [magnitude_one, ENNReal.ofReal_one])

theorem hasValue_coefficient {n : ℕ} (small : n < 2 ^ 53) : HasValue n.toUInt64.toFloat n := by
  have converted := hasValue_toFloat n.toUInt64
  rwa [Nat.toUInt64_eq, UInt64.toNat_ofNat_of_lt' (small.trans (by decide)),
    nearest_natCast small] at converted

/-- A product of a coefficient and a power is exact before it is rounded. -/
theorem roundsTo_scaledUp {n : ℕ} (positive : 0 < n) {exponent : ℕ} (high : exponent ≤ 2048) :
    RoundsTo (UnpackedFloat.ofScientific .binary64 n exponent) .positive (n * 10 ^ exponent) := by
  have parts : UnpackedFloat.ofScientific .binary64 n exponent =
      roundWithAccuracy .binary64 .positive (n <<< 53 * 10 ^ exponent) (-53 + 0) .exact := by
    unfold UnpackedFloat.ofScientific
    have bits : (2 : Int) ^ Format.binary64.exponentBits = 2048 := rfl
    rw [dif_neg positive.ne', if_neg (by rw [bits]; omega), if_neg (by rw [bits]; omega),
      if_pos (by omega)]
    rfl
  have length : 53 ≤ (n <<< 53 * 10 ^ exponent).log2 := by
    rw [Nat.le_log2 (by rw [Nat.shiftLeft_eq]; positivity), Nat.shiftLeft_eq]
    calc 2 ^ 53 ≤ n * 2 ^ 53 := Nat.le_mul_of_pos_left _ positive
      _ ≤ n * 2 ^ 53 * 10 ^ exponent := Nat.le_mul_of_pos_right _ (by positivity)
  have low : -53 ≤ Format.binary64.targetExponent
      (totalExponent (n <<< 53 * 10 ^ exponent) (-53)) := by
    rw [targetExponent_eq]
    omega
  have unshifted : ((n <<< 53 * 10 ^ exponent : ℕ) : ℝ) * 2 ^ (-53 : ℤ) = n * 10 ^ exponent := by
    rw [Nat.shiftLeft_eq, zpow_neg]
    push_cast
    field_simp
    norm_num
  rw [parts, add_zero]
  exact unshifted ▸ roundsTo_roundWithAccuracy .positive (describes_exact _) low

/-- A natural number of 64 bits is rounded to the nearest number. -/
theorem hasValue_ofNat {n : ℕ} (inRange : n < 2 ^ 64) : HasValue (Float.ofNat n) (nearest n) := by
  have within := nearest_natCast_within inRange
  show HasValue (Float.ofScientific n false 0) _
  unfold Float.ofScientific
  by_cases small : n < 2 ^ 53
  · -- numbers of 53 bits are converted as they are, and multiplied by the zeroth power of ten
    rw [dif_pos ⟨small, by norm_num⟩]
    have product := (hasValue_coefficient small).mul hasValue_one (Nat.cast_nonneg n) zero_le_one
      (by rwa [mul_one])
    rw [mul_one] at product
    exact product
  · rw [dif_neg (fun both => small both.1)]
    have roundsTo := roundsTo_scaledUp (by omega : 0 < n) (Nat.zero_le 2048)
    rw [pow_zero, mul_one] at roundsTo
    exact roundsTo.hasValue within

end CoordinateConformance.Binary64
