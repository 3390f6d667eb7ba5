import CoordinateConformance.Proofs.Binary64.Bounds

/-!
Contract: operations that give an operand back, with every bit.

A number is determined by what is read from its bits, and there is only one NaN. So operations with
zero and one have exact laws, NaN and infinities included. The laws of a field fail where a result
is zero: its sign need not be that of the operand, and the two are only alike.

The distance of two numbers is the same in both orders: the exact difference only changes its sign,
and the sign plays no part in rounding.

Owns: `eq_of_unpack_eq`, `Alike`, `times_one`, `minus_zero`, `plus_zero`, `zero_minus`,
`abs_minus_exchange`.

Does **not** own: how a number is rounded.
-/

namespace CoordinateConformance.Binary64

open Float.Model (UnpackedFloat Format)
open Float.Model.UnpackedFloat

/-! ## Numbers and their bits -/

theorem eq_of_unpack_eq {x y : Float} (same : x.toModel.unpack = y.toModel.unpack) : x = y := by
  apply Float.toBits_inj.mp
  apply UInt64.eq_of_toBitVec_eq
  show x.toModel.toBits.toBitVec = y.toModel.toBits.toBitVec
  rw [← pack_unpack_of_valid x.toModel.valid, ← pack_unpack_of_valid y.toModel.valid]
  exact congrArg (UnpackedFloat.pack .binary64) same

theorem eq_of_unpack_eq_saturate {x y : Float}
    (read : x.toModel.unpack = saturate y.toModel.unpack) : x = y :=
  eq_of_unpack_eq (read.trans (saturate_unpack y.toModel))

/-- There is only one NaN. -/
theorem eq_of_isNaN {x y : Float} (left : x.isNaN = true) (right : y.isNaN = true) : x = y := by
  rw [Float.isNaN_eq_decide_eq_nan, decide_eq_true_eq] at left right
  exact left.trans right.symm

theorem eq_of_not_isFinite {x : Float} (notFinite : x.isFinite = false) :
    x = Float.nan ∨ x = Float.inf ∨ x = -Float.inf := by
  change x.toModel.unpack.isFinite = false at notFinite
  cases read : x.toModel.unpack with
  | notANumber => exact Or.inl (eq_of_unpack_eq read)
  | infinity sign =>
      cases sign with
      | positive => exact Or.inr (Or.inl (eq_of_unpack_eq read))
      | negative => exact Or.inr (Or.inr (eq_of_unpack_eq read))
  | _ => simp [read, UnpackedFloat.isFinite] at notFinite

/-! ## Numbers that are alike -/

/-- The same number, NaN included, up to the sign of a zero. -/
def Alike (x y : Float) : Prop :=
  x = y ∨ x = 0.0 ∧ y = -0.0 ∨ x = -0.0 ∧ y = 0.0

namespace Alike

variable {x y : Float}

theorem refl (x : Float) : Alike x x :=
  Or.inl rfl

theorem symm (alike : Alike x y) : Alike y x := by
  rcases alike with rfl | ⟨rfl, rfl⟩ | ⟨rfl, rfl⟩
  · exact refl x
  · exact Or.inr (Or.inr ⟨rfl, rfl⟩)
  · exact Or.inr (Or.inl ⟨rfl, rfl⟩)

/-- What does not tell the zeros apart has one result for numbers that are alike. -/
theorem congr {β : Type} {f : Float → β} (alike : Alike x y) (zeros : f 0.0 = f (-0.0)) :
    f x = f y := by
  rcases alike with rfl | ⟨rfl, rfl⟩ | ⟨rfl, rfl⟩
  · rfl
  · exact zeros
  · exact zeros.symm

theorem map {f : Float → Float} (alike : Alike x y) (zeros : Alike (f 0.0) (f (-0.0))) :
    Alike (f x) (f y) := by
  rcases alike with rfl | ⟨rfl, rfl⟩ | ⟨rfl, rfl⟩
  · exact refl (f x)
  · exact zeros
  · exact zeros.symm

theorem isFinite (alike : Alike x y) : x.isFinite = y.isFinite :=
  alike.congr (by decide)

theorem of_zeros {s t : Sign} (left : x.toModel.unpack = .zero s)
    (right : y.toModel.unpack = .zero t) : Alike x y := by
  cases s with
  | positive =>
      cases t with
      | positive => exact Or.inl (eq_of_unpack_eq (left.trans right.symm))
      | negative => exact Or.inr (Or.inl ⟨eq_of_unpack_eq left, eq_of_unpack_eq right⟩)
  | negative =>
      cases t with
      | positive => exact Or.inr (Or.inr ⟨eq_of_unpack_eq left, eq_of_unpack_eq right⟩)
      | negative => exact Or.inl (eq_of_unpack_eq (left.trans right.symm))

theorem of_beq (same : (x == y) = true) : Alike x y := by
  obtain ⟨_, _, equal⟩ := Float.beq_iff_ne_nan_and_eq.mp same
  exact equal

theorem beq (alike : Alike x y) (number : x.isNaN = false) : (x == y) = true := by
  rcases alike with rfl | ⟨rfl, rfl⟩ | ⟨rfl, rfl⟩
  · exact beq_iff.mpr ⟨number, number, rfl⟩
  · decide
  · decide

theorem zeros_times (factor : Float) : Alike (0.0 * factor) (-0.0 * factor) := by
  have left := unpack_mul 0.0 factor
  have right := unpack_mul (-0.0) factor
  cases read : factor.toModel.unpack with
  | zero sign =>
      rw [read] at left right
      exact of_zeros left right
  | finite sign mantissa exponent positive =>
      rw [read] at left right
      exact of_zeros left right
  | _ =>
      rw [read] at left right
      exact Or.inl (eq_of_unpack_eq (left.trans right.symm))

theorem zeros_over (divisor : Float) : Alike (0.0 / divisor) (-0.0 / divisor) := by
  have left := unpack_div 0.0 divisor
  have right := unpack_div (-0.0) divisor
  cases read : divisor.toModel.unpack with
  | infinity sign =>
      rw [read] at left right
      exact of_zeros left right
  | finite sign mantissa exponent positive =>
      rw [read] at left right
      exact of_zeros left right
  | _ =>
      rw [read] at left right
      exact Or.inl (eq_of_unpack_eq (left.trans right.symm))

theorem mul (factor : Float) (alike : Alike x y) : Alike (x * factor) (y * factor) :=
  alike.map (f := (· * factor)) (zeros_times factor)

theorem div (divisor : Float) (alike : Alike x y) : Alike (x / divisor) (y / divisor) :=
  alike.map (f := (· / divisor)) (zeros_over divisor)

end Alike

/-! ## One -/

/-- The exact product is a number of the format. -/
theorem hasValue_times_one {x : Float} {sign : Sign} {mantissa : ℕ} {exponent : ℤ}
    {positive : 0 < mantissa}
    (read : x.toModel.unpack = .finite sign mantissa exponent positive) :
    HasValue (x * 1.0) (signedReal sign mantissa exponent) := by
  have one : (1.0 : Float).toModel.unpack = .finite .positive (2 ^ 52) (-52) (by norm_num) := rfl
  have canonical := canonical_unpack x.toModel
  have canonicalOne := canonical_unpack (1.0 : Float).toModel
  have product := unpack_mul x 1.0
  rw [read, one] at product
  rw [read] at canonical
  rw [one] at canonicalOne
  obtain ⟨small, least, leading, greatest⟩ := unpack_finite read
  have rounding := roundsTo_mul canonical canonicalOne
  have unchanged : (mantissa : ℝ) * 2 ^ exponent * ((2 ^ 52 : ℕ) * 2 ^ (-52 : ℤ)) =
      mantissa * 2 ^ exponent := by norm_num
  rw [unchanged] at rounding
  have kept := nearest_scaled small least
  have within : nearest (mantissa * 2 ^ exponent) < overflowBound := by
    rw [kept]
    exact lt_of_not_ge (mt (overflowBound_le_iff small leading).mp (not_lt.mpr greatest))
  constructor
  · show (x * 1.0).toModel.unpack.isNaN = false
    rw [product]
    exact rounding.isNaN
  · show unpackedValue (x * 1.0).toModel.unpack = _
    rw [product, rounding.value_eq within, kept, signedReal_eq_signed]
    cases sign <;> rfl

theorem times_one (x : Float) : x * 1.0 = x := by
  have product := unpack_mul x 1.0
  cases read : x.toModel.unpack with
  | finite sign mantissa exponent positive =>
      have same : (x * 1.0 == x) = true :=
        ((hasValue_times_one read).beq_iff (hasValue_of_read read)).mpr rfl
      rcases Alike.of_beq same with equal | ⟨_, rfl⟩ | ⟨_, rfl⟩
      · exact equal
      · cases read
      · cases read
  | notANumber =>
      rw [read] at product
      exact eq_of_unpack_eq (product.trans read.symm)
  | infinity sign =>
      rw [read] at product
      cases sign <;> exact eq_of_unpack_eq (product.trans read.symm)
  | zero sign =>
      rw [read] at product
      cases sign <;> exact eq_of_unpack_eq (product.trans read.symm)

/-! ## Zero -/

section Zero

variable (x : Float)

theorem minus_zero : x - 0.0 = x := by
  have difference := unpack_sub x 0.0
  apply eq_of_unpack_eq_saturate
  rw [difference]
  cases x.toModel.unpack with
  | zero sign => cases sign <;> rfl
  | _ => rfl

theorem plus_zero : Alike (x + 0.0) x := by
  have sum := unpack_add x 0.0
  cases read : x.toModel.unpack with
  | zero sign =>
      rw [read] at sum
      cases sign <;> exact .of_zeros sum read
  | _ =>
      rw [read] at sum
      exact Or.inl (eq_of_unpack_eq_saturate (sum.trans (congrArg saturate read.symm)))

theorem zero_plus : Alike (0.0 + x) x := by
  have sum := unpack_add 0.0 x
  cases read : x.toModel.unpack with
  | zero sign =>
      rw [read] at sum
      cases sign <;> exact .of_zeros sum read
  | _ =>
      rw [read] at sum
      exact Or.inl (eq_of_unpack_eq_saturate (sum.trans (congrArg saturate read.symm)))

theorem zero_minus : Alike (0.0 - x) (-x) := by
  have difference : 0.0 - x = .ofModel (.pack (sub .binary64 (.zero .positive) x.toModel.unpack)) :=
    rfl
  have negated : -x = .ofModel (.pack x.toModel.unpack.neg) := rfl
  rw [difference, negated]
  cases x.toModel.unpack with
  | zero sign => cases sign <;> exact .of_zeros rfl rfl
  | _ => exact .refl _

variable {x}

theorem zero_times (finite : x.isFinite = true) : Alike (0.0 * x) 0.0 := by
  have product := unpack_mul 0.0 x
  change x.toModel.unpack.isFinite = true at finite
  cases read : x.toModel.unpack with
  | zero sign =>
      rw [read] at product
      exact .of_zeros product rfl
  | finite sign mantissa exponent positive =>
      rw [read] at product
      exact .of_zeros product rfl
  | _ => simp [read, UnpackedFloat.isFinite] at finite

end Zero

/-! ## Exchanged operands -/

/-- The sign plays no part in rounding. -/
theorem abs_round_eq (format : Format) (first second : Sign) (mantissa : Nat) (exponent : Int) :
    (UnpackedFloat.round format first mantissa exponent).abs =
      (UnpackedFloat.round format second mantissa exponent).abs := by
  unfold UnpackedFloat.round roundWithAccuracy
  dsimp only
  split_ifs <;> rfl

theorem abs_normalize_neg (format : Format) (mantissa exponent : Int) :
    (UnpackedFloat.normalize format (-mantissa) exponent .positive).abs =
      (UnpackedFloat.normalize format mantissa exponent .positive).abs := by
  unfold UnpackedFloat.normalize
  rcases lt_trichotomy mantissa 0 with less | rfl | greater
  · have negated : 0 < -mantissa := Int.neg_pos_of_neg less
    rw [compare_lt_iff_lt.mpr less, compare_gt_iff_gt.mpr negated]
    exact abs_round_eq format .positive .negative _ exponent
  · rfl
  · have negated : -mantissa < 0 := Int.neg_neg_of_pos greater
    rw [compare_gt_iff_gt.mpr greater, compare_lt_iff_lt.mpr negated, neg_neg]
    exact abs_round_eq format .negative .positive _ exponent

theorem abs_sub_exchange (format : Format) (a b : UnpackedFloat) :
    (sub format a b).abs = (sub format b a).abs := by
  cases a with
  | notANumber => cases b <;> rfl
  | infinity s =>
      cases b with
      | infinity t => cases s <;> cases t <;> rfl
      | _ => rfl
  | zero s =>
      cases b with
      | zero t => cases s <;> cases t <;> rfl
      | _ => rfl
  | finite s m₁ e₁ positive₁ =>
      cases b with
      | finite t m₂ e₂ positive₂ =>
          unfold sub
          dsimp only
          rw [min_comm e₂ e₁, ← neg_sub]
          exact abs_normalize_neg format _ _
      | _ => rfl

/-- The distance of two numbers does not depend on their order. It is NaN in both orders, infinite
in both, or the same number. -/
theorem abs_minus_exchange (x y : Float) : (x - y).abs = (y - x).abs := by
  apply eq_of_unpack_eq
  rw [unpack_abs, unpack_abs, unpack_sub, unpack_sub, ← saturate_abs, ← saturate_abs,
    abs_sub_exchange]

end CoordinateConformance.Binary64
