import CoordinateConformance.Proofs.Binary64.Encoding
import CoordinateConformance.Proofs.Binary64.Rounding

/-!
Contract: the exact value of a number, and its order.

`value` is an extended real number; NaN has the value zero, since an undefined tolerance lets
no more pass than the tolerance zero does. On other numbers the three comparisons of `Float`
are those of the values.

Owns: `le_iff`, `lt_iff`, `beq_iff`, `magnitude_le_of_le`.

Does **not** own: the values of sums and products.
-/

namespace CoordinateConformance.Binary64

open Float.Model (UnpackedFloat)
open Float.Model.UnpackedFloat (Sign)
open scoped ENNReal

noncomputable section

/-- The value of a sign, a mantissa and an exponent. -/
def signedReal : Sign → Nat → Int → ℝ
  | .positive, mantissa, exponent => scaled mantissa exponent
  | .negative, mantissa, exponent => -scaled mantissa exponent

theorem signedReal_positive_pos {mantissa : Nat} (positive : 0 < mantissa) (exponent : Int) :
    0 < signedReal .positive mantissa exponent := by
  unfold signedReal scaled
  positivity

theorem signedReal_negative_neg {mantissa : Nat} (positive : 0 < mantissa) (exponent : Int) :
    signedReal .negative mantissa exponent < 0 := by
  unfold signedReal scaled
  rw [neg_lt_zero]
  positivity

theorem abs_signedReal (sign : Sign) (mantissa : Nat) (exponent : Int) :
    |signedReal sign mantissa exponent| = mantissa * 2 ^ exponent := by
  have nonneg : (0 : ℝ) ≤ mantissa * 2 ^ exponent := by positivity
  cases sign <;> simp only [signedReal, scaled, abs_neg, abs_of_nonneg nonneg]

/-- The value of an unpacked number. -/
def unpackedValue : UnpackedFloat → EReal
  | .notANumber => 0
  | .infinity .positive => ⊤
  | .infinity .negative => ⊥
  | .zero _ => 0
  | .finite sign mantissa exponent _ => (signedReal sign mantissa exponent : EReal)

/-- The value of a number. -/
def value (x : Float) : EReal :=
  unpackedValue x.toModel.unpack

/-- The absolute value of a number. -/
def magnitude (x : Float) : ℝ≥0∞ :=
  (value x).abs

/-! ## Comparison of canonical numbers -/

/-- A canonical number with the greater exponent is the greater one. -/
theorem mantissa_mul_lt_of_exponent_lt {m₁ m₂ : Nat} {e₁ e₂ : Int} (small : m₁ < 2 ^ 53)
    (leading : 2 ^ 52 ≤ m₂) (less : e₁ < e₂) : (m₁ : ℝ) * 2 ^ e₁ < m₂ * 2 ^ e₂ := by
  calc (m₁ : ℝ) * 2 ^ e₁ < 2 ^ 53 * 2 ^ e₁ := by
        gcongr
        exact_mod_cast small
    _ = 2 ^ 52 * 2 ^ (e₁ + 1) := by
        rw [zpow_add₀ two_ne_zero]
        ring
    _ ≤ m₂ * 2 ^ e₂ := by
        gcongr
        · exact_mod_cast leading
        · norm_num
        · omega

/-- Comparing exponents first and mantissas second compares the magnitudes. -/
theorem compare_lexicographic {m₁ m₂ : Nat} {e₁ e₂ : Int}
    (first : m₁ < 2 ^ 53 ∧ -1074 ≤ e₁ ∧ (2 ^ 52 ≤ m₁ ∨ e₁ = -1074))
    (second : m₂ < 2 ^ 53 ∧ -1074 ≤ e₂ ∧ (2 ^ 52 ≤ m₂ ∨ e₂ = -1074)) :
    ((compare e₁ e₂).then (compare m₁ m₂)).Compares ((m₁ : ℝ) * 2 ^ e₁) (m₂ * 2 ^ e₂) := by
  rcases lt_trichotomy e₁ e₂ with less | rfl | greater
  · rw [compare_lt_iff_lt.mpr less]
    exact mantissa_mul_lt_of_exponent_lt first.1 (second.2.2.resolve_right (by omega)) less
  · rw [compare_eq_iff_eq.mpr rfl]
    show (compare m₁ m₂).Compares _ _
    have power : (0 : ℝ) < 2 ^ e₁ := by positivity
    rcases lt_trichotomy m₁ m₂ with less | rfl | greater
    · rw [compare_lt_iff_lt.mpr less]
      exact mul_lt_mul_of_pos_right (by exact_mod_cast less) power
    · rw [compare_eq_iff_eq.mpr rfl]
      rfl
    · rw [compare_gt_iff_gt.mpr greater]
      exact mul_lt_mul_of_pos_right (by exact_mod_cast greater) power
  · rw [compare_gt_iff_gt.mpr greater]
    exact mantissa_mul_lt_of_exponent_lt second.1 (first.2.2.resolve_right (by omega)) greater

theorem compares_signedReal {s t : Sign} {m₁ m₂ : Nat} {e₁ e₂ : Int} {positive₁ : 0 < m₁}
    {positive₂ : 0 < m₂} (canonicalLeft : Canonical (.finite s m₁ e₁ positive₁))
    (canonicalRight : Canonical (.finite t m₂ e₂ positive₂)) :
    ∃ ordering, (UnpackedFloat.finite s m₁ e₁ positive₁).compare
        (.finite t m₂ e₂ positive₂) = some ordering ∧
      ordering.Compares (signedReal s m₁ e₁) (signedReal t m₂ e₂) := by
  cases s with
  | negative =>
      cases t with
      | negative =>
          -- the sign turns the order of the magnitudes around
          refine ⟨_, rfl, Ordering.compares_swap.mpr ?_⟩
          have compared := compare_lexicographic canonicalLeft canonicalRight
          generalize (compare e₁ e₂).then (compare m₁ m₂) = ordering at compared
          cases ordering <;> simpa [signedReal, scaled, eq_comm] using compared
      | positive =>
          exact ⟨_, rfl, (signedReal_negative_neg positive₁ e₁).trans
            (signedReal_positive_pos positive₂ e₂)⟩
  | positive =>
      cases t with
      | negative =>
          exact ⟨_, rfl, (signedReal_negative_neg positive₂ e₂).trans
            (signedReal_positive_pos positive₁ e₁)⟩
      | positive => exact ⟨_, rfl, compare_lexicographic canonicalLeft canonicalRight⟩

/-- The comparison of two canonical numbers is that of their values. -/
theorem compare_compares {a b : UnpackedFloat} (canonicalLeft : Canonical a)
    (canonicalRight : Canonical b) (left : a.isNaN = false) (right : b.isNaN = false) :
    ∃ ordering, a.compare b = some ordering ∧
      ordering.Compares (unpackedValue a) (unpackedValue b) := by
  cases a with
  | notANumber => cases left
  | infinity s =>
      cases b with
      | notANumber => cases right
      | infinity t => cases s <;> cases t <;> exact ⟨_, rfl, by simp [unpackedValue, compare]⟩
      | zero t => cases s <;> exact ⟨_, rfl, by simp [unpackedValue]⟩
      | finite t m e positive => cases s <;> exact ⟨_, rfl, by simp [unpackedValue]⟩
  | zero s =>
      cases b with
      | notANumber => cases right
      | infinity t => cases t <;> exact ⟨_, rfl, by simp [unpackedValue]⟩
      | zero t => exact ⟨_, rfl, rfl⟩
      | finite t m e positive =>
          cases t with
          | negative => exact ⟨_, rfl, EReal.coe_lt_coe (signedReal_negative_neg positive e)⟩
          | positive => exact ⟨_, rfl, EReal.coe_lt_coe (signedReal_positive_pos positive e)⟩
  | finite s m e positive =>
      cases b with
      | notANumber => cases right
      | infinity t => cases t <;> exact ⟨_, rfl, by simp [unpackedValue]⟩
      | zero t =>
          cases s with
          | negative => exact ⟨_, rfl, EReal.coe_lt_coe (signedReal_negative_neg positive e)⟩
          | positive => exact ⟨_, rfl, EReal.coe_lt_coe (signedReal_positive_pos positive e)⟩
      | finite t m' e' positive' =>
          obtain ⟨ordering, result, compared⟩ := compares_signedReal canonicalLeft canonicalRight
          refine ⟨ordering, result, ?_⟩
          cases ordering <;> simpa [unpackedValue] using compared

/-! ## Comparison of numbers -/

theorem compare_eq_none_of_isNaN {a b : UnpackedFloat} (nan : a.isNaN = true ∨ b.isNaN = true) :
    a.compare b = none := by
  cases a with
  | notANumber => cases b <;> rfl
  | _ =>
      cases b with
      | notANumber => simp [UnpackedFloat.compare]
      | _ => simp [Float.Model.UnpackedFloat.isNaN] at nan

/-- Both operands are numbers, or the comparison has no answer. -/
theorem compare_cases (x y : Float) :
    ((x.isNaN = true ∨ y.isNaN = true) ∧ x.toModel.unpack.compare y.toModel.unpack = none) ∨
    (x.isNaN = false ∧ y.isNaN = false ∧ ∃ ordering,
      x.toModel.unpack.compare y.toModel.unpack = some ordering ∧
        ordering.Compares (value x) (value y)) := by
  by_cases nan : x.isNaN = true ∨ y.isNaN = true
  · exact Or.inl ⟨nan, compare_eq_none_of_isNaN nan⟩
  · rw [not_or, Bool.not_eq_true, Bool.not_eq_true] at nan
    exact Or.inr ⟨nan.1, nan.2, compare_compares (canonical_unpack _) (canonical_unpack _)
      nan.1 nan.2⟩

theorem not_numbers {x y : Float} {related : Prop} (nan : x.isNaN = true ∨ y.isNaN = true) :
    ¬(x.isNaN = false ∧ y.isNaN = false ∧ related) := by
  rintro ⟨left, right, _⟩
  rw [left, right] at nan
  exact nan.elim Bool.false_ne_true Bool.false_ne_true

theorem le_iff {x y : Float} :
    x ≤ y ↔ x.isNaN = false ∧ y.isNaN = false ∧ value x ≤ value y := by
  have unfolded : x ≤ y ↔ (x.toModel.unpack.compare y.toModel.unpack).any (·.isLE) = true :=
    decide_eq_true_iff
  rw [unfolded]
  rcases compare_cases x y with ⟨nan, none⟩ | ⟨left, right, ordering, some, compared⟩
  · rw [none]
    exact iff_of_false (by simp) (not_numbers nan)
  · rw [some, left, right, ← compared.ne_gt]
    cases ordering <;> simp

theorem lt_iff {x y : Float} :
    x < y ↔ x.isNaN = false ∧ y.isNaN = false ∧ value x < value y := by
  have unfolded : x < y ↔ (x.toModel.unpack.compare y.toModel.unpack == some .lt) = true :=
    decide_eq_true_iff
  rw [unfolded]
  rcases compare_cases x y with ⟨nan, none⟩ | ⟨left, right, ordering, some, compared⟩
  · rw [none]
    exact iff_of_false (by simp) (not_numbers nan)
  · rw [some, left, right, ← compared.eq_lt]
    cases ordering <;> simp

theorem beq_iff {x y : Float} :
    (x == y) = true ↔ x.isNaN = false ∧ y.isNaN = false ∧ value x = value y := by
  show (x.toModel.unpack.compare y.toModel.unpack == some .eq) = true ↔ _
  rcases compare_cases x y with ⟨nan, none⟩ | ⟨left, right, ordering, some, compared⟩
  · rw [none]
    exact iff_of_false (by simp) (not_numbers nan)
  · rw [some, left, right, ← compared.eq_eq]
    cases ordering <;> simp

theorem value_of_isNaN {x : Float} (nan : x.isNaN = true) : value x = 0 := by
  change x.toModel.unpack.isNaN = true at nan
  unfold value
  cases read : x.toModel.unpack <;> rw [read] at nan <;> first | rfl | cases nan

/-! ## Non-negative numbers -/

@[simp]
theorem isNaN_zero : (0.0 : Float).isNaN = false := rfl

@[simp]
theorem value_zero : value 0.0 = 0 := by
  have zero : (0.0 : Float).toModel.unpack = .zero .positive := rfl
  unfold value
  rw [zero]
  rfl

/-- A value that is not negative is its own magnitude. -/
theorem coe_magnitude {x : Float} (nonneg : 0 ≤ value x) : (magnitude x : EReal) = value x := by
  unfold magnitude
  generalize value x = exact at nonneg
  induction exact with
  | bot => simp at nonneg
  | top => rfl
  | coe r => rw [EReal.coe_abs, abs_of_nonneg (EReal.coe_nonneg.mp nonneg)]

theorem value_nonneg_of_le {x : Float} (le : 0.0 ≤ x) : 0 ≤ value x := by
  rw [← value_zero]
  exact (le_iff.mp le).2.2

/-- Numbers that are not NaN and have no negative value are at least zero. -/
theorem zero_le_iff {x : Float} (nonneg : 0 ≤ value x) : 0.0 ≤ x ↔ x.isNaN = false := by
  rw [le_iff, value_zero]
  simp only [nonneg, isNaN_zero, and_true, true_and]

theorem magnitude_le {x y : Float} (left : 0 ≤ value x) (right : 0 ≤ value y)
    (le : value x ≤ value y) : magnitude x ≤ magnitude y := by
  rw [← EReal.coe_ennreal_le_coe_ennreal_iff, coe_magnitude left, coe_magnitude right]
  exact le

theorem magnitude_le_of_le {x y : Float} (nonneg : 0 ≤ value x) (le : x ≤ y) :
    magnitude x ≤ magnitude y := by
  have valueLe := (le_iff.mp le).2.2
  exact magnitude_le nonneg (nonneg.trans valueLe) valueLe

theorem magnitude_eq_zero_iff {x : Float} : magnitude x = 0 ↔ value x = 0 :=
  EReal.abs_eq_zero_iff

theorem magnitude_pos_of_pos {x : Float} (positive : 0.0 < x) : magnitude x ≠ 0 := by
  have valuePositive := (lt_iff.mp positive).2.2
  rw [value_zero] at valuePositive
  exact fun zero => valuePositive.ne' (magnitude_eq_zero_iff.mp zero)

end

end CoordinateConformance.Binary64
