import CoordinateConformance.Proofs.Binary64.Difference
import CoordinateConformance.Proofs.Comparison.Result
import CoordinateConformance.Tolerance.Catalogue

/-!
Contract: the order of tolerances that every modifier preserves.

A tolerance that is not a number lets no more pass than the tolerance zero does, so it counts
as zero. In this order all modifiers of the catalogue are monotone, although `∞ * 0` and
`0 / 0` occur on the way, and a looser tolerance lets pass whatever the tighter one does.

Owns: `Tighter`, `Tighter.passes`, `monotone_toModifier`.

Does **not** own: the checks of a test.
-/

namespace CoordinateConformance

open Binary64
open scoped ENNReal

/-- Neither tolerance is negative, and the first is at most the second; NaN counts as zero. -/
structure Tighter (first second : Float) : Prop where
  first_nonneg : 0 ≤ value first
  second_nonneg : 0 ≤ value second
  le : magnitude first ≤ magnitude second

/-- A looser tolerance lets pass what a tighter one does. -/
theorem Tighter.passes {first second expected actual : Float} (tighter : Tighter first second)
    (passes : Comparison.Passes expected actual first) :
    Comparison.Passes expected actual second := by
  rcases passes with equal | nan | close
  · exact Or.inl equal
  · exact Or.inr (Or.inl nan)
  · obtain ⟨number, _, le⟩ := le_iff.mp close
    have valueLe : value (expected - actual).abs ≤ value second := by
      calc value (expected - actual).abs ≤ value first := le
        _ = (magnitude first : EReal) := (coe_magnitude tighter.first_nonneg).symm
        _ ≤ (magnitude second : EReal) := EReal.coe_ennreal_le_coe_ennreal_iff.mpr tighter.le
        _ = value second := coe_magnitude tighter.second_nonneg
    by_cases nan : second.isNaN = true
    · -- the tolerance counts as zero, so the values are equal
      have zero : value second = 0 := value_of_isNaN nan
      rw [zero, ← value_zero] at valueLe
      exact Or.inl (beq_of_abs_sub_le_zero (le_iff.mpr ⟨number, isNaN_zero, valueLe⟩))
    · exact Or.inr (Or.inr (le_iff.mpr ⟨number, Bool.not_eq_true _ ▸ nan, valueLe⟩))

/-! ## Arithmetic of tolerances -/

theorem Tighter.refl {tolerance : Float} (nonneg : 0 ≤ value tolerance) :
    Tighter tolerance tolerance :=
  ⟨nonneg, nonneg, le_refl _⟩

theorem Tighter.mul {first second factor : Float} (tighter : Tighter first second)
    (nonneg : 0 ≤ value factor) : Tighter (first * factor) (second * factor) where
  first_nonneg := value_nonneg_mul tighter.first_nonneg nonneg
  second_nonneg := value_nonneg_mul tighter.second_nonneg nonneg
  le := by
    rw [magnitude_mul, magnitude_mul]
    exact rounded_mono (mul_le_mul_left tighter.le _)

/-- A divisor without a sign may be zero or infinite, but it must be a number. -/
structure IsDivisor (divisor : Float) : Prop where
  number : divisor.isNaN = false
  unsigned : Unsigned divisor.toModel.unpack

theorem Tighter.div {first second divisor : Float} (tighter : Tighter first second)
    (isDivisor : IsDivisor divisor) : Tighter (first / divisor) (second / divisor) where
  first_nonneg := value_nonneg_div tighter.first_nonneg isDivisor.unsigned
  second_nonneg := value_nonneg_div tighter.second_nonneg isDivisor.unsigned
  le := by
    rw [magnitude_div first isDivisor.number, magnitude_div second isDivisor.number]
    exact rounded_mono (ENNReal.div_le_div_right tighter.le _)

/-- On tolerances, the greater number has the greater magnitude. -/
theorem magnitude_greaterNumber {first second : Float} (firstNonneg : 0 ≤ value first)
    (secondNonneg : 0 ≤ value second) :
    magnitude (greaterNumber first second) = max (magnitude first) (magnitude second) := by
  unfold greaterNumber
  split_ifs with nan less
  · refine (max_eq_right (magnitude_le firstNonneg secondNonneg ?_)).symm
    rw [value_of_isNaN nan]
    exact secondNonneg
  · exact (max_eq_right (magnitude_le firstNonneg secondNonneg (lt_iff.mp less).2.2.le)).symm
  · refine (max_eq_left (magnitude_le secondNonneg firstNonneg ?_)).symm
    by_cases nanSecond : second.isNaN = true
    · rw [value_of_isNaN nanSecond]
      exact firstNonneg
    · rw [Bool.not_eq_true] at nan nanSecond
      exact not_lt.mp fun valueLess => less (lt_iff.mpr ⟨nan, nanSecond, valueLess⟩)

theorem greaterNumber_eq_or (first second : Float) :
    greaterNumber first second = first ∨ greaterNumber first second = second := by
  unfold greaterNumber
  split_ifs <;> simp

theorem value_nonneg_greaterNumber {first second : Float} (firstNonneg : 0 ≤ value first)
    (secondNonneg : 0 ≤ value second) : 0 ≤ value (greaterNumber first second) := by
  rcases greaterNumber_eq_or first second with equal | equal
  · rw [equal]
    exact firstNonneg
  · rw [equal]
    exact secondNonneg

theorem Tighter.greaterNumber {first first' second second' : Float}
    (left : Tighter first first') (right : Tighter second second') :
    Tighter (greaterNumber first second) (greaterNumber first' second') where
  first_nonneg := value_nonneg_greaterNumber left.first_nonneg right.first_nonneg
  second_nonneg := value_nonneg_greaterNumber left.second_nonneg right.second_nonneg
  le := by
    rw [magnitude_greaterNumber left.first_nonneg right.first_nonneg,
      magnitude_greaterNumber left.second_nonneg right.second_nonneg]
    exact max_le_max left.le right.le

/-! ## Divisors and factors -/

theorem isDivisor_metresPerDegree : IsDivisor metresPerDegree where
  number := by decide
  unsigned := by
    have read : metresPerDegree.toModel.unpack.abs = metresPerDegree.toModel.unpack := rfl
    rw [← read, ← unpack_abs]
    exact unsigned_abs metresPerDegree

theorem isFinite_metresPerDegree : metresPerDegree.isFinite = true := by
  decide

/-- Whatever the cosine is, a degree of longitude has a length without a sign. -/
theorem isDivisor_metresPerLongitudeDegree (functions : ElementaryFunctions Float)
    (latitude : Float) :
    IsDivisor (MetresToDegrees.metresPerLongitudeDegree functions latitude) := by
  unfold MetresToDegrees.metresPerLongitudeDegree
  dsimp only
  split_ifs with finite
  · exact ⟨isNaN_mul_of_finite isFinite_metresPerDegree finite,
      unsigned_mul isDivisor_metresPerDegree.unsigned (unsigned_abs _)⟩
  · exact isDivisor_metresPerDegree

theorem value_nonneg_of_isScaleFactor {factor : Float} (admissible : isScaleFactor factor = true) :
    0 ≤ value factor := by
  unfold isScaleFactor at admissible
  rw [Bool.and_eq_true, decide_eq_true_iff] at admissible
  exact value_nonneg_of_le admissible.2

/-! ## Modifiers -/

/-- A modifier gives looser tolerances where it is given looser ones. -/
def ToleranceModifier.Monotone (modifier : ToleranceModifier) : Prop :=
  ∀ first second coordinate calculation, List.Forall₂ Tighter first second →
    List.Forall₂ Tighter (modifier.apply first coordinate calculation)
      (modifier.apply second coordinate calculation)

theorem forall₂_modify {first second : List Float} (all : List.Forall₂ Tighter first second)
    {change : Float → Float} (step : ∀ {x y}, Tighter x y → Tighter (change x) (change y))
    (index : Nat) :
    List.Forall₂ Tighter (first.modify index change) (second.modify index change) := by
  induction all generalizing index with
  | nil => cases index <;> exact .nil
  | cons head tail inductionHypothesis =>
      cases index with
      | zero => exact .cons (step head) tail
      | succ index => exact .cons head (inductionHypothesis index)

theorem getElem?_of_forall₂ {first second : List Float} (all : List.Forall₂ Tighter first second)
    {index : Nat} {tolerance : Float} (found : first[index]? = some tolerance) :
    ∃ looser, second[index]? = some looser ∧ Tighter tolerance looser := by
  induction all generalizing index with
  | nil => simp at found
  | cons head tail inductionHypothesis =>
      cases index with
      | zero =>
          cases found
          exact ⟨_, rfl, head⟩
      | succ index => exact inductionHypothesis found

theorem monotone_metresToDegrees (functions : ElementaryFunctions Float)
    (conversion : MetresToDegrees) :
    (ToleranceModifier.metresToDegrees functions conversion).Monotone := by
  intro first second coordinate calculation all
  show List.Forall₂ Tighter (conversion.apply functions first coordinate calculation)
    (conversion.apply functions second coordinate calculation)
  unfold MetresToDegrees.apply
  rw [all.length_eq]
  split_ifs with unaffected missing
  · exact all
  · split <;> exact all
  · split
    · exact all
    · refine forall₂_modify (forall₂_modify all ?_ _) ?_ _
      · exact fun tighter => tighter.div isDivisor_metresPerDegree
      · exact fun tighter => tighter.div (isDivisor_metresPerLongitudeDegree functions _)

theorem forall₂_multiply {first second factors : List Float}
    (all : List.Forall₂ Tighter first second) (admissible : factors.all isScaleFactor = true) :
    List.Forall₂ Tighter (Scale.multiply first factors) (Scale.multiply second factors) := by
  induction all generalizing factors with
  | nil => exact .nil
  | cons head tail inductionHypothesis =>
      cases factors with
      | nil => exact .cons head tail
      | cons factor factors =>
          rw [List.all_cons, Bool.and_eq_true] at admissible
          exact .cons (head.mul (value_nonneg_of_isScaleFactor admissible.1))
            (inductionHypothesis admissible.2)

theorem monotone_scale (factors : Scale) : (ToleranceModifier.scale factors).Monotone := by
  intro first second coordinate calculation all
  show List.Forall₂ Tighter (factors.apply first calculation) (factors.apply second calculation)
  unfold Scale.apply
  split_ifs
  · exact forall₂_multiply all factors.admissible
  · exact all

theorem forall₂_zipWith_greaterNumber {first first' second second' : List Float}
    (left : List.Forall₂ Tighter first first') (right : List.Forall₂ Tighter second second') :
    List.Forall₂ Tighter (List.zipWith greaterNumber first second)
      (List.zipWith greaterNumber first' second') := by
  induction left generalizing second second' with
  | nil => exact .nil
  | cons head tail inductionHypothesis =>
      cases right with
      | nil => exact .nil
      | cons head' tail' => exact .cons (head.greaterNumber head') (inductionHypothesis tail')

/-- Every modifier of the catalogue is monotone, whatever the elementary functions are. -/
theorem monotone_toModifier (functions : ElementaryFunctions Float)
    (catalogue : CatalogueModifier) : (catalogue.toModifier functions).Monotone := by
  induction catalogue with
  | identity => exact fun first second coordinate calculation all => all
  | metresToDegrees conversion => exact monotone_metresToDegrees functions conversion
  | scale factors => exact monotone_scale factors
  | maximum left right leftMonotone rightMonotone =>
      -- the greater number ignores NaN, as a maximum with zero does
      intro first second coordinate calculation all
      exact forall₂_zipWith_greaterNumber (leftMonotone _ _ _ _ all) (rightMonotone _ _ _ _ all)
  | concatenate left right leftMonotone rightMonotone =>
      intro first second coordinate calculation all
      exact rightMonotone _ _ _ _ (leftMonotone _ _ _ _ all)

end CoordinateConformance
