import CoordinateConformance.Proofs.Tolerance.Order

/-!
Contract: when an adjusted tolerance is not a number.

Dividing by the length of a degree and taking the greater of two numbers keep tolerances
defined. A factor of zero does so too, unless an earlier modifier has made the tolerance
infinite: `∞ * 0` is not a number, and it stays so through all modifiers that follow.

Owns: `CatalogueModifier.Annihilates`, `isNaN_apply_iff`.

Does **not** own: the order of tolerances.
-/

namespace CoordinateConformance

open Binary64
open scoped ENNReal

/-! ## When a tolerance is annihilated -/

/-- On this axis an infinite tolerance is multiplied by zero. A maximum is undefined only if both
sides are; of two modifiers in sequence, the second one meets what the first one leaves. -/
def CatalogueModifier.Annihilates (functions : ElementaryFunctions Float)
    (coordinate : List Float) (calculation : Calculation) (axis : Nat) :
    CatalogueModifier → List Float → Prop
  | .identity, _ => False
  | .metresToDegrees _, _ => False
  | .scale factors, tolerances =>
      calculation ∈ factors.appliesTo ∧ ∃ tolerance factor : Float,
        tolerances[axis]? = some tolerance ∧ factors.factors[axis]? = some factor ∧
          tolerance.isInf = true ∧ (factor == 0.0) = true
  | .maximum first second, tolerances =>
      first.Annihilates functions coordinate calculation axis tolerances ∧
        second.Annihilates functions coordinate calculation axis tolerances
  | .concatenate first second, tolerances =>
      first.Annihilates functions coordinate calculation axis tolerances ∨
        second.Annihilates functions coordinate calculation axis
          ((first.toModifier functions).apply tolerances coordinate calculation)

/-- Every conversion to degrees is one of the four published ones. -/
def CatalogueModifier.IsPublished : CatalogueModifier → Prop
  | .identity => True
  | .metresToDegrees conversion =>
      conversion ∈ [MetresToDegrees.geographic, .geographicLatitudeFirst, .projection,
        .projectionFromLatitudeFirst]
  | .scale _ => True
  | .maximum first second => first.IsPublished ∧ second.IsPublished
  | .concatenate first second => first.IsPublished ∧ second.IsPublished

/-! ## The length of a degree -/

/-- Angles in radians are smaller than in degrees. -/
theorem isFinite_toRadians {angle : Float} (finite : angle.isFinite = true) :
    (toRadians angle).isFinite = true := by
  have ratioFinite : (Arithmetic.pi / 180.0 : Float).isFinite = true := by decide
  have ratioNonneg : (0.0 : Float) ≤ Arithmetic.pi / 180.0 := by decide
  have ratioLe : magnitude (Arithmetic.pi / 180.0 : Float) ≤ 1 := by
    rw [← magnitude_one]
    exact magnitude_le_of_le (value_nonneg_of_le ratioNonneg) (by decide)
  have small : magnitude (toRadians angle) ≤ magnitude angle := by
    calc magnitude (toRadians angle)
        = rounded (magnitude angle * magnitude (Arithmetic.pi / 180.0 : Float)) :=
          magnitude_mul angle _
      _ ≤ rounded (magnitude angle * 1) := rounded_mono (by gcongr)
      _ = magnitude angle := by rw [mul_one, rounded_magnitude]
  refine isFinite_iff.mpr ⟨isNaN_mul_of_finite finite ratioFinite, ?_⟩
  exact ne_top_of_le_ne_top (isFinite_iff.mp finite).2 small

/-- What is known of the cosine: its absolute value is positive and at most one. -/
def CosineInRange (functions : ElementaryFunctions Float) : Prop :=
  ∀ angle : Float, angle.isFinite = true →
    0.0 < (functions.cos angle).abs ∧ (functions.cos angle).abs ≤ 1.0

section Degree

variable {functions : ElementaryFunctions Float} (cosine : CosineInRange functions)

theorem magnitude_metresPerDegree_ne_zero : magnitude metresPerDegree ≠ 0 :=
  magnitude_pos_of_pos (by decide)

theorem one_le_magnitude_metresPerDegree : 1 ≤ magnitude metresPerDegree := by
  have nonneg : (0.0 : Float) ≤ 1.0 := by decide
  rw [← magnitude_one]
  exact magnitude_le_of_le (value_nonneg_of_le nonneg) (by decide)

include cosine

/-- Near the poles a degree of longitude is short, but its length is neither zero nor infinite. -/
theorem metresPerLongitudeDegree_proper {latitude : Float} (finite : latitude.isFinite = true) :
    (MetresToDegrees.metresPerLongitudeDegree functions latitude).isFinite = true ∧
      magnitude (MetresToDegrees.metresPerLongitudeDegree functions latitude) ≠ 0 := by
  obtain ⟨positive, le⟩ := cosine _ (isFinite_toRadians finite)
  unfold MetresToDegrees.metresPerLongitudeDegree
  dsimp only
  generalize (functions.cos (toRadians latitude)).abs = shrinking at positive le
  have nonneg : 0 ≤ value shrinking := by
    rw [← value_zero]
    exact (lt_iff.mp positive).2.2.le
  have shrinkingLe : magnitude shrinking ≤ 1 := by
    rw [← magnitude_one]
    exact magnitude_le_of_le nonneg le
  have shrinkingFinite : shrinking.isFinite = true :=
    isFinite_iff.mpr ⟨(le_iff.mp le).1, ne_top_of_le_ne_top ENNReal.one_ne_top shrinkingLe⟩
  rw [if_pos shrinkingFinite]
  have upper : magnitude (metresPerDegree * shrinking) ≤ magnitude metresPerDegree := by
    calc magnitude (metresPerDegree * shrinking)
        = rounded (magnitude metresPerDegree * magnitude shrinking) := magnitude_mul _ _
      _ ≤ rounded (magnitude metresPerDegree * 1) := rounded_mono (by gcongr)
      _ = magnitude metresPerDegree := by rw [mul_one, rounded_magnitude]
  have lower : magnitude shrinking ≤ magnitude (metresPerDegree * shrinking) := by
    calc magnitude shrinking = rounded (1 * magnitude shrinking) := by
          rw [one_mul, rounded_magnitude]
      _ ≤ rounded (magnitude metresPerDegree * magnitude shrinking) := by
          refine rounded_mono ?_
          gcongr
          exact one_le_magnitude_metresPerDegree
      _ = magnitude (metresPerDegree * shrinking) := (magnitude_mul _ _).symm
  have degreeFinite := (isFinite_iff.mp isFinite_metresPerDegree).2
  refine ⟨isFinite_iff.mpr ⟨isNaN_mul_of_finite isFinite_metresPerDegree shrinkingFinite,
    ne_top_of_le_ne_top degreeFinite upper⟩, fun zero => ?_⟩
  rw [zero] at lower
  exact magnitude_pos_of_pos positive (le_zero_iff.mp lower)

end Degree

/-! ## One modifier -/

/-- A change of one tolerance that keeps numbers numbers and NaN undefined. -/
theorem exists_of_getElem?_modify {change : Float → Float}
    (keeps : ∀ x, (change x).isNaN = x.isNaN) {tolerances : List Float} {index axis : Nat}
    {result : Float} (applied : (tolerances.modify index change)[axis]? = some result) :
    ∃ tolerance, tolerances[axis]? = some tolerance ∧ result.isNaN = tolerance.isNaN := by
  rw [List.getElem?_modify] at applied
  obtain ⟨tolerance, found, rfl⟩ := Option.map_eq_some_iff.mp applied
  refine ⟨tolerance, found, ?_⟩
  split_ifs
  · exact keeps tolerance
  · rfl

theorem isNaN_metresToDegrees {functions : ElementaryFunctions Float}
    (cosine : CosineInRange functions) {conversion : MetresToDegrees} {coordinate : List Float}
    (finite : ∀ latitude, coordinate[conversion.latitudeAxis]? = some latitude →
      latitude.isFinite = true)
    {tolerances : List Float} {calculation : Calculation} {axis : Nat} {tolerance result : Float}
    (found : tolerances[axis]? = some tolerance)
    (applied : (conversion.apply functions tolerances coordinate calculation)[axis]? =
      some result) :
    result.isNaN = tolerance.isNaN := by
  have unchanged : tolerances[axis]? = some result → result.isNaN = tolerance.isNaN := by
    intro same
    rw [found] at same
    cases same
    rfl
  unfold MetresToDegrees.apply at applied
  split_ifs at applied with unaffected missing
  · exact unchanged applied
  · split at applied <;> exact unchanged applied
  · split at applied
    next => exact unchanged applied
    next latitude latitudeEq =>
      obtain ⟨lengthFinite, lengthNonzero⟩ :=
        metresPerLongitudeDegree_proper cosine (finite latitude latitudeEq)
      -- the two axes may be the same one, so the changes are taken one after the other
      obtain ⟨middle, middleEq, same⟩ := exists_of_getElem?_modify
        (fun x => isNaN_div_of_proper lengthFinite lengthNonzero) applied
      obtain ⟨original, originalEq, same'⟩ := exists_of_getElem?_modify
        (fun x => isNaN_div_of_proper isFinite_metresPerDegree magnitude_metresPerDegree_ne_zero)
        middleEq
      rw [found] at originalEq
      cases originalEq
      exact same.trans same'

theorem getElem?_multiply (tolerances factors : List Float) (axis : Nat) :
    (Scale.multiply tolerances factors)[axis]? =
      match tolerances[axis]?, factors[axis]? with
      | some tolerance, some factor => some (tolerance * factor)
      | some tolerance, none => some tolerance
      | none, _ => none := by
  induction tolerances generalizing factors axis with
  | nil => rfl
  | cons tolerance tolerances inductionHypothesis =>
      cases factors with
      | nil =>
          rw [show Scale.multiply (tolerance :: tolerances) [] = tolerance :: tolerances from rfl]
          cases (tolerance :: tolerances)[axis]? <;> rfl
      | cons factor factors =>
          cases axis with
          | zero => rfl
          | succ axis => exact inductionHypothesis factors axis

/-- A finite factor makes a tolerance undefined only if it is zero and the tolerance infinite. -/
theorem isNaN_mul_factor {tolerance factor : Float} (admissible : isScaleFactor factor = true) :
    (tolerance * factor).isNaN = true ↔
      tolerance.isNaN = true ∨ tolerance.isInf = true ∧ (factor == 0.0) = true := by
  unfold isScaleFactor at admissible
  rw [Bool.and_eq_true] at admissible
  obtain ⟨number, finite⟩ := isFinite_iff.mp admissible.1
  rw [isNaN_mul, isInf_iff, beq_iff, value_zero, number, magnitude_eq_zero_iff, isNaN_zero]
  simp only [finite, and_false, or_false, Bool.false_eq_true, false_or, true_and]

theorem isNaN_scale {factors : Scale} {tolerances : List Float} {calculation : Calculation}
    {axis : Nat} {tolerance result : Float} (found : tolerances[axis]? = some tolerance)
    (applied : (factors.apply tolerances calculation)[axis]? = some result) :
    result.isNaN = true ↔ tolerance.isNaN = true ∨
      calculation ∈ factors.appliesTo ∧ ∃ tolerance factor : Float,
        tolerances[axis]? = some tolerance ∧ factors.factors[axis]? = some factor ∧
          tolerance.isInf = true ∧ (factor == 0.0) = true := by
  unfold Scale.apply at applied
  simp only [List.contains_iff_mem] at applied
  split_ifs at applied with selected
  · rw [getElem?_multiply, found] at applied
    cases factorEq : factors.factors[axis]? with
    | none =>
        rw [factorEq] at applied
        cases applied
        simp
    | some factor =>
        rw [factorEq] at applied
        cases applied
        rw [isNaN_mul_factor (List.all_eq_true.mp factors.admissible factor
          (List.mem_of_getElem? factorEq))]
        simp [found, selected]
  · rw [found] at applied
    cases applied
    simp [selected]

theorem isNaN_greaterNumber (first second : Float) :
    (greaterNumber first second).isNaN = true ↔ first.isNaN = true ∧ second.isNaN = true := by
  unfold greaterNumber
  split_ifs with nan less
  · simp only [nan, true_and]
  · simp only [(lt_iff.mp less).2.1, Bool.false_eq_true, and_false]
  · exact ⟨fun undefined => absurd undefined nan, And.left⟩

/-! ## The catalogue -/

theorem latitudeAxis_lt_two {conversion : MetresToDegrees}
    (published : conversion ∈ [MetresToDegrees.geographic, .geographicLatitudeFirst, .projection,
      .projectionFromLatitudeFirst]) : conversion.latitudeAxis < 2 := by
  simp only [List.mem_cons, List.not_mem_nil, or_false] at published
  rcases published with rfl | rfl | rfl | rfl <;> decide

/-- A tolerance that is undefined stays so; one that is defined becomes undefined exactly where
it is annihilated. -/
theorem isNaN_apply_iff {functions : ElementaryFunctions Float}
    (cosine : CosineInRange functions) {catalogue : CatalogueModifier}
    (published : catalogue.IsPublished) {coordinate : List Float}
    (finite : ∀ angle ∈ coordinate.take 2, angle.isFinite = true) {calculation : Calculation}
    {axis : Nat} {tolerances : List Float} {tolerance result : Float}
    (found : tolerances[axis]? = some tolerance)
    (applied : ((catalogue.toModifier functions).apply tolerances coordinate calculation)[axis]? =
      some result) :
    result.isNaN = true ↔ tolerance.isNaN = true ∨
      catalogue.Annihilates functions coordinate calculation axis tolerances := by
  -- the second of two modifiers meets adjusted tolerances, which may be undefined already
  induction catalogue generalizing tolerances tolerance result with
  | identity =>
      have same := found.symm.trans applied
      cases same
      simp [CatalogueModifier.Annihilates]
  | metresToDegrees conversion =>
      have latitudeFinite : ∀ latitude, coordinate[conversion.latitudeAxis]? = some latitude →
          latitude.isFinite = true := by
        intro latitude latitudeEq
        refine finite latitude (List.mem_of_getElem? (i := conversion.latitudeAxis) ?_)
        rw [List.getElem?_take_of_lt (latitudeAxis_lt_two published), latitudeEq]
      rw [isNaN_metresToDegrees cosine latitudeFinite found applied]
      simp [CatalogueModifier.Annihilates]
  | scale factors => exact isNaN_scale found applied
  | maximum first second firstIff secondIff =>
      obtain ⟨left, right, leftEq, rightEq, rfl⟩ := List.getElem?_zipWith_eq_some.mp applied
      rw [isNaN_greaterNumber, firstIff published.1 found leftEq,
        secondIff published.2 found rightEq, ← or_and_left]
      rfl
  | concatenate first second firstIff secondIff =>
      have inRange : axis <
          ((first.toModifier functions).apply tolerances coordinate calculation).length := by
        rw [(first.toModifier functions).length_apply]
        exact (List.getElem?_eq_some_iff.mp found).1
      have middle := List.getElem?_eq_getElem inRange
      rw [secondIff published.2 middle applied, firstIff published.1 found middle, or_assoc]
      rfl

/-- Adjusted tolerances are not negative. -/
theorem value_nonneg_apply {functions : ElementaryFunctions Float} {catalogue : CatalogueModifier}
    {tolerances coordinate : List Float} {calculation : Calculation}
    (nonneg : ∀ tolerance ∈ tolerances, 0 ≤ value tolerance) {axis : Nat} {result : Float}
    (applied : ((catalogue.toModifier functions).apply tolerances coordinate calculation)[axis]? =
      some result) :
    0 ≤ value result := by
  have reflexive : List.Forall₂ Tighter tolerances tolerances :=
    List.forall₂_same.mpr fun tolerance mem => Tighter.refl (nonneg tolerance mem)
  have adjusted := monotone_toModifier functions catalogue _ _ coordinate calculation reflexive
  obtain ⟨_, _, tighter⟩ := getElem?_of_forall₂ adjusted applied
  exact tighter.first_nonneg

/-- Adjusting finite tolerances that are not negative never fails, and every adjusted tolerance
is at least zero or NaN. It is NaN exactly where the modifier annihilates it; a strict
calculation adjusts nothing. -/
theorem adjust_isNaN_iff {functions : ElementaryFunctions Float}
    (cosine : CosineInRange functions) {catalogue : CatalogueModifier}
    (published : catalogue.IsPublished) {tolerances coordinate : List Float}
    (lengths : coordinate.length = tolerances.length)
    (proper : ∀ tolerance ∈ tolerances, tolerance.isFinite = true ∧ 0.0 ≤ tolerance)
    (angles : ∀ angle ∈ coordinate.take 2, angle.isFinite = true ∧ -90.0 ≤ angle ∧ angle ≤ 90.0)
    (calculation : Calculation) :
    ∃ adjusted, (catalogue.toModifier functions).adjust tolerances coordinate calculation =
        .ok adjusted ∧
      adjusted.length = tolerances.length ∧
      ∀ axis result, adjusted[axis]? = some result →
        (result.isNaN = true ↔ calculation ≠ .strict ∧
          catalogue.Annihilates functions coordinate calculation axis tolerances) ∧
        (0.0 ≤ result ↔ ¬(calculation ≠ .strict ∧
          catalogue.Annihilates functions coordinate calculation axis tolerances)) := by
  refine ⟨_, Comparison.adjust_eq lengths, ?_, fun axis result resultEq => ?_⟩
  · unfold Comparison.adjusted
    split
    · rfl
    · exact (catalogue.toModifier functions).length_apply _ _ _
  have number : ∀ tolerance ∈ tolerances, tolerance.isNaN = false := fun tolerance mem =>
    (isFinite_iff.mp (proper tolerance mem).1).1
  by_cases strict : calculation = .strict
  · subst strict
    have mem : result ∈ tolerances := List.mem_of_getElem? resultEq
    have notAnnihilated : ¬(Calculation.strict ≠ .strict ∧
        catalogue.Annihilates functions coordinate .strict axis tolerances) := fun both =>
      both.1 rfl
    have notUndefined : ¬result.isNaN = true := by
      rw [number result mem]
      exact Bool.false_ne_true
    exact ⟨iff_of_false notUndefined notAnnihilated,
      iff_of_true (proper result mem).2 notAnnihilated⟩
  · have applied : ((catalogue.toModifier functions).apply tolerances coordinate
        calculation)[axis]? = some result := by
      cases calculation with
      | strict => exact absurd rfl strict
      | direct => exact resultEq
      | inverse => exact resultEq
    have nonneg : 0 ≤ value result :=
      value_nonneg_apply (fun tolerance mem => value_nonneg_of_le (proper tolerance mem).2) applied
    have inRange : axis < tolerances.length := by
      rw [← (catalogue.toModifier functions).length_apply tolerances coordinate calculation]
      exact (List.getElem?_eq_some_iff.mp applied).1
    have finite : ∀ angle ∈ coordinate.take 2, angle.isFinite = true := fun angle mem =>
      (angles angle mem).1
    have iff := isNaN_apply_iff cosine published finite (List.getElem?_eq_getElem inRange) applied
    rw [number _ (List.getElem_mem inRange)] at iff
    have undefined : result.isNaN = true ↔ calculation ≠ .strict ∧
        catalogue.Annihilates functions coordinate calculation axis tolerances := by
      simpa only [strict, ne_eq, not_false_eq_true, true_and, Bool.false_eq_true, false_or]
        using iff
    refine ⟨undefined, ?_⟩
    rw [zero_le_iff nonneg, ← undefined, Bool.not_eq_true]

/-- A huge factor that makes huge tolerances infinite, and a factor of zero behind it. -/
def overflowThenZero : CatalogueModifier :=
  .concatenate (.scale ⟨Calculation.all, [1e200, 1e200], by decide +kernel⟩)
    (.scale ⟨Calculation.all, [0.0, 0.0], by decide⟩)

/-- Finite tolerances that are not negative are adjusted to NaN. -/
theorem adjust_overflowThenZero :
    ([1e200, 1e200].all fun tolerance : Float => tolerance.isFinite && 0.0 ≤ tolerance) = true ∧
      (overflowThenZero.toModifier .platform).adjust [1e200, 1e200] [0.0, 0.0] .inverse =
        .ok [0.0 / 0.0, 0.0 / 0.0] ∧
      (0.0 / 0.0 : Float).isNaN = true := by
  have applied : (overflowThenZero.toModifier .platform).apply [1e200, 1e200] [0.0, 0.0] .inverse =
      [0.0 / 0.0, 0.0 / 0.0] := by decide +kernel
  refine ⟨by decide +kernel, ?_, by decide⟩
  rw [Comparison.adjust_eq (by decide)]
  exact congrArg Except.ok applied

/-- The platform's functions with the cosine that angles at the equator have. -/
def equatorial : ElementaryFunctions Float :=
  { ElementaryFunctions.platform with cos := fun _ => 1.0 }

/-- At the origin of the coordinates, through a conversion to degrees and two factors. -/
theorem adjust_isNaN_equatorial :
    ∃ adjusted, ((CatalogueModifier.concatenate (.metresToDegrees .projection)
        overflowThenZero).toModifier equatorial).adjust [1e200, 0.01] [0.0, 0.0] .inverse =
          .ok adjusted ∧
      adjusted.length = 2 ∧
      ∀ axis result, adjusted[axis]? = some result →
        (result.isNaN = true ↔ Calculation.inverse ≠ .strict ∧
          (CatalogueModifier.concatenate (.metresToDegrees .projection)
            overflowThenZero).Annihilates equatorial [0.0, 0.0] .inverse axis [1e200, 0.01]) ∧
        (0.0 ≤ result ↔ ¬(Calculation.inverse ≠ .strict ∧
          (CatalogueModifier.concatenate (.metresToDegrees .projection)
            overflowThenZero).Annihilates equatorial [0.0, 0.0] .inverse axis [1e200, 0.01])) := by
  have cosine : CosineInRange equatorial := by
    intro angle _
    show 0.0 < (1.0 : Float).abs ∧ (1.0 : Float).abs ≤ 1.0
    decide
  have published : (CatalogueModifier.concatenate (.metresToDegrees .projection)
      overflowThenZero).IsPublished := by
    simp [CatalogueModifier.IsPublished, overflowThenZero]
  have lengths : ([0.0, 0.0] : List Float).length = ([1e200, 0.01] : List Float).length := by
    simp only [List.length_cons, List.length_nil]
  have proper : ∀ tolerance ∈ [(1e200 : Float), 0.01],
      tolerance.isFinite = true ∧ 0.0 ≤ tolerance := by decide +kernel
  exact adjust_isNaN_iff cosine published lengths proper (by decide) .inverse

end CoordinateConformance
