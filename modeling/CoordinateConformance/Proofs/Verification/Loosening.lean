import CoordinateConformance.Proofs.Tolerance.Order
import CoordinateConformance.Proofs.Verification.Verdict

/-!
Contract: loosening the tolerance of a test.

Two tests that differ in nothing but the tolerance look at the same transforms of the same
points. Where all modifiers are monotone, every axis that passes with the lower tolerance also
passes with the higher one, so a candidate that passes the stricter test passes the other.

Owns: `Loosens`, `ChecksHold.loosen`.

Does **not** own: which modifiers are monotone. Machines may count up to any size: two such tests
count the same values.
-/

namespace CoordinateConformance

open Binary64 Comparison

/-! ## Comparisons -/

theorem forall₂_adjusted {modifier : ToleranceModifier} (monotone : modifier.Monotone)
    {first second : List Float} (all : List.Forall₂ Tighter first second)
    (calculation : Calculation) (coordinate : List Float) :
    List.Forall₂ Tighter (adjusted modifier first calculation coordinate)
      (adjusted modifier second calculation coordinate) := by
  cases calculation with
  | strict => exact all
  | direct => exact monotone _ _ _ _ all
  | inverse => exact monotone _ _ _ _ all

/-- What agrees within some tolerances agrees within looser ones. -/
theorem Agree.loosen {expected actual first second : List Float} {dimension : Nat}
    {modifier : ToleranceModifier} {calculation : Calculation} (monotone : modifier.Monotone)
    (all : List.Forall₂ Tighter first second)
    (agree : Comparison.Agree expected actual first dimension modifier calculation) :
    Comparison.Agree expected actual second dimension modifier calculation := by
  obtain ⟨⟨axes, same, lengths, whole⟩, passes⟩ := agree
  refine ⟨⟨axes, all.length_eq ▸ same, lengths, whole⟩, fun point less axis axisLess => ?_⟩
  obtain ⟨e, a, t, has, passes⟩ := passes point less axis axisLess
  obtain ⟨looser, looserEq, tighter⟩ :=
    getElem?_of_forall₂ (forall₂_adjusted monotone all _ _) has.tolerance_eq
  exact ⟨e, a, looser, ⟨has.expected_eq, has.actual_eq, looserEq⟩, tighter.passes passes⟩

/-! ## Tests -/

/-- The second test differs from the first in nothing but a higher tolerance. -/
structure Loosens (tight loose : TestCase) : Prop where
  configuration_eq : loose.configuration =
    { tight.configuration with tolerance := loose.configuration.tolerance }
  modifiers_eq : loose.modifiers = tight.modifiers
  le : tight.configuration.tolerance ≤ loose.configuration.tolerance

theorem value_tolerance_nonneg (test : TestCase) : 0 ≤ value test.configuration.tolerance := by
  have valid := test.valid
  unfold Configuration.validate at valid
  split_ifs at valid with outOfRange
  rw [Bool.not_eq_true, Bool.not_eq_false', Bool.and_eq_true, decide_eq_true_iff] at outOfRange
  exact value_nonneg_of_le outOfRange.2

section Loosen

variable {tight loose : TestCase} (loosens : Loosens tight loose)

include loosens

theorem Loosens.tighter :
    List.Forall₂ Tighter (List.replicate 2 tight.configuration.tolerance)
      (List.replicate 2 loose.configuration.tolerance) := by
  have tightNonneg := value_tolerance_nonneg tight
  have looseNonneg := value_tolerance_nonneg loose
  have step : Tighter tight.configuration.tolerance loose.configuration.tolerance :=
    ⟨tightNonneg, looseNonneg, magnitude_le_of_le tightNonneg loosens.le⟩
  exact .cons step (.cons step .nil)

theorem Loosens.modifier_eq (sample : Sample) : loose.modifier sample = tight.modifier sample := by
  unfold TestCase.modifier
  rw [loosens.modifiers_eq]

variable [SizeArithmetic] (monotone : ∀ sample, (tight.modifier sample).Monotone)
  {sample : Sample}

include monotone

theorem LegHolds.loosen {operation : Operation} {points expected : List Float}
    {calculation : Calculation}
    (holds : LegHolds tight sample operation points expected calculation) :
    LegHolds loose sample operation points expected calculation := by
  obtain ⟨actual, maps, agree⟩ := holds
  refine ⟨actual, maps, ?_⟩
  rw [loosens.modifier_eq]
  exact Agree.loosen (monotone sample) loosens.tighter agree

theorem SampleHolds.loosen {operation : Operation} (holds : SampleHolds tight sample operation) :
    SampleHolds loose sample operation := by
  obtain ⟨source, target, direct, back⟩ := holds
  refine ⟨source, target, direct.loosen loosens monotone, fun tested inverse some => ?_⟩
  rw [loosens.configuration_eq] at tested
  exact (back tested inverse some).loosen loosens monotone

theorem DomainHolds.loosen {operation : Operation} (holds : DomainHolds tight sample operation) :
    DomainHolds loose sample operation := by
  intro inverse some
  obtain ⟨source, fits, points, images, back, grid, maps, mapsBack, agree⟩ := holds inverse some
  refine ⟨source, ?_, points, images, back, ?_, maps, mapsBack, ?_⟩
  · rw [loosens.configuration_eq]
    exact fits
  · rw [loosens.configuration_eq]
    exact grid
  · rw [loosens.modifier_eq]
    exact Agree.loosen (monotone sample) loosens.tighter agree

/-- The consistency check has no tolerance, so only the other two change. -/
theorem ChecksHold.loosen {operation : Operation} (holds : ChecksHold tight sample operation) :
    ChecksHold loose sample operation := by
  obtain ⟨sampleHolds, consistencyHolds, domainHolds⟩ := holds
  refine ⟨sampleHolds.loosen loosens monotone, fun enabled => ?_, fun enabled tested => ?_⟩
  · rw [loosens.configuration_eq] at enabled
    exact consistencyHolds enabled
  · rw [loosens.configuration_eq] at enabled tested
    exact (domainHolds enabled tested).loosen loosens monotone

end Loosen

/-! ## The catalogue -/

/-- All registered modifiers are in the catalogue. -/
def ModifierRegistry.IsCatalogued (functions : ElementaryFunctions Float)
    (registry : ModifierRegistry) : Prop :=
  ∀ entry ∈ registry.entries, ∃ catalogue : CatalogueModifier,
    entry.2 = catalogue.toModifier functions

theorem monotone_getOrIdentity {functions : ElementaryFunctions Float}
    {registry : ModifierRegistry} (catalogued : registry.IsCatalogued functions)
    (family : Family) : (registry.getOrIdentity family).Monotone := by
  unfold ModifierRegistry.getOrIdentity ModifierRegistry.get?
  cases found : registry.entries.find? fun entry => entry.1 == family with
  | none => exact monotone_toModifier functions .identity
  | some entry =>
      obtain ⟨catalogue, catalogueEq⟩ := catalogued entry (List.mem_of_find?_eq_some found)
      show entry.2.Monotone
      rw [catalogueEq]
      exact monotone_toModifier functions catalogue

/-- A candidate that passes with a tolerance passes with every higher one, whatever catalogued
modifiers adjust it. -/
theorem compare_passed_of_le [SizeArithmetic] (functions : ElementaryFunctions Float)
    {tight loose : TestCase} (catalogued : tight.modifiers.IsCatalogued functions)
    (loosens : Loosens tight loose) (target : Int) (operation : Operation)
    (passed : tight.compare target operation = .ok .passed) :
    loose.compare target operation = .ok .passed := by
  obtain ⟨sample, registered, same, holds⟩ := compare_eq_passed_iff.mp passed
  have monotone : ∀ sample, (tight.modifier sample).Monotone := fun sample =>
    monotone_getOrIdentity catalogued _
  exact compare_eq_passed_iff.mpr ⟨sample, registered, same, holds.loosen loosens monotone⟩

/-- Half a centimetre beside the first control point of Makassar, and exact on the way back. -/
def displacedMakassar : Operation :=
  .custom "displaced" 2 2 (fun _ => some [3900000.005, 900000.0, 5009726.58, 569150.82])
    (some (.custom "exact" 2 2 (fun _ => some [110.0, 0.0, 120.0, -3.0]) none))

/-- Tolerances in degrees after inverse transforms, and twice as high on the first axis after
forward ones. -/
def scaledProjection : CatalogueModifier :=
  .concatenate (.metresToDegrees .projection) (.scale ⟨[.direct], [2.0], by decide⟩)

/-- A test of forward and inverse transforms with the given tolerance. -/
def scaledTest (tolerance : Float)
    (valid : (Configuration.mk tolerance true false false 2).validate = .ok ()) : TestCase :=
  ⟨⟨tolerance, true, false, false, 2⟩, valid,
    ⟨[(.projected, scaledProjection.toModifier .platform)]⟩⟩

theorem compare_passed_displacedMakassar :
    (scaledTest 0.01 rfl).compare 3002 displacedMakassar = .ok .passed ∧
      (scaledTest 0.5 rfl).compare 3002 displacedMakassar = .ok .passed := by
  have passed : (scaledTest 0.01 rfl).compare 3002 displacedMakassar = .ok .passed := by rfl
  have catalogued : (scaledTest 0.01 rfl).modifiers.IsCatalogued .platform := by
    intro entry mem
    have listed : entry = (.projected, scaledProjection.toModifier .platform) := by
      simpa only [scaledTest, List.mem_singleton] using mem
    exact ⟨scaledProjection, congrArg Prod.snd listed⟩
  have loosens : Loosens (scaledTest 0.01 rfl) (scaledTest 0.5 rfl) :=
    ⟨by simp only [scaledTest], by simp only [scaledTest], by decide⟩
  exact ⟨passed, compare_passed_of_le .platform catalogued loosens 3002 displacedMakassar passed⟩

end CoordinateConformance
