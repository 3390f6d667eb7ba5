import CoordinateConformance.Proofs.Tolerance.Registration
import CoordinateConformance.Proofs.Verification.Run

/-!
Contract: which part of a modifier registry a test looks at.

Every check asks the registry for the family of the sample's target system. Three tables meet there:
the samples, the reference systems and the classification of codes, which takes unknown codes for
projected systems. They agree that all samples are projected. So a test only sees the modifier of
that family, and of the modifier only how it adjusts: two tests with the same configuration whose
registries adjust projected coordinates alike give the same results, errors included.

Owns: `AdjustAlike`, `modifier_of_registered`, `SameResults`, `sameResults_of_projectedAlike`.

Does **not** own: how registrations change a registry. Machines may count up to any size.
-/

namespace CoordinateConformance

/-! ## Modifiers that adjust alike -/

/-- The modifiers give the same tolerances wherever they are applied. -/
def AdjustAlike (first second : ToleranceModifier) : Prop :=
  ∀ tolerances coordinate calculation,
    first.adjust tolerances coordinate calculation = second.adjust tolerances coordinate calculation

/-! ## The family of the samples -/

/-- The target system of every sample is a known one that is not geographic. -/
theorem family_of_registered {sample : Sample} (registered : sample ∈ Sample.all) :
    Family.ofCode sample.target = .projected := by
  have codes : ∀ code ∈ Sample.all.map Sample.target, Family.ofCode code = .projected := by
    decide
  exact codes _ (List.mem_map_of_mem registered)

theorem modifier_of_registered (test : TestCase) {sample : Sample}
    (registered : sample ∈ Sample.all) :
    test.modifier sample = test.modifiers.getOrIdentity .projected := by
  unfold TestCase.modifier
  rw [family_of_registered registered]

/-! ## Two tests -/

/-- Two continuations only have to agree on the value that the program gives. -/
theorem bind_congr_of_ok {α β : Type} {program : Check α} {first second : α → Check β}
    (same : ∀ value, program = .ok value → first value = second value) :
    program >>= first = program >>= second := by
  cases program with
  | error error => rfl
  | ok value => exact same value rfl

/-- The tests have the same configuration, and their registries adjust projected coordinates
alike. -/
structure ProjectedAlike (first second : TestCase) : Prop where
  configuration_eq : first.configuration = second.configuration
  adjustAlike : AdjustAlike (first.modifiers.getOrIdentity .projected)
    (second.modifiers.getOrIdentity .projected)

section Comparisons

variable {first second : TestCase} (alike : ProjectedAlike first second)

include alike

theorem ProjectedAlike.tolerances_eq (dimension : Nat) :
    first.tolerances dimension = second.tolerances dimension := by
  unfold TestCase.tolerances
  rw [alike.configuration_eq]

theorem ProjectedAlike.compareWithModifier_eq {sample : Sample} (registered : sample ∈ Sample.all)
    (expected actual : List Float) (dimension : Nat) (calculation : Calculation) :
    compareWithModifier expected actual (first.tolerances dimension) dimension
        (first.modifier sample) calculation =
      compareWithModifier expected actual (second.tolerances dimension) dimension
        (second.modifier sample) calculation := by
  rw [alike.tolerances_eq, modifier_of_registered first registered,
    modifier_of_registered second registered]
  exact Comparison.compareWithModifier_congr
    (fun tolerances coordinate => alike.adjustAlike tolerances coordinate _) _ _ _ _

end Comparisons

section Runs

variable [SizeArithmetic]

/-- No check of a registered sample, no test and no run tells the two tests apart. -/
structure SameResults (first second : TestCase) : Prop where
  verifySample_eq : ∀ sample ∈ Sample.all, ∀ operation,
    first.verifySample sample operation = second.verifySample sample operation
  verifyInDomain_eq : ∀ sample ∈ Sample.all, ∀ operation,
    first.verifyInDomain sample operation = second.verifyInDomain sample operation
  compare_eq : ∀ target operation,
    first.compare target operation = second.compare target operation
  runAll_eq : ∀ factories, first.runAll factories = second.runAll factories

variable {first second : TestCase} (alike : ProjectedAlike first second)

include alike

section Checks

variable {sample : Sample} (registered : sample ∈ Sample.all)

include registered

theorem ProjectedAlike.verifySample_eq (operation : Operation) :
    first.verifySample sample operation = second.verifySample sample operation := by
  unfold TestCase.verifySample TestCase.verifyTransform
  simp only [alike.compareWithModifier_eq registered, alike.configuration_eq]

theorem ProjectedAlike.verifyInDomain_eq (operation : Operation) :
    first.verifyInDomain sample operation = second.verifyInDomain sample operation := by
  unfold TestCase.verifyInDomain
  simp only [alike.compareWithModifier_eq registered, alike.configuration_eq]

theorem ProjectedAlike.verify_eq (operation : Operation) :
    first.verify sample operation = second.verify sample operation := by
  unfold TestCase.verify
  rw [alike.verifySample_eq registered, alike.verifyInDomain_eq registered,
    alike.configuration_eq]

end Checks

/-- A test looks its sample up, so it only makes checks of registered samples. -/
theorem ProjectedAlike.compare_eq (target : Int) (operation : Operation) :
    first.compare target operation = second.compare target operation := by
  unfold TestCase.compare
  apply bind_congr_of_ok
  intro sample found
  obtain ⟨registered, _⟩ := get_eq_ok_iff.mp (Check.ofResult_eq_ok_iff.mp found)
  rw [alike.verify_eq registered]

theorem ProjectedAlike.runSamples_eq (factories : FactoryRegistry) (samples : List Sample)
    (report : Report) :
    first.runSamples factories samples report = second.runSamples factories samples report := by
  induction samples generalizing report with
  | nil => rfl
  | cons sample samples inductionHypothesis =>
      have entry : first.runSample factories sample.target =
          second.runSample factories sample.target := by
        unfold TestCase.runSample
        simp only [alike.compare_eq]
      simp only [TestCase.runSamples, entry, inductionHypothesis]

theorem sameResults_of_projectedAlike : SameResults first second where
  verifySample_eq _ registered := alike.verifySample_eq registered
  verifyInDomain_eq _ registered := alike.verifyInDomain_eq registered
  compare_eq := alike.compare_eq
  runAll_eq factories := alike.runSamples_eq factories Sample.all .empty

end Runs

/-! ## Result -/

/-- All checks of registered samples look up the modifier of the projected family. Registries that
adjust its coordinates alike give the same results, so registrations for other families change
nothing, and no modifier for this family is as good as one that changes nothing. -/
theorem sameResults_projectedFamily [SizeArithmetic] (test : TestCase) :
    (∀ registry, ∀ sample ∈ Sample.all,
      (test.withModifiers registry).modifier sample = registry.getOrIdentity .projected) ∧
    (∀ first second : ModifierRegistry,
      AdjustAlike (first.getOrIdentity .projected) (second.getOrIdentity .projected) →
        SameResults (test.withModifiers first) (test.withModifiers second)) ∧
    (∀ (registry : ModifierRegistry) (registrations : List (Family × ToleranceModifier)),
      (∀ registration ∈ registrations, registration.1 ≠ .projected) →
        SameResults (test.withModifiers (registry.registerAll registrations))
          (test.withModifiers registry)) ∧
    (∀ registry : ModifierRegistry, registry.get? .projected = none →
      SameResults (test.withModifiers registry)
        (test.withModifiers (registry.register .projected .identity).2)) := by
  have results : ∀ first second : ModifierRegistry,
      AdjustAlike (first.getOrIdentity .projected) (second.getOrIdentity .projected) →
        SameResults (test.withModifiers first) (test.withModifiers second) :=
    fun _ _ alike => sameResults_of_projectedAlike ⟨rfl, alike⟩
  have resultsOfEq : ∀ first second : ModifierRegistry,
      first.getOrIdentity .projected = second.getOrIdentity .projected →
        SameResults (test.withModifiers first) (test.withModifiers second) :=
    fun first second same => results first second fun _ _ _ => by rw [same]
  refine ⟨?_, results, ?_, ?_⟩
  · intro registry sample registered
    exact modifier_of_registered _ registered
  · intro registry registrations others
    apply resultsOfEq
    unfold ModifierRegistry.getOrIdentity
    rw [ModifierRegistry.get?_registerAll_of_ne others]
  · intro registry absent
    have registered : (registry.register .projected .identity).2.get? .projected =
        some .identity := ModifierRegistry.get?_insert_self
    apply resultsOfEq
    unfold ModifierRegistry.getOrIdentity
    rw [absent, registered]
    rfl

/-- The control points of Makassar, each a metre too far east. -/
def displacedByOneMetre : Operation :=
  .custom "displaced" 2 2 (fun _ => some [3900001.0, 900000.0, 5009727.58, 569150.82]) none

def twoMetres : ToleranceModifier :=
  .constant [.direct] 2.0

/-- A registry with modifiers for three families, one of them under a name in capitals. -/
def threeFamilies : ModifierRegistry :=
  ModifierRegistry.empty.registerAll
    [(.geographic, .constant Calculation.all 0.0), (.ofName "PROJECTED", twoMetres),
      (.ofName "vertical", .identity)]

set_option maxRecDepth 2000 in
/-- The modifiers of other families do not change the outcome, that of the projected family does,
and without one the tolerances stay as they are. -/
theorem sameResults_threeFamilies :
    AdjustAlike (threeFamilies.getOrIdentity .projected)
        ((ModifierRegistry.empty.insert .projected twoMetres).getOrIdentity .projected) ∧
      (forwardTest.withModifiers threeFamilies).compare 3002 displacedByOneMetre =
        (forwardTest.withModifiers (.insert .empty .projected twoMetres)).compare 3002
          displacedByOneMetre ∧
      (forwardTest.withModifiers (.insert .empty .projected twoMetres)).compare 3002
          displacedByOneMetre =
        .ok .passed ∧
      (forwardTest.withModifiers (.registerAll .empty [(.geographic, twoMetres)])).compare 3002
          displacedByOneMetre =
        (forwardTest.withModifiers .empty).compare 3002 displacedByOneMetre ∧
      (forwardTest.withModifiers .empty).compare 3002 displacedByOneMetre =
        (forwardTest.withModifiers (ModifierRegistry.empty.register .projected .identity).2).compare
          3002 displacedByOneMetre ∧
      (forwardTest.withModifiers .empty).compare 3002 displacedByOneMetre ≠ .ok .passed := by
  have alike : AdjustAlike (threeFamilies.getOrIdentity .projected)
      ((ModifierRegistry.empty.insert .projected twoMetres).getOrIdentity .projected) := by
    intro tolerances coordinate calculation
    rfl
  obtain ⟨_, results, others, absent⟩ := sameResults_projectedFamily forwardTest
  have passed : (forwardTest.withModifiers (.insert .empty .projected twoMetres)).compare 3002
      displacedByOneMetre = .ok .passed := by rfl
  have failed : (forwardTest.withModifiers .empty).compare 3002 displacedByOneMetre =
      .ok (.failed (.tolerance ⟨0, 0, 3900000.0, 3900001.0, 1.0, 0.01, .direct⟩)) := by rfl
  refine ⟨alike, (results _ _ alike).compare_eq 3002 displacedByOneMetre, passed,
    (others .empty [(.geographic, twoMetres)] ?_).compare_eq 3002 displacedByOneMetre,
    (absent .empty rfl).compare_eq 3002 displacedByOneMetre, ?_⟩
  · simp [Family.geographic, Family.projected]
  · rw [failed]
    simp

end CoordinateConformance
