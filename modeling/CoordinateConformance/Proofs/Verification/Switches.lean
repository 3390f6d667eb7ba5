import CoordinateConformance.Proofs.Verification.Verdict

/-!
Contract: what the switches of a configuration can change.

Three switches turn off inverse transforms, the consistency check and the domain check. A switch
only takes requirements away: a candidate that passes with it on also passes with it off.

The inverse of an operation is consulted in two places. The sample check looks at its own switch,
the domain check has a switch of its own and needs that of the inverse transforms too. So with
inverse transforms off no inverse is looked at, whatever the other switches say, and operations that
agree on everything else have the same results, with the same errors.

Owns: `SwitchesOff`, `ChecksHold.switchOff`, `AgreeForward`, `compare_switches`.

Does **not** own: what a single check requires. Machines may count up to any size.
-/

namespace CoordinateConformance

/-! ## Fewer checks -/

/-- The second test differs from the first in nothing but switches that are turned off. -/
structure SwitchesOff (full reduced : TestCase) : Prop where
  configuration_eq : reduced.configuration =
    { full.configuration with
      testsInverse := reduced.configuration.testsInverse
      checksConsistency := reduced.configuration.checksConsistency
      checksDomain := reduced.configuration.checksDomain }
  modifiers_eq : reduced.modifiers = full.modifiers
  testsInverse : reduced.configuration.testsInverse = true →
    full.configuration.testsInverse = true
  checksConsistency : reduced.configuration.checksConsistency = true →
    full.configuration.checksConsistency = true
  checksDomain : reduced.configuration.checksDomain = true →
    full.configuration.checksDomain = true

section FewerChecks

variable {full reduced : TestCase} (switched : SwitchesOff full reduced)

include switched

theorem SwitchesOff.tolerance_eq :
    reduced.configuration.tolerance = full.configuration.tolerance := by
  rw [switched.configuration_eq]

theorem SwitchesOff.gridSize_eq :
    reduced.configuration.gridSize = full.configuration.gridSize := by
  rw [switched.configuration_eq]

theorem SwitchesOff.modifier_eq (sample : Sample) :
    reduced.modifier sample = full.modifier sample := by
  unfold TestCase.modifier
  rw [switched.modifiers_eq]

variable [SizeArithmetic] {sample : Sample} {operation : Operation}

theorem LegHolds.switchOff {operation : Operation} {points expected : List Float}
    {calculation : Calculation}
    (holds : LegHolds full sample operation points expected calculation) :
    LegHolds reduced sample operation points expected calculation := by
  unfold LegHolds
  rw [switched.tolerance_eq, switched.modifier_eq]
  exact holds

/-- The way back is only asked for if it was asked for before. -/
theorem SampleHolds.switchOff (holds : SampleHolds full sample operation) :
    SampleHolds reduced sample operation := by
  obtain ⟨source, target, direct, back⟩ := holds
  refine ⟨source, target, direct.switchOff switched, fun tested inverse some => ?_⟩
  exact (back (switched.testsInverse tested) inverse some).switchOff switched

theorem DomainHolds.switchOff (holds : DomainHolds full sample operation) :
    DomainHolds reduced sample operation := by
  unfold DomainHolds
  rw [switched.tolerance_eq, switched.gridSize_eq, switched.modifier_eq]
  exact holds

theorem ChecksHold.switchOff (holds : ChecksHold full sample operation) :
    ChecksHold reduced sample operation := by
  obtain ⟨sampleHolds, consistencyHolds, domainHolds⟩ := holds
  refine ⟨sampleHolds.switchOff switched, fun enabled => ?_, fun enabled tested => ?_⟩
  · exact consistencyHolds (switched.checksConsistency enabled)
  · exact (domainHolds (switched.checksDomain enabled) (switched.testsInverse tested)).switchOff
      switched

end FewerChecks

/-! ## Hidden inverses -/

/-- The operations differ at most in their inverses. -/
structure AgreeForward (first second : Operation) : Prop where
  name_eq : first.name = second.name
  sourceDimensions_eq : first.sourceDimensions = second.sourceDimensions
  targetDimensions_eq : first.targetDimensions = second.targetDimensions
  transform_eq : ∀ points, first.transform points = second.transform points

section HiddenInverses

variable [SizeArithmetic] {first second : Operation} (agree : AgreeForward first second)

include agree

theorem transformChecked_congr (points : List Float) :
    first.transformChecked points = second.transformChecked points := by
  unfold Operation.transformChecked Operation.expectedLength
  rw [agree.transform_eq, agree.name_eq, agree.sourceDimensions_eq, agree.targetDimensions_eq]

theorem transformSingly_congr (points : List (List Float)) :
    TestCase.transformSingly first points = TestCase.transformSingly second points := by
  induction points with
  | nil => rfl
  | cons point points inductionHypothesis =>
      simp only [TestCase.transformSingly]
      rw [transformChecked_congr agree, inductionHypothesis]

theorem verifyConsistency_congr (points : List Float) :
    TestCase.verifyConsistency points first = TestCase.verifyConsistency points second := by
  unfold TestCase.verifyConsistency
  simp only [agree.sourceDimensions_eq, agree.targetDimensions_eq, transformChecked_congr agree,
    transformSingly_congr agree]

variable {test : TestCase} (off : test.configuration.testsInverse = false)

include off

theorem verifySample_congr (sample : Sample) :
    test.verifySample sample first = test.verifySample sample second := by
  unfold TestCase.verifySample TestCase.verifyTransform
  simp only [off, agree.sourceDimensions_eq, agree.targetDimensions_eq,
    transformChecked_congr agree]

/-- The domain check is the only other one that asks for an inverse, and it is not made. -/
theorem verify_congr (sample : Sample) :
    test.verify sample first = test.verify sample second := by
  rw [verify_eq, verify_eq, verifySample_congr agree off, verifyConsistency_congr agree, off,
    Bool.and_false]
  rfl

theorem compare_congr (target : Int) : test.compare target first = test.compare target second := by
  unfold TestCase.compare
  simp only [verify_congr agree off]

end HiddenInverses

/-! ## Result -/

/-- Switches that are turned off keep a candidate passing, and without inverse transforms a result
says nothing about the inverse of a candidate. -/
theorem compare_switches [SizeArithmetic] :
    (∀ full reduced : TestCase, SwitchesOff full reduced → ∀ target operation,
      full.compare target operation = .ok .passed →
        reduced.compare target operation = .ok .passed) ∧
    (∀ test : TestCase, test.configuration.testsInverse = false →
      ∀ target first second, AgreeForward first second →
        test.compare target first = test.compare target second) := by
  constructor
  · intro full reduced switched target operation passed
    obtain ⟨sample, registered, same, holds⟩ := compare_eq_passed_iff.mp passed
    exact compare_eq_passed_iff.mpr ⟨sample, registered, same, holds.switchOff switched⟩
  · intro test off target first second agree
    exact compare_congr agree off target

/-- The control points of Makassar as published, and all other points left where they are. -/
def tabulatedMakassar : Projection where
  project point :=
    if point.longitude == 110.0 && point.latitude == 0.0 then some ⟨3900000.0, 900000.0⟩
    else if point.longitude == 120.0 && point.latitude == -3.0 then some ⟨5009726.58, 569150.82⟩
    else some ⟨point.longitude, point.latitude⟩
  unproject point :=
    if point.x == 3900000.0 then some ⟨0.0, 110.0⟩
    else if point.x == 5009726.58 then some ⟨-3.0, 120.0⟩
    else some ⟨point.y, point.x⟩

def tabulated : Operation :=
  .projected (.forward "tabulated" tabulatedMakassar)

/-- The forward direction of the table, with an inverse that gives nothing. -/
def tabulatedForward : Operation :=
  .custom "tabulated" 2 2 tabulated.transform
    (some (.custom "broken" 2 2 (fun _ => none) none))

/-- A test with the given switches, and with tolerances as they are. -/
def switchedTest (testsInverse checksConsistency checksDomain : Bool)
    (valid : (Configuration.mk 0.01 testsInverse checksConsistency checksDomain 2).validate =
      .ok ()) : TestCase :=
  ⟨⟨0.01, testsInverse, checksConsistency, checksDomain, 2⟩, valid, .empty⟩

set_option maxRecDepth 2000 in
/-- The table passes all checks, so it does without the domain check. Its inverse is only looked at
if inverse transforms are tested. -/
theorem compare_switches_tabulated :
    (switchedTest true true true rfl).compare 3002 tabulated = .ok .passed ∧
      (switchedTest true true false rfl).compare 3002 tabulated = .ok .passed ∧
      (switchedTest false true true rfl).compare 3002 tabulated =
        (switchedTest false true true rfl).compare 3002 tabulatedForward := by
  have sampleHolds : (switchedTest true true true rfl).verifySample Sample.all[0] tabulated =
      .ok () := by rfl
  have consistencyHolds : TestCase.verifyConsistency Sample.all[0].sourcePoints tabulated =
      .ok () := by rfl
  have domainHolds : (switchedTest true true true rfl).verifyInDomain Sample.all[0] tabulated =
      .ok () := by rfl
  have holds : ChecksHold (switchedTest true true true rfl) Sample.all[0] tabulated :=
    ⟨((decides_verifySample _).ok_iff ()).mp sampleHolds,
      fun _ => ((decides_verifyConsistency _ _).ok_iff ()).mp consistencyHolds,
      fun _ _ => (decides_verifyInDomain.ok_iff ()).mp domainHolds⟩
  have passed : (switchedTest true true true rfl).compare 3002 tabulated = .ok .passed :=
    compare_eq_passed_iff.mpr ⟨Sample.all[0], List.getElem_mem _, rfl, holds⟩
  have switched : SwitchesOff (switchedTest true true true rfl)
      (switchedTest true true false rfl) := by
    refine ⟨?_, ?_, ?_, ?_, ?_⟩ <;> simp [switchedTest]
  have agree : AgreeForward tabulated tabulatedForward := ⟨rfl, rfl, rfl, fun _ => rfl⟩
  obtain ⟨fewer, hidden⟩ := compare_switches
  exact ⟨passed, fewer _ _ switched 3002 tabulated passed,
    hidden (switchedTest false true true rfl) rfl 3002 tabulated tabulatedForward agree⟩

end CoordinateConformance
