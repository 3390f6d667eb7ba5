import CoordinateConformance.Proofs.Verification.ConsistencyCheck
import CoordinateConformance.Proofs.Verification.DomainCheck

/-!
Contract: what a test decides.

The enabled checks are taken in the order sample, consistency, domain, the domain check only if
inverse transforms are tested. A test passes if all of them hold. Otherwise the first violation
is the verdict: an axis out of tolerance or a missing image is a failure of the candidate, any
other error is a misuse of the test. A size that a machine cannot compute with ends the test
without a verdict; over exact sizes there always is one.

Owns: `Verdict`, `decides_verify`, `compare_eq_passed_iff`, `compare_eq_iff`.

Does **not** own: what a single check requires.
-/

namespace CoordinateConformance

section Checks

variable [SizeArithmetic] (test : TestCase) (sample : Sample) (operation : Operation)

/-- All enabled checks hold. -/
structure ChecksHold : Prop where
  sampleHolds : SampleHolds test sample operation
  consistencyHolds : test.configuration.checksConsistency = true →
    ConsistencyHolds sample.sourcePoints operation
  domainHolds : test.configuration.checksDomain = true → test.configuration.testsInverse = true →
    DomainHolds test sample operation

/-- The first enabled check that does not hold reports the error. -/
inductive ChecksViolated : Interruption → Prop where
  | sample {stop : Interruption} (violated : SampleViolated test sample operation stop) :
      ChecksViolated stop
  | consistency {stop : Interruption} (sampleHolds : SampleHolds test sample operation)
      (enabled : test.configuration.checksConsistency = true)
      (violated : ConsistencyViolated sample.sourcePoints operation stop) :
      ChecksViolated stop
  | domain {stop : Interruption} (sampleHolds : SampleHolds test sample operation)
      (consistencyHolds : test.configuration.checksConsistency = true →
        ConsistencyHolds sample.sourcePoints operation)
      (enabled : test.configuration.checksDomain = true)
      (tested : test.configuration.testsInverse = true)
      (violated : DomainViolated test sample operation stop) :
      ChecksViolated stop

end Checks

/-- The result of a test of an operation against the sample of a code. -/
inductive Verdict [SizeArithmetic] (test : TestCase) (target : Int) (operation : Operation) :
    Check Outcome → Prop where
  | unknown (absent : ∀ sample ∈ Sample.all, sample.target ≠ target) :
      Verdict test target operation (.error (.error (.unknownSample target)))
  | passed (sample : Sample) (registered : sample ∈ Sample.all) (same : sample.target = target)
      (holds : ChecksHold test sample operation) :
      Verdict test target operation (.ok .passed)
  | outOfTolerance (sample : Sample) (registered : sample ∈ Sample.all)
      (same : sample.target = target) (failure : ComparisonFailure)
      (violated : ChecksViolated test sample operation (.error (.toleranceExceeded failure))) :
      Verdict test target operation (.ok (.failed (.tolerance failure)))
  | untransformed (sample : Sample) (registered : sample ∈ Sample.all)
      (same : sample.target = target) (name : String) (coordinates : List Float)
      (violated : ChecksViolated test sample operation
        (.error (.transformFailed name coordinates))) :
      Verdict test target operation (.ok (.failed (.transform name coordinates)))
  | misuse (sample : Sample) (registered : sample ∈ Sample.all) (same : sample.target = target)
      (error : ConformanceError) (violated : ChecksViolated test sample operation (.error error))
      (notFailure : error.isTestFailure = false) :
      Verdict test target operation (.error (.error error))
  | tooLarge (sample : Sample) (registered : sample ∈ Sample.all) (same : sample.target = target)
      (violated : ChecksViolated test sample operation .panic) :
      Verdict test target operation (.error .panic)

/-! ## The checks of a sample -/

/-- A check that need not be enabled. -/
theorem Decides.when {program : Check Unit} {holds : Prop} {violated : Interruption → Prop}
    (decides : Decides program (fun _ => holds) violated) (enabled : Bool) :
    Decides (if enabled then program else .ok ()) (fun _ => enabled = true → holds)
      (fun stop => enabled = true ∧ violated stop) := by
  cases enabled with
  | true => exact decides.congr (by simp) (by simp)
  | false => exact (Decides.ok ()).congr (by simp) (by simp)

theorem verify_eq [SizeArithmetic] (test : TestCase) (sample : Sample) (operation : Operation) :
    test.verify sample operation =
      (test.verifySample sample operation >>= fun _ =>
        (if test.configuration.checksConsistency then
          TestCase.verifyConsistency sample.sourcePoints operation
        else .ok ()) >>= fun _ =>
        if test.configuration.checksDomain && test.configuration.testsInverse then
          test.verifyInDomain sample operation
        else .ok ()) := by
  unfold TestCase.verify
  -- the enabled and the disabled branch share their continuation
  cases test.configuration.checksConsistency <;> rfl

theorem decides_verify [SizeArithmetic] (test : TestCase) (sample : Sample)
    (operation : Operation) :
    Decides (test.verify sample operation) (fun _ => ChecksHold test sample operation)
      (ChecksViolated test sample operation) := by
  rw [verify_eq]
  refine ((decides_verifySample operation).bind fun _ _ =>
    ((decides_verifyConsistency sample.sourcePoints operation).when _).bind fun _ _ =>
      decides_verifyInDomain.when _).congr (fun _ => ?_) (fun stop => ?_)
  · constructor
    · rintro ⟨_, sampleHolds, _, consistencyHolds, domainHolds⟩
      refine ⟨sampleHolds, consistencyHolds, fun enabled tested => domainHolds ?_⟩
      rw [enabled, tested, Bool.and_self]
    · rintro ⟨sampleHolds, consistencyHolds, domainHolds⟩
      refine ⟨(), sampleHolds, (), consistencyHolds, fun enabled => ?_⟩
      rw [Bool.and_eq_true] at enabled
      exact domainHolds enabled.1 enabled.2
  · constructor
    · rintro (violated | ⟨_, sampleHolds, ⟨enabled, violated⟩ | ⟨_, consistencyHolds, later⟩⟩)
      · exact .sample violated
      · exact .consistency sampleHolds enabled violated
      · obtain ⟨enabled, violated⟩ := later
        rw [Bool.and_eq_true] at enabled
        exact .domain sampleHolds consistencyHolds enabled.1 enabled.2 violated
    · intro violated
      cases violated with
      | sample violated => exact Or.inl violated
      | consistency sampleHolds enabled violated =>
          exact Or.inr ⟨(), sampleHolds, Or.inl ⟨enabled, violated⟩⟩
      | domain sampleHolds consistencyHolds enabled tested violated =>
          refine Or.inr ⟨(), sampleHolds, Or.inr ⟨(), consistencyHolds, ?_, violated⟩⟩
          rw [enabled, tested, Bool.and_self]

/-! ## The sample of a code -/

theorem nodup_targets : (Sample.all.map Sample.target).Nodup := by
  have targets : Sample.all.map Sample.target =
      [3002, 3388, 3857, 24200, 32040, 31300, 3035, 310642901] := rfl
  rw [targets]
  decide

/-- A code has at most one sample. -/
theorem get_eq_ok_iff {target : Int} {sample : Sample} :
    Sample.get target = .ok sample ↔ sample ∈ Sample.all ∧ sample.target = target := by
  unfold Sample.get
  constructor
  · intro found
    split at found
    next first firstEq =>
      cases found
      exact ⟨List.mem_of_find?_eq_some firstEq, by simpa using List.find?_some firstEq⟩
    next => cases found
  · rintro ⟨registered, rfl⟩
    split
    next first firstEq =>
      have same : first.target = sample.target := by simpa using List.find?_some firstEq
      have equal := List.inj_on_of_nodup_map nodup_targets
        (List.mem_of_find?_eq_some firstEq) registered same
      rw [equal]
    next none =>
      have differs := List.find?_eq_none.mp none sample registered
      simp at differs

theorem get_eq_error {target : Int}
    (absent : ∀ sample ∈ Sample.all, sample.target ≠ target) :
    Sample.get target = .error (.unknownSample target) := by
  unfold Sample.get
  rw [List.find?_eq_none.mpr (by simpa using absent)]

/-! ## The verdict -/

section Verdict

variable [SizeArithmetic] {test : TestCase} {target : Int} {operation : Operation}

theorem compare_of_absent (absent : ∀ sample ∈ Sample.all, sample.target ≠ target) :
    test.compare target operation = .error (.error (.unknownSample target)) := by
  unfold TestCase.compare
  rw [get_eq_error absent]
  rfl

theorem compare_of_registered {sample : Sample} (registered : sample ∈ Sample.all)
    (same : sample.target = target) :
    test.compare target operation =
      (test.verify sample operation).mapResult Outcome.ofResult := by
  unfold TestCase.compare
  rw [get_eq_ok_iff.mpr ⟨registered, same⟩]
  rfl

theorem verdict_compare : Verdict test target operation (test.compare target operation) := by
  by_cases absent : ∀ sample ∈ Sample.all, sample.target ≠ target
  · rw [compare_of_absent absent]
    exact .unknown absent
  · push Not at absent
    obtain ⟨sample, registered, same⟩ := absent
    rw [compare_of_registered registered same]
    have decides := decides_verify test sample operation
    cases run : test.verify sample operation with
    | ok _ => exact .passed sample registered same ((decides.ok_iff ()).mp run)
    | error stop =>
        have violated := (decides.error_iff stop).mp run
        cases stop with
        | panic => exact .tooLarge sample registered same violated
        | error error =>
            cases error with
            | toleranceExceeded failure =>
                exact .outOfTolerance sample registered same failure violated
            | transformFailed name coordinates =>
                exact .untransformed sample registered same name coordinates violated
            | _ => exact .misuse sample registered same _ violated rfl

theorem Verdict.compare_eq {result : Check Outcome}
    (verdict : Verdict test target operation result) :
    test.compare target operation = result := by
  cases verdict with
  | unknown absent => exact compare_of_absent absent
  | passed sample registered same holds =>
      rw [compare_of_registered registered same,
        ((decides_verify test sample operation).ok_iff ()).mpr holds]
      rfl
  | outOfTolerance sample registered same failure violated =>
      rw [compare_of_registered registered same,
        ((decides_verify test sample operation).error_iff _).mpr violated]
      rfl
  | untransformed sample registered same name coordinates violated =>
      rw [compare_of_registered registered same,
        ((decides_verify test sample operation).error_iff _).mpr violated]
      rfl
  | misuse sample registered same error violated notFailure =>
      rw [compare_of_registered registered same,
        ((decides_verify test sample operation).error_iff _).mpr violated]
      cases error <;> first | rfl | cases notFailure
  | tooLarge sample registered same violated =>
      rw [compare_of_registered registered same,
        ((decides_verify test sample operation).error_iff _).mpr violated]
      rfl

/-- A candidate passes if all enabled checks hold. -/
theorem compare_eq_passed_iff : test.compare target operation = .ok .passed ↔
    ∃ sample ∈ Sample.all, sample.target = target ∧ ChecksHold test sample operation := by
  constructor
  · intro passed
    have verdict : Verdict test target operation (test.compare target operation) := verdict_compare
    rw [passed] at verdict
    cases verdict with
    | passed sample registered same holds => exact ⟨sample, registered, same, holds⟩
  · rintro ⟨sample, registered, same, holds⟩
    exact (Verdict.passed sample registered same holds).compare_eq

end Verdict

section Exact

open scoped ExactSizes

theorem not_checksViolated_panic {test : TestCase} {sample : Sample} {operation : Operation} :
    ¬ChecksViolated test sample operation .panic := by
  intro violated
  cases violated with
  | sample violated => exact not_sampleViolated_panic violated
  | consistency _ _ violated => exact not_consistencyViolated_panic violated
  | domain _ _ _ _ violated => exact not_domainViolated_panic violated

theorem not_verdict_panic {test : TestCase} {target : Int} {operation : Operation} :
    ¬Verdict test target operation (.error .panic) := by
  intro verdict
  cases verdict with
  | tooLarge _ _ _ violated => exact not_checksViolated_panic violated

end Exact

/-- The result of every test, for all configurations, modifiers, codes and operations. A test only
ends without a verdict if a size is too large for the machine, which no size is if sizes are natural
numbers. -/
theorem compare_eq_iff (test : TestCase) (target : Int) (operation : Operation) :
    (∀ [SizeArithmetic] (result : Check Outcome),
      test.compare target operation = result ↔ Verdict test target operation result) ∧
    ∃ result : Except ConformanceError Outcome,
      @TestCase.compare .exact test target operation = .ofResult result := by
  constructor
  · intro _ result
    constructor
    · rintro rfl
      exact verdict_compare
    · exact Verdict.compare_eq
  · cases run : @TestCase.compare .exact test target operation with
    | ok outcome => exact ⟨.ok outcome, rfl⟩
    | error stop =>
        cases stop with
        | error error => exact ⟨.error error, rfl⟩
        | panic => exact absurd (run ▸ @verdict_compare .exact _ _ _) not_verdict_panic

end CoordinateConformance
