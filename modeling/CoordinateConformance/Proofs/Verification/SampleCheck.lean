import CoordinateConformance.Proofs.Comparison.Result
import CoordinateConformance.Proofs.Verification.Decides
import CoordinateConformance.Verification.TestCase

/-!
Contract: what the sample check requires, and which error reports a violation.

A requirement is a pair of predicates: when it holds, and what the check ends with if it does not,
an error or a panic. They are stated by transforms, lengths and elements, without the programs that
check them. Lengths are natural numbers; that a machine can compute with one is a requirement of its
own. Within a check the first requirement that is violated is the one that is reported.

Owns: `decides_transformChecked`, `decides_verifySample`.

Does **not** own: the other checks, and the outcome of a test.
-/

namespace CoordinateConformance

open Comparison (Agree)
open SizeArithmetic (fits)

/-! ## Transforms -/

namespace Operation

/-- The number of values that the declared dimensions ask for, however large. -/
def exactLength (operation : Operation) (length : Nat) : Nat :=
  length / max operation.sourceDimensions 1 * operation.targetDimensions

theorem exactLength_of_axes {operation : Operation} (axes : operation.sourceDimensions ≠ 0)
    (length : Nat) : operation.exactLength length =
      length / operation.sourceDimensions * operation.targetDimensions := by
  unfold exactLength
  rw [max_eq_left (Nat.one_le_iff_ne_zero.mpr axes)]

end Operation

section Transforms

variable [SizeArithmetic]

/-- The operation transforms the points into as many values as it declares. -/
structure Maps (operation : Operation) (points image : List Float) : Prop where
  transform_eq : operation.transform points = some image
  fits : fits (operation.exactLength points.length) = true
  length_eq : image.length = operation.exactLength points.length

/-- The points are not transformed, or into another number of values, or the number of values that
the operation declares is too large. -/
inductive Rejects (operation : Operation) (points : List Float) : Interruption → Prop where
  | missing (none : operation.transform points = none) :
      Rejects operation points (.error (.transformFailed operation.name points))
  | uncountable (image : List Float) (some : operation.transform points = some image)
      (tooLarge : fits (operation.exactLength points.length) = false) :
      Rejects operation points .panic
  | miscounted (image : List Float) (some : operation.transform points = some image)
      (fits : fits (operation.exactLength points.length) = true)
      (differ : image.length ≠ operation.exactLength points.length) :
      Rejects operation points (.error (.dimensionMismatch "transformed coordinates"
        (operation.exactLength points.length) image.length))

theorem decides_expectedLength (operation : Operation) (length : Nat) :
    Decides (operation.expectedLength length)
      (fun value => fits (operation.exactLength length) = true ∧
        value = operation.exactLength length)
      (fun stop => fits (operation.exactLength length) = false ∧ stop = .panic) :=
  decides_product _ _

theorem decides_transformChecked (operation : Operation) (points : List Float) :
    Decides (operation.transformChecked points) (Maps operation points)
      (Rejects operation points) := by
  unfold Operation.transformChecked
  cases transformed : operation.transform points with
  | none =>
      refine (Decides.error _).congr (fun image => ?_) (fun stop => ?_)
      · refine ⟨False.elim, fun maps => ?_⟩
        simp [maps.transform_eq] at transformed
      · constructor
        · rintro rfl
          exact .missing transformed
        · intro rejects
          cases rejects with
          | missing => rfl
          | uncountable image some => simp [transformed] at some
          | miscounted image some => simp [transformed] at some
  | some image =>
      refine ((decides_expectedLength operation points.length).bind fun expected _ =>
        (decides_checkDimension "transformed coordinates" expected image.length).bind
          fun _ _ => Decides.ok image).congr (fun result => ?_) (fun stop => ?_)
      · constructor
        · rintro ⟨_, ⟨fits, rfl⟩, _, same, rfl⟩
          exact ⟨transformed, fits, same.symm⟩
        · rintro ⟨some, fits, same⟩
          rw [transformed] at some
          cases some
          exact ⟨_, ⟨fits, rfl⟩, (), same.symm, rfl⟩
      · constructor
        · rintro (⟨tooLarge, rfl⟩ | ⟨_, ⟨fits, rfl⟩, ⟨differ, rfl⟩ | ⟨_, _, impossible⟩⟩)
          · exact .uncountable image transformed tooLarge
          · exact .miscounted image transformed fits (Ne.symm differ)
          · exact impossible.elim
        · intro rejects
          cases rejects with
          | missing none => simp [transformed] at none
          | uncountable other some tooLarge => exact Or.inl ⟨tooLarge, rfl⟩
          | miscounted other some fits differ =>
              rw [transformed] at some
              cases some
              exact Or.inr ⟨_, ⟨fits, rfl⟩, Or.inl ⟨Ne.symm differ, rfl⟩⟩

end Transforms

theorem decides_compareWithModifier (expected actual tolerances : List Float) (dimension : Nat)
    (modifier : ToleranceModifier) (calculation : Calculation) :
    Decides (compareWithModifier expected actual tolerances dimension modifier calculation)
      (fun _ => Agree expected actual tolerances dimension modifier calculation)
      (fun error =>
        Comparison.Result expected actual tolerances dimension modifier calculation
          (.error error)) where
  ok_iff _ := Comparison.agree_iff
  error_iff _ := Comparison.error_iff

/-! ## The sample check -/

section Sample

variable [SizeArithmetic] (test : TestCase) (sample : Sample)

/-- The points are transformed to the expected ones, within the adjusted tolerances. -/
def LegHolds (operation : Operation) (points expected : List Float) (calculation : Calculation) :
    Prop :=
  ∃ actual, Maps operation points actual ∧
    Agree expected actual (List.replicate 2 test.configuration.tolerance) 2 (test.modifier sample)
      calculation

inductive LegViolated (operation : Operation) (points expected : List Float)
    (calculation : Calculation) : Interruption → Prop where
  | transform {stop : Interruption} (rejects : Rejects operation points stop) :
      LegViolated operation points expected calculation stop
  | comparison {error : ConformanceError} (actual : List Float)
      (maps : Maps operation points actual)
      (result : Comparison.Result expected actual (List.replicate 2 test.configuration.tolerance) 2
        (test.modifier sample) calculation (.error error)) :
      LegViolated operation points expected calculation (.error error)

/-- The operation is one between planes, it maps the control points to their images, and its
inverse, where that is tested and there is one, maps the images to the control points. -/
structure SampleHolds (operation : Operation) : Prop where
  source : operation.sourceDimensions = 2
  target : operation.targetDimensions = 2
  direct : LegHolds test sample operation sample.sourcePoints sample.targetPoints .direct
  back : test.configuration.testsInverse = true → ∀ inverse, operation.inverse? = some inverse →
    LegHolds test sample inverse sample.targetPoints sample.sourcePoints .inverse

inductive SampleViolated (operation : Operation) : Interruption → Prop where
  | source (differ : operation.sourceDimensions ≠ 2) :
      SampleViolated operation
        (.error (.dimensionMismatch "operation source dimensions" 2 operation.sourceDimensions))
  | target (source : operation.sourceDimensions = 2) (differ : operation.targetDimensions ≠ 2) :
      SampleViolated operation
        (.error (.dimensionMismatch "operation target dimensions" 2 operation.targetDimensions))
  | direct {stop : Interruption} (source : operation.sourceDimensions = 2)
      (target : operation.targetDimensions = 2)
      (violated : LegViolated test sample operation sample.sourcePoints sample.targetPoints .direct
        stop) :
      SampleViolated operation stop
  | back {stop : Interruption} (source : operation.sourceDimensions = 2)
      (target : operation.targetDimensions = 2)
      (direct : LegHolds test sample operation sample.sourcePoints sample.targetPoints .direct)
      (tested : test.configuration.testsInverse = true) (inverse : Operation)
      (some : operation.inverse? = some inverse)
      (violated : LegViolated test sample inverse sample.targetPoints sample.sourcePoints .inverse
        stop) :
      SampleViolated operation stop

variable {test} {sample}

theorem decides_verifyTransform (operation : Operation) (points expected : List Float)
    (calculation : Calculation) :
    Decides (test.verifyTransform sample operation points expected calculation)
      (fun _ => LegHolds test sample operation points expected calculation)
      (LegViolated test sample operation points expected calculation) := by
  refine ((decides_transformChecked operation points).bind fun actual _ =>
    (decides_compareWithModifier expected actual _ _ _ calculation).ofResult).congr
      (fun _ => Iff.rfl) (fun stop => ?_)
  constructor
  · rintro (rejects | ⟨actual, maps, _, result, rfl⟩)
    · exact .transform rejects
    · exact .comparison actual maps result
  · intro violated
    cases violated with
    | transform rejects => exact Or.inl rejects
    | comparison actual maps result => exact Or.inr ⟨actual, maps, _, result, rfl⟩

/-- The way back is only looked at if it is tested and there is an inverse. -/
theorem decides_back (operation : Operation) :
    Decides
      (match test.configuration.testsInverse, operation.inverse? with
        | true, some inverse =>
            test.verifyTransform sample inverse sample.targetPoints sample.sourcePoints .inverse
        | _, _ => (.ok () : Check Unit))
      (fun _ => test.configuration.testsInverse = true →
        ∀ inverse, operation.inverse? = some inverse →
          LegHolds test sample inverse sample.targetPoints sample.sourcePoints .inverse)
      (fun stop => test.configuration.testsInverse = true ∧
        ∃ inverse, operation.inverse? = some inverse ∧
          LegViolated test sample inverse sample.targetPoints sample.sourcePoints .inverse
            stop) := by
  cases test.configuration.testsInverse with
  | false => exact (Decides.ok ()).congr (by simp) (by simp)
  | true =>
      cases operation.inverse? with
      | none => exact (Decides.ok ()).congr (by simp) (by simp)
      | some inverse =>
          exact (decides_verifyTransform inverse _ _ _).congr (by simp) (by simp)

theorem decides_verifySample (operation : Operation) :
    Decides (test.verifySample sample operation)
      (fun _ => SampleHolds test sample operation) (SampleViolated test sample operation) := by
  refine ((decides_checkDimension _ _ _).bind fun _ _ => (decides_checkDimension _ _ _).bind
    fun _ _ => (decides_verifyTransform operation _ _ _).bind fun _ _ =>
      decides_back operation).congr (fun _ => ?_) (fun stop => ?_)
  · constructor
    · rintro ⟨_, source, _, target, _, direct, back⟩
      exact ⟨source.symm, target.symm, direct, back⟩
    · rintro ⟨source, target, direct, back⟩
      exact ⟨(), source.symm, (), target.symm, (), direct, back⟩
  · constructor
    · rintro (⟨differ, rfl⟩ | ⟨_, source, ⟨differ, rfl⟩ | ⟨_, target, violated | later⟩⟩)
      · exact .source (Ne.symm differ)
      · exact .target source.symm (Ne.symm differ)
      · exact .direct source.symm target.symm violated
      · obtain ⟨_, direct, tested, inverse, some, violated⟩ := later
        exact .back source.symm target.symm direct tested inverse some violated
    · intro violated
      cases violated with
      | source differ => exact Or.inl ⟨Ne.symm differ, rfl⟩
      | target source differ => exact Or.inr ⟨(), source.symm, Or.inl ⟨Ne.symm differ, rfl⟩⟩
      | direct source target violated =>
          exact Or.inr ⟨(), source.symm, Or.inr ⟨(), target.symm, Or.inl violated⟩⟩
      | back source target direct tested inverse some violated =>
          exact Or.inr ⟨(), source.symm, Or.inr ⟨(), target.symm,
            Or.inr ⟨(), direct, tested, inverse, some, violated⟩⟩⟩

end Sample

/-! ## Exact sizes -/

section Exact

open scoped ExactSizes

theorem not_rejects_panic {operation : Operation} {points : List Float} :
    ¬Rejects operation points .panic := by
  intro rejects
  cases rejects with
  | uncountable image some tooLarge => simp at tooLarge

variable {test : TestCase} {sample : Sample} {operation : Operation}

theorem not_legViolated_panic {points expected : List Float} {calculation : Calculation} :
    ¬LegViolated test sample operation points expected calculation .panic := by
  intro violated
  cases violated with
  | transform rejects => exact not_rejects_panic rejects

theorem not_sampleViolated_panic : ¬SampleViolated test sample operation .panic := by
  intro violated
  cases violated with
  | direct _ _ violated => exact not_legViolated_panic violated
  | back _ _ _ _ _ _ violated => exact not_legViolated_panic violated

end Exact

end CoordinateConformance
