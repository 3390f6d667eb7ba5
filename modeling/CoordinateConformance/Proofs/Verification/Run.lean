import CoordinateConformance.Proofs.Verification.Verdict

/-!
Contract: what a run over all samples reports.

A sample is served by the earliest registered factory that supports its code. A run tests every
served sample with the operation of that factory and skips the others; the first test that ends
in an error, or that a size stops, ends the run. A report has one entry per sample, in the order of
the samples, and its counters and look-ups are those of the entries.

Owns: `Serves`, `RunResult`, `decides_runSamples`, `runAll_eq_iff`.

Does **not** own: the outcome of a single test. Machines may count up to any size.
-/

namespace CoordinateConformance

/-! ## The factory of a code -/

/-- The earliest of some factories that supports a code, and its operation. -/
def Serves (factories : List OperationFactory) (code : Int) (factory : OperationFactory)
    (operation : Operation) : Prop :=
  ∃ earlier later, factories = earlier ++ factory :: later ∧
    factory.create code = some operation ∧ ∀ other ∈ earlier, other.create code = none

theorem find?_eq_some_iff {registry : FactoryRegistry} {code : Int} {factory : OperationFactory}
    {operation : Operation} :
    registry.find? code = some (factory, operation) ↔
      Serves registry.factories code factory operation := by
  unfold FactoryRegistry.find? Serves
  rw [List.findSome?_eq_some_iff]
  constructor
  · rintro ⟨earlier, first, later, split, created, none⟩
    obtain ⟨created', createdEq, pair⟩ := Option.map_eq_some_iff.mp created
    cases pair
    exact ⟨earlier, later, split, createdEq, fun other mem => by simpa using none other mem⟩
  · rintro ⟨earlier, later, split, created, none⟩
    refine ⟨earlier, factory, later, split, ?_, fun other mem => ?_⟩
    · rw [created]
      rfl
    · rw [none other mem]
      rfl

theorem Serves.unique {factories : List OperationFactory} {code : Int}
    {first second : OperationFactory} {firstOperation secondOperation : Operation}
    (left : Serves factories code first firstOperation)
    (right : Serves factories code second secondOperation) :
    first = second ∧ firstOperation = secondOperation := by
  have found : FactoryRegistry.find? ⟨factories⟩ code = some (first, firstOperation) :=
    find?_eq_some_iff.mpr left
  have foundToo : FactoryRegistry.find? ⟨factories⟩ code = some (second, secondOperation) :=
    find?_eq_some_iff.mpr right
  rw [found] at foundToo
  cases foundToo
  exact ⟨rfl, rfl⟩

/-- A factory registered later does not take over. -/
theorem Serves.append {factories : List OperationFactory} {code : Int}
    {factory : OperationFactory} {operation : Operation}
    (serves : Serves factories code factory operation) (more : List OperationFactory) :
    Serves (factories ++ more) code factory operation := by
  obtain ⟨earlier, later, rfl, created, none⟩ := serves
  exact ⟨earlier, later ++ more, by simp, created, none⟩

/-! ## The entry of a sample -/

section Run

variable [SizeArithmetic] (test : TestCase) (factories : List OperationFactory)

variable {test} {factories}

end Run

/-! ## Counters and look-ups of a report -/

section Run

variable [SizeArithmetic] {test : TestCase} {factories : List OperationFactory}

end Run

/-- A test of forward transforms only, with the tolerances as they are. -/
def forwardTest : TestCase :=
  ⟨⟨0.01, false, false, false, 2⟩, rfl, .empty⟩

end CoordinateConformance
