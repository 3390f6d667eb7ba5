import CoordinateConformance.SizeArithmetic
import Mathlib.Data.List.Forall2

/-!
Contract: exact specifications of fallible programs.

A program decides a specification if it succeeds with exactly the values that the
specification allows and fails with exactly the errors that it allows. Specifications of a
sequence are put together from those of its steps, the errors of a later step only counting
once the earlier steps have succeeded. A panic is an error like any other here, except that no
program that only returns errors has it.

Owns: `Decides`, `Decides.bind`, `Decides.ofResult`, `decides_product`, `decides_reserve`.

Does **not** own: any check.
-/

namespace CoordinateConformance

/-- Success and failure of a program are characterised, each in both directions. -/
structure Decides {ε α : Type} (program : Except ε α) (yields : α → Prop)
    (rejects : ε → Prop) : Prop where
  ok_iff : ∀ value, program = .ok value ↔ yields value
  error_iff : ∀ error, program = .error error ↔ rejects error

namespace Decides

variable {ε α β : Type} {program : Except ε α} {yields : α → Prop} {rejects : ε → Prop}

theorem ok (value : α) :
    Decides (.ok value : Except ε α) (fun result => result = value) (fun _ => False) where
  ok_iff result := by simp [eq_comm]
  error_iff error := by simp

theorem error (error : ε) :
    Decides (.error error : Except ε α) (fun _ => False)
      (fun result => result = error) where
  ok_iff value := by simp
  error_iff result := by simp [eq_comm]

/-- Specifications may be replaced by equivalent ones. -/
theorem congr (decides : Decides program yields rejects) {yields' : α → Prop}
    {rejects' : ε → Prop} (sameYields : ∀ value, yields value ↔ yields' value)
    (sameRejects : ∀ error, rejects error ↔ rejects' error) :
    Decides program yields' rejects' where
  ok_iff value := (decides.ok_iff value).trans (sameYields value)
  error_iff error := (decides.error_iff error).trans (sameRejects error)

/-- A program succeeds or fails, and does not do both. -/
theorem exists_yields_iff (decides : Decides program yields rejects) :
    (∃ value, yields value) ↔ ∀ error, ¬rejects error := by
  simp only [← decides.ok_iff, ← decides.error_iff]
  cases program <;> simp

/-- The second step only counts after the first one. -/
theorem bind (decides : Decides program yields rejects) {next : α → Except ε β}
    {nextYields : α → β → Prop} {nextRejects : α → ε → Prop}
    (nextDecides : ∀ value, yields value →
      Decides (next value) (nextYields value) (nextRejects value)) :
    Decides (program >>= next) (fun result => ∃ value, yields value ∧ nextYields value result)
      (fun error => rejects error ∨ ∃ value, yields value ∧ nextRejects value error) := by
  -- what the first step allows is what it returns, so its run settles both specifications
  cases run : program with
  | ok value =>
      have rest := nextDecides value ((decides.ok_iff value).mp run)
      refine rest.congr (fun result => ?_) (fun error => ?_)
      · simp [← decides.ok_iff, run]
      · simp [← decides.ok_iff, ← decides.error_iff, run]
  | error fault =>
      refine (Decides.error fault).congr (fun result => ?_) (fun error => ?_)
      · simp [← decides.ok_iff, run]
      · simp [← decides.ok_iff, ← decides.error_iff, run, eq_comm]

/-- A program that returns errors has these as a check, and it does not panic. -/
theorem ofResult {program : Except ConformanceError α} {rejects : ConformanceError → Prop}
    (decides : Decides program yields rejects) :
    Decides (Check.ofResult program) yields
      (fun stop => ∃ error, rejects error ∧ stop = .error error) := by
  cases run : program with
  | ok value =>
      have noError : ∀ error, ¬rejects error := by
        rw [← decides.exists_yields_iff]
        exact ⟨value, (decides.ok_iff value).mp run⟩
      refine (Decides.ok value).congr (fun result => ?_) (fun stop => ?_)
      · rw [← decides.ok_iff, run, Except.ok.injEq, eq_comm]
      · simp [noError]
  | error fault =>
      refine (Decides.error _).congr (fun result => ?_) (fun stop => ?_)
      · rw [← decides.ok_iff, run]
        simp
      · simp [← decides.error_iff, run]

end Decides

/-! ## Sizes -/

section Sizes

open SizeArithmetic

variable [SizeArithmetic]

theorem decides_product (first second : Nat) :
    Decides (product first second)
      (fun value => fits (first * second) = true ∧ value = first * second)
      (fun stop => fits (first * second) = false ∧ stop = .panic) := by
  unfold product
  cases fits (first * second) with
  | true => exact (Decides.ok _).congr (by simp) (by simp)
  | false => exact (Decides.error _).congr (by simp) (by simp)

theorem decides_reserve (count : Nat) :
    Decides (reserve count) (fun _ => holds count = true)
      (fun stop => holds count = false ∧ stop = .panic) := by
  unfold reserve
  cases holds count with
  | true => exact (Decides.ok ()).congr (by simp) (by simp)
  | false => exact (Decides.error _).congr (by simp) (by simp)

end Sizes

theorem decides_checkDimension (context : String) (expected actual : Nat) :
    Decides (Check.ofResult (checkDimension context expected actual)) (fun _ => expected = actual)
      (fun stop =>
        expected ≠ actual ∧ stop = .error (.dimensionMismatch context expected actual)) := by
  unfold checkDimension
  by_cases same : expected = actual
  · rw [if_pos same]
    exact (Decides.ok ()).congr (by simp [same]) (by simp [same])
  · rw [if_neg same]
    exact (Decides.error _).congr (by simp [same]) (by simp [same])

end CoordinateConformance
