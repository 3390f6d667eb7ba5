import CoordinateConformance.Operation.Basic
import Mathlib.Data.List.Infix
import Mathlib.Logic.Function.Iterate

/-!
Contract: what remains of an operation after it was inverted a number of times.

An inversion turns the direction round. It takes a mark off the end of the name, or puts one on if
there is none. The direction only depends on the parity of the number of inversions. A name with
several marks first loses them one by one, and only then comes and goes with the parity.

Owns: `exists_stem`, `name_iterate_inverse`, `inversions_parity`.

Does **not** own: whether the two directions of a projection undo each other.
-/

namespace CoordinateConformance

namespace ProjectedOperation

/-! ## Names -/

/-- A number of marks, one after another. -/
def marks : Nat → List Char
  | 0 => []
  | count + 1 => marks count ++ inverseMark

/-- The number of marks after an inversion. -/
def toggled : Nat → Nat
  | 0 => 1
  | count + 1 => count

theorem inverseName_marked (characters : List Char) :
    inverseName (String.ofList (characters ++ inverseMark)) = String.ofList characters := by
  unfold inverseName
  simp only [String.toList_ofList]
  rw [if_pos (List.isSuffixOf_iff_suffix.mpr (List.suffix_append _ _)), List.length_append,
    Nat.add_sub_cancel, List.take_left]

theorem inverseName_unmarked {characters : List Char} (unmarked : ¬inverseMark <:+ characters) :
    inverseName (String.ofList characters) = String.ofList (characters ++ inverseMark) := by
  unfold inverseName
  simp only [String.toList_ofList]
  rw [if_neg (mt List.isSuffixOf_iff_suffix.mp unmarked)]

/-- Every name is a stem, which has no mark at its end, and marks. -/
theorem exists_stem (characters : List Char) :
    ∃ stem count, characters = stem ++ marks count ∧ ¬inverseMark <:+ stem := by
  induction total : characters.length using Nat.strong_induction_on generalizing characters with
  | _ length inductionHypothesis =>
      by_cases marked : inverseMark <:+ characters
      · obtain ⟨shorter, rfl⟩ := marked
        have less : shorter.length < length := by
          rw [← total, List.length_append]
          exact Nat.lt_add_of_pos_right (by decide)
        obtain ⟨stem, count, rfl, unmarked⟩ := inductionHypothesis _ less shorter rfl
        exact ⟨stem, count + 1, List.append_assoc _ _ _, unmarked⟩
      · exact ⟨characters, 0, (List.append_nil _).symm, marked⟩

section Stem

variable {stem : List Char} (unmarked : ¬inverseMark <:+ stem)

include unmarked

theorem inverseName_marks (count : Nat) :
    inverseName (String.ofList (stem ++ marks count)) =
      String.ofList (stem ++ marks (toggled count)) := by
  cases count with
  | zero => simpa [marks, toggled] using inverseName_unmarked unmarked
  | succ count =>
      rw [marks, ← List.append_assoc]
      exact inverseName_marked _

theorem inverseName_iterate_marks (inversions count : Nat) :
    inverseName^[inversions] (String.ofList (stem ++ marks count)) =
      String.ofList (stem ++ marks (toggled^[inversions] count)) := by
  induction inversions with
  | zero => rfl
  | succ inversions inductionHypothesis =>
      rw [Function.iterate_succ_apply', inductionHypothesis, inverseName_marks unmarked,
        Function.iterate_succ_apply']

/-- The marks at the end of a name can be counted. -/
theorem marks_suffix_iff (wanted count : Nat) :
    marks wanted <:+ stem ++ marks count ↔ wanted ≤ count := by
  induction count generalizing wanted with
  | zero =>
      cases wanted with
      | zero => simp [marks]
      | succ wanted =>
          have notSuffix : ¬marks (wanted + 1) <:+ stem ++ marks 0 := by
            intro suffix
            rw [marks, marks, List.append_nil] at suffix
            exact unmarked ((List.suffix_append _ _).trans suffix)
          simpa using notSuffix
  | succ count inductionHypothesis =>
      cases wanted with
      | zero => simp [marks]
      | succ wanted =>
          rw [marks, marks, ← List.append_assoc, List.suffix_append_self_iff,
            inductionHypothesis, Nat.succ_le_succ_iff]

end Stem

theorem marks_injective : Function.Injective marks := by
  have length : ∀ count, (marks count).length = count * inverseMark.length := by
    intro count
    induction count with
    | zero => rw [Nat.zero_mul, marks, List.length_nil]
    | succ count inductionHypothesis =>
        rw [marks, List.length_append, inductionHypothesis, Nat.succ_mul]
  intro first second same
  have lengths : first * inverseMark.length = second * inverseMark.length := by
    rw [← length, ← length, same]
  exact Nat.eq_of_mul_eq_mul_right (by decide) lengths

/-- The marks are used up one by one. -/
theorem toggled_iterate_of_le {inversions count : Nat} (le : inversions ≤ count) :
    toggled^[inversions] count = count - inversions := by
  induction inversions generalizing count with
  | zero => rfl
  | succ inversions inductionHypothesis =>
      obtain ⟨rest, rfl⟩ := Nat.exists_eq_add_of_lt le
      have more : inversions + rest + 1 = (inversions + rest).succ := rfl
      rw [Function.iterate_succ_apply, more, toggled, inductionHypothesis (Nat.le_add_right _ _)]
      omega

/-- Without marks there is one, and none, in turn. -/
@[simp]
theorem toggled_iterate_zero (inversions : Nat) : toggled^[inversions] 0 = inversions % 2 := by
  induction inversions with
  | zero => rfl
  | succ inversions inductionHypothesis =>
      rw [Function.iterate_succ_apply', inductionHypothesis, Nat.add_mod]
      rcases Nat.mod_two_eq_zero_or_one inversions with even | odd
      · rw [even, toggled]
      · rw [odd, toggled]

theorem toggled_iterate_of_ge {inversions count : Nat} (ge : count ≤ inversions) :
    toggled^[inversions] count = (inversions - count) % 2 := by
  obtain ⟨further, rfl⟩ := Nat.exists_eq_add_of_le' ge
  rw [Function.iterate_add_apply, toggled_iterate_of_le le_rfl, Nat.sub_self,
    toggled_iterate_zero, Nat.add_sub_cancel]

theorem toggled_iterate_parity_iff (inversions count : Nat) :
    toggled^[inversions] count = toggled^[inversions % 2] count ↔
      inversions < 2 ∨ count < 2 ∨ inversions % 2 = 1 ∧ count < 3 := by
  rcases Nat.le_total inversions count with few | many
  · rw [toggled_iterate_of_le few, toggled_iterate_of_le ((Nat.mod_le _ _).trans few)]
    omega
  · rw [toggled_iterate_of_ge many]
    rcases Nat.le_total (inversions % 2) count with le | ge
    · rw [toggled_iterate_of_le le]
      omega
    · rw [toggled_iterate_of_ge ge]
      omega

/-- A third inversion undoes what the second one did to a name, unless the marks at its end last
longer. -/
theorem inverseName_iterate_parity_iff (name : String) (inversions : Nat) :
    inverseName^[inversions] name = inverseName^[inversions % 2] name ↔
      inversions < 2 ∨ ¬marks 2 <:+ name.toList ∨
        inversions % 2 = 1 ∧ ¬marks 3 <:+ name.toList := by
  obtain ⟨stem, count, split, unmarked⟩ := exists_stem name.toList
  have nameEq : name = String.ofList (stem ++ marks count) := by
    rw [← split, String.ofList_toList]
  rw [split, marks_suffix_iff unmarked, marks_suffix_iff unmarked, nameEq,
    inverseName_iterate_marks unmarked, inverseName_iterate_marks unmarked, String.ofList_inj,
    List.append_cancel_left_eq, marks_injective.eq_iff, toggled_iterate_parity_iff]
  simp only [Nat.not_le]

/-! ## Directions -/

theorem iterate_inverse (operation : ProjectedOperation) (inversions : Nat) :
    inverse^[inversions] operation =
      ⟨inverseName^[inversions] operation.name, operation.projection,
        operation.isInverse ^^ decide (inversions % 2 = 1)⟩ := by
  induction inversions with
  | zero => simp
  | succ inversions inductionHypothesis =>
      rw [Function.iterate_succ_apply', inductionHypothesis]
      unfold inverse
      rw [Function.iterate_succ_apply']
      rcases Nat.mod_two_eq_zero_or_one inversions with even | odd
      · have next : (inversions + 1) % 2 = 1 := by omega
        simp [even, next]
      · have next : (inversions + 1) % 2 = 0 := by omega
        simp [odd, next]

/-- The name plays no part in a transform. -/
theorem transform_eq_of_name (first second : String) (projection : Projection)
    (isInverse : Bool) :
    (⟨first, projection, isInverse⟩ : ProjectedOperation).transform =
      (⟨second, projection, isInverse⟩ : ProjectedOperation).transform := by
  funext points
  induction points using transform.induct with
  | case1 => rw [transform, transform]
  | case2 single => rw [transform, transform]
  | case3 x y rest inductionHypothesis =>
      rw [transform, transform, inductionHypothesis]
      rfl

theorem transform_iterate_inverse (operation : ProjectedOperation) (inversions : Nat) :
    (inverse^[inversions] operation).transform =
      (inverse^[inversions % 2] operation).transform := by
  rw [iterate_inverse, iterate_inverse, Nat.mod_mod]
  exact transform_eq_of_name _ _ _ _

theorem name_iterate_inverse (operation : ProjectedOperation) (inversions : Nat) :
    (inverse^[inversions] operation).name = inverseName^[inversions] operation.name := by
  rw [iterate_inverse]

end ProjectedOperation

/-! ## Operations -/

namespace Operation

/-- The operation after a number of inversions, if there is an inverse each time. -/
def inverted? : Nat → Operation → Option Operation
  | 0, operation => some operation
  | inversions + 1, operation => operation.inverse?.bind (inverted? inversions)

theorem inverted?_projected (operation : ProjectedOperation) (inversions : Nat) :
    inverted? inversions (.projected operation) =
      some (.projected (ProjectedOperation.inverse^[inversions] operation)) := by
  induction inversions generalizing operation with
  | zero => rfl
  | succ inversions inductionHypothesis => exact inductionHypothesis operation.inverse

end Operation

/-- All inversions exist, and a transform only depends on their parity. A name does too, except that
it takes as many inversions as there are marks at its end until it starts to alternate. -/
theorem inversions_parity (name : String) (projection : Projection) (inversions : Nat) :
    ∃ reached alternate : Operation,
      Operation.inverted? inversions (.projected (.forward name projection)) = some reached ∧
      Operation.inverted? (inversions % 2) (.projected (.forward name projection)) =
        some alternate ∧
      reached.transform = alternate.transform ∧
      (reached.name = alternate.name ↔
        inversions < 2 ∨ ¬ProjectedOperation.marks 2 <:+ name.toList ∨
          inversions % 2 = 1 ∧ ¬ProjectedOperation.marks 3 <:+ name.toList) := by
  refine ⟨_, _, Operation.inverted?_projected _ _, Operation.inverted?_projected _ _, ?_, ?_⟩
  · exact ProjectedOperation.transform_iterate_inverse _ _
  · simp only [Operation.name, ProjectedOperation.name_iterate_inverse]
    exact ProjectedOperation.inverseName_iterate_parity_iff name inversions

/-- The inverse of the inverse, under a name that loses both of its marks. -/
theorem not_inversions_parity_two_marks :
    ∃ reached : Operation,
      Operation.inverted? 2
        (.projected (.forward "A (inverse) (inverse)" .identity)) = some reached ∧
      Operation.inverted? (2 % 2) (.projected (.forward "A (inverse) (inverse)" .identity)) =
        some (.projected (.forward "A (inverse) (inverse)" .identity)) ∧
      reached.name = "A" ∧ reached.name ≠ "A (inverse) (inverse)" :=
  ⟨_, rfl, rfl, by decide, by decide⟩

end CoordinateConformance
