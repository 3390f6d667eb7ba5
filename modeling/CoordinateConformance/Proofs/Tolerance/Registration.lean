import CoordinateConformance.Tolerance.Registry

/-!
Contract: what a sequence of registrations leaves in a registry.

A registration takes the place of an earlier one for the same family and touches no other family.
So what a registry holds for a family is its last registration, whatever was registered for other
families before or after it.

Owns: `registerAll`, `get?_registerAll_of_last`, `get?_registerAll_of_ne`.

Does **not** own: which names denote the same family.
-/

namespace CoordinateConformance.ModifierRegistry

variable {registry : ModifierRegistry} {family other : Family} {modifier : ToleranceModifier}

@[simp]
theorem get?_insert_self : (registry.insert family modifier).get? family = some modifier := by
  simp [insert, get?]

theorem get?_insert_of_ne (differ : family ≠ other) :
    (registry.insert family modifier).get? other = registry.get? other := by
  unfold insert get?
  rw [List.find?_cons_of_neg (by simpa using differ), List.find?_filter]
  congr 2
  funext entry
  -- an entry of the other family is not one of those that the insertion drops
  by_cases same : entry.1 = other
  · simp [same, Ne.symm differ]
  · simp [same]

/-- The registry after some registrations, one after another. -/
def registerAll (registry : ModifierRegistry)
    (registrations : List (Family × ToleranceModifier)) : ModifierRegistry :=
  registrations.foldl (fun current registration =>
    (current.register registration.1 registration.2).2) registry

@[simp]
theorem registerAll_cons (registration : Family × ToleranceModifier)
    (registrations : List (Family × ToleranceModifier)) :
    registry.registerAll (registration :: registrations) =
      (registry.insert registration.1 registration.2).registerAll registrations :=
  rfl

@[simp]
theorem registerAll_append (earlier later : List (Family × ToleranceModifier)) :
    registry.registerAll (earlier ++ later) = (registry.registerAll earlier).registerAll later :=
  List.foldl_append

/-- Registrations of other families leave a family as it is. -/
theorem get?_registerAll_of_ne {registrations : List (Family × ToleranceModifier)}
    (differ : ∀ registration ∈ registrations, registration.1 ≠ family) :
    (registry.registerAll registrations).get? family = registry.get? family := by
  induction registrations generalizing registry with
  | nil => rfl
  | cons registration registrations inductionHypothesis =>
      rw [registerAll_cons, inductionHypothesis fun later mem => differ later (.tail _ mem)]
      exact get?_insert_of_ne (differ registration (.head _))

/-- The last registration of a family counts. -/
theorem get?_registerAll_of_last {earlier later : List (Family × ToleranceModifier)}
    (differ : ∀ registration ∈ later, registration.1 ≠ family) :
    (registry.registerAll (earlier ++ (family, modifier) :: later)).get? family =
      some modifier := by
  rw [registerAll_append, registerAll_cons, get?_registerAll_of_ne differ]
  exact get?_insert_self

/-- What a registry holds for a family after some registrations only depends on what it held for
that family. -/
theorem get?_registerAll_congr {first second : ModifierRegistry}
    (same : first.get? family = second.get? family)
    (registrations : List (Family × ToleranceModifier)) :
    (first.registerAll registrations).get? family =
      (second.registerAll registrations).get? family := by
  induction registrations generalizing first second with
  | nil => exact same
  | cons registration registrations inductionHypothesis =>
      rw [registerAll_cons, registerAll_cons]
      apply inductionHypothesis
      by_cases hit : registration.1 = family
      · rw [hit, get?_insert_self, get?_insert_self]
      · rw [get?_insert_of_ne hit, get?_insert_of_ne hit, same]

/-- A registration of another family might as well not have been made. -/
theorem get?_registerAll_without {earlier later : List (Family × ToleranceModifier)}
    (differ : family ≠ other) :
    (registry.registerAll (earlier ++ (family, modifier) :: later)).get? other =
      (registry.registerAll (earlier ++ later)).get? other := by
  rw [registerAll_append, registerAll_append, registerAll_cons]
  exact get?_registerAll_congr (get?_insert_of_ne differ) later

end CoordinateConformance.ModifierRegistry
