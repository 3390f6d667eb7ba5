import CoordinateConformance.Proofs.Text.FinalSigma
import CoordinateConformance.Proofs.Tolerance.Registration

/-!
Contract: a registry as a map from lower case names to modifiers.

A registry is changed by calls that put a modifier in the place of a family. Whatever the calls, and
whichever of the two ways they are made in, a name is answered with the modifier of the last call
for its lower case, or with what the registry started with.

Owns: `RegistryCall`, `afterCalls`, `lastModifier`, `get?_afterCalls`, `LastCallCounts`,
`lastCallCounts`.

Does **not** own: names that differ in the case of other letters than those of ASCII.
-/

namespace CoordinateConformance

theorem Family.eq_iff_name_eq (first second : Family) :
    first = second ↔ first.name = second.name := by
  cases first
  cases second
  rw [Family.mk.injEq]

/-! ## Calls -/

/-- A call that changes a registry. -/
inductive RegistryCall where
  /-- Gives back the modifier that is replaced. -/
  | register (family : Family) (modifier : ToleranceModifier)
  /-- Builder style: gives back the registry. -/
  | build (family : Family) (modifier : ToleranceModifier)

namespace RegistryCall

def family : RegistryCall → Family
  | register family _ => family
  | build family _ => family

def modifier : RegistryCall → ToleranceModifier
  | register _ modifier => modifier
  | build _ modifier => modifier

/-- The registry after the call. -/
def after (registry : ModifierRegistry) : RegistryCall → ModifierRegistry
  | register family modifier => (registry.register family modifier).2
  | build family modifier => registry.insert family modifier

theorem after_eq_insert (registry : ModifierRegistry) (call : RegistryCall) :
    call.after registry = registry.insert call.family call.modifier := by
  cases call <;> rfl

end RegistryCall

/-- The modifier of the last call for a family of the given name. -/
def lastModifier (calls : List RegistryCall) (name : String) : Option ToleranceModifier :=
  (calls.reverse.find? fun call => call.family.name == name).map RegistryCall.modifier

theorem lastModifier_append_singleton (calls : List RegistryCall) (call : RegistryCall)
    (name : String) :
    lastModifier (calls ++ [call]) name =
      if call.family.name = name then some call.modifier else lastModifier calls name := by
  unfold lastModifier
  rw [List.reverse_append, List.reverse_singleton, List.singleton_append]
  split_ifs with hit
  · rw [List.find?_cons_of_pos (by simpa using hit)]
    rfl
  · rw [List.find?_cons_of_neg (by simpa using hit)]

namespace ModifierRegistry

variable (registry : ModifierRegistry)

/-- The registry after some calls, one after another. -/
def afterCalls (calls : List RegistryCall) : ModifierRegistry :=
  calls.foldl RegistryCall.after registry

theorem afterCalls_append_singleton (calls : List RegistryCall) (call : RegistryCall) :
    registry.afterCalls (calls ++ [call]) =
      (registry.afterCalls calls).insert call.family call.modifier := by
  rw [afterCalls, List.foldl_append, ← RegistryCall.after_eq_insert]
  rfl

/-- One call: its own family has its modifier, and no other family is touched. -/
theorem get?_insert (family other : Family) (modifier : ToleranceModifier) :
    (registry.insert family modifier).get? other =
      if family = other then some modifier else registry.get? other := by
  split_ifs with hit
  · rw [hit, get?_insert_self]
  · exact get?_insert_of_ne hit

/-- By induction on the calls, the last one first. -/
theorem get?_afterCalls (calls : List RegistryCall) (family : Family) :
    (registry.afterCalls calls).get? family =
      (lastModifier calls family.name).or (registry.get? family) := by
  induction calls using List.reverseRecOn with
  | nil => rfl
  | append_singleton calls call inductionHypothesis =>
      rw [afterCalls_append_singleton, get?_insert, lastModifier_append_singleton,
        inductionHypothesis]
      simp only [Family.eq_iff_name_eq]
      split_ifs <;> rfl

end ModifierRegistry

/-! ## What a registry answers -/

/-- What the standard registry starts with. -/
def standardModifier (functions : ElementaryFunctions Float) (name : String) :
    Option ToleranceModifier :=
  if name = "geographic" then some (.metresToDegrees functions .geographic)
  else if name = "projected" then some (.metresToDegrees functions .projection)
  else none

theorem get?_standard (functions : ElementaryFunctions Float) (family : Family) :
    (ModifierRegistry.standard functions).get? family = standardModifier functions family.name := by
  have differ : "projected" ≠ "geographic" := by decide
  unfold ModifierRegistry.standard standardModifier
  rw [ModifierRegistry.get?_insert, ModifierRegistry.get?_insert]
  simp only [Family.eq_iff_name_eq, Family.projected, Family.geographic, eq_comm (b := family.name)]
  by_cases projected : family.name = "projected"
  · rw [if_pos projected, if_pos projected, if_neg (projected ▸ differ)]
  · rw [if_neg projected, if_neg projected]
    rfl

/-- After any calls, a registry that started as given answers by the last call for a name. -/
structure LastCallCounts (start : ModifierRegistry) (initial : String → Option ToleranceModifier) :
    Prop where
  get?_ofName : ∀ (calls : List RegistryCall) (name : String),
    (start.afterCalls calls).get? (.ofName name) =
      (lastModifier calls (Casing.lower name)).or (initial (Casing.lower name))
  /-- A registration gives back what was found for its family just before: the modifier of the
  last call for it. -/
  replaced : ∀ (calls : List RegistryCall) (family : Family) (modifier : ToleranceModifier),
    ((start.afterCalls calls).register family modifier).1 = (start.afterCalls calls).get? family ∧
      ((start.afterCalls calls).register family modifier).1 =
        (lastModifier calls family.name).or (initial family.name)
  others_kept : ∀ (calls : List RegistryCall) (call : RegistryCall) (family : Family),
    call.family ≠ family →
      (start.afterCalls (calls ++ [call])).get? family = (start.afterCalls calls).get? family
  getOrIdentity_eq : ∀ (calls : List RegistryCall) (family : Family),
    (start.afterCalls calls).getOrIdentity family =
      match (start.afterCalls calls).get? family with
      | some modifier => modifier
      | none => .identity

theorem lastCallCounts_of_start {start : ModifierRegistry}
    {initial : String → Option ToleranceModifier}
    (answers : ∀ family, start.get? family = initial family.name) :
    LastCallCounts start initial where
  get?_ofName calls name := by
    rw [ModifierRegistry.get?_afterCalls, answers]
    rfl
  replaced calls family modifier := by
    refine ⟨rfl, ?_⟩
    rw [← answers]
    exact start.get?_afterCalls calls family
  others_kept calls call family differ := by
    rw [ModifierRegistry.afterCalls_append_singleton]
    exact ModifierRegistry.get?_insert_of_ne differ
  getOrIdentity_eq calls family := by
    unfold ModifierRegistry.getOrIdentity
    cases (start.afterCalls calls).get? family <;> rfl

/-- A registry is a map by lower case names in which the last call counts, both from scratch and
from the standard modifiers. Names that only differ in the case of ASCII letters have one entry,
whatever other characters stand around these. -/
theorem lastCallCounts :
    LastCallCounts .empty (fun _ => none) ∧
    (∀ functions, LastCallCounts (.standard functions) (standardModifier functions)) ∧
    ∀ first second, Casing.EqualInAsciiCase first second →
      Family.ofName first = Family.ofName second := by
  refine ⟨lastCallCounts_of_start fun _ => rfl,
    fun functions => lastCallCounts_of_start (get?_standard functions), ?_⟩
  intro first second same
  unfold Family.ofName
  rw [Casing.lower_eq_of_equalInAsciiCase same]

/-- A capital sigma at the end of a word does not keep apart names that differ behind it. -/
theorem lastCallCounts_finalSigma :
    Casing.EqualInAsciiCase "ΟΔΌΣ X" "ΟΔΌΣ x" ∧
      (ModifierRegistry.empty.afterCalls [.register (.ofName "ΟΔΌΣ X") .identity,
          .register (.ofName "ΟΔΌΣ x") (.constant [] 1.0), .build .projected .identity]).get?
        (.ofName "οδός X") = some (.constant [] 1.0) := by
  have same : Casing.EqualInAsciiCase "ΟΔΌΣ X" "ΟΔΌΣ x" := by decide +kernel
  refine ⟨same, ?_⟩
  rw [lastCallCounts.1.get?_ofName, lastCallCounts.2.2 _ _ same, lastModifier]
  simp only [List.reverse_cons, List.reverse_nil, List.nil_append, List.cons_append]
  rw [List.find?_cons_of_neg (by decide +kernel), List.find?_cons_of_pos (by decide +kernel)]
  rfl

end CoordinateConformance
