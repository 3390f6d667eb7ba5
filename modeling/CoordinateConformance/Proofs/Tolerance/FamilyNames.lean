import CoordinateConformance.Proofs.Text.FinalSigma
import CoordinateConformance.Proofs.Tolerance.Registration

/-!
Contract: which spellings of a name denote the same family.

Families are compared by the lower case of their names. Two spellings with the same letters denote
one family exactly if they agree on capital sigmas at the ends of words, which have a lower case of
their own there. A modifier that is registered under one spelling is found under the other in just
these cases; otherwise the second name is answered as if nothing had been registered.

Owns: `ofName_eq_ofName_iff`, `get?_otherSpelling`.

Does **not** own: the lower case of text, and registrations under the same name.
-/

namespace CoordinateConformance

open Casing (SameLetters FinalSigmasAgree)

namespace Family

theorem ofName_eq_ofName_iff {first second : String} (same : SameLetters first second) :
    ofName first = ofName second ↔ FinalSigmasAgree first second := by
  unfold ofName
  rw [Family.mk.injEq]
  exact Casing.lower_eq_lower_iff same

end Family

/-- Spellings with the same letters in any case denote the same family exactly if they agree on
final sigmas. Then the last modifier that was registered under one of them is found under the other,
and otherwise it has no influence on what is found there. -/
theorem get?_otherSpelling {first second : String} (same : SameLetters first second) :
    (Family.ofName first = Family.ofName second ↔ FinalSigmasAgree first second) ∧
    ∀ (registry : ModifierRegistry) (earlier later : List (Family × ToleranceModifier))
      (modifier : ToleranceModifier),
      (∀ registration ∈ later, registration.1 ≠ Family.ofName first) →
        (FinalSigmasAgree first second →
          (registry.registerAll (earlier ++ (Family.ofName first, modifier) :: later)).get?
            (Family.ofName second) = some modifier) ∧
        (¬FinalSigmasAgree first second →
          (registry.registerAll (earlier ++ (Family.ofName first, modifier) :: later)).get?
              (Family.ofName second) =
            (registry.registerAll (earlier ++ later)).get? (Family.ofName second)) := by
  have families := Family.ofName_eq_ofName_iff same
  refine ⟨families, fun registry earlier later modifier others => ⟨?_, ?_⟩⟩
  · intro agree
    rw [← families.mpr agree]
    exact ModifierRegistry.get?_registerAll_of_last others
  · intro differ
    have otherFamily : Family.ofName first ≠ Family.ofName second := mt families.mp differ
    exact ModifierRegistry.get?_registerAll_without otherFamily

/-- Names with sigmas inside of their words only are told apart by nothing but their letters. -/
theorem get?_otherSpelling_inside :
    SameLetters "ΣΎΣΤΗΜΑ" "σύστημα" ∧ FinalSigmasAgree "ΣΎΣΤΗΜΑ" "σύστημα" ∧
      (ModifierRegistry.empty.registerAll [(.ofName "ΣΎΣΤΗΜΑ", .constant [] 1.0),
          (.ofName "ΣΎΣΤΗΜΑ", .identity), (.projected, .constant [] 1.0)]).get?
        (.ofName "σύστημα") = some .identity := by
  have same : SameLetters "ΣΎΣΤΗΜΑ" "σύστημα" := by decide +kernel
  obtain ⟨families, found⟩ := get?_otherSpelling same
  have agree : FinalSigmasAgree "ΣΎΣΤΗΜΑ" "σύστημα" := families.mp (by decide +kernel)
  refine ⟨same, agree, (found .empty [(.ofName "ΣΎΣΤΗΜΑ", .constant [] 1.0)]
    [(.projected, .constant [] 1.0)] .identity ?_).1 agree⟩
  intro registration mem
  rw [List.mem_singleton.mp mem]
  decide +kernel

/-- At the end of a word a capital sigma has another lower case than a small one has, so these
spellings denote two families. -/
theorem not_sameFamily_finalSigma :
    ¬∀ first second : String, SameLetters first second →
      Family.ofName first = Family.ofName second := by
  intro insensitive
  have same := insensitive "ΑΣ" "ασ" (by decide +kernel)
  revert same
  decide +kernel

end CoordinateConformance
