import CoordinateConformance.Text.Casing
import Mathlib.Data.List.Chain
import Mathlib.Tactic.SplitIfs

/-!
Contract: the characters whose lower case is another character.

The tables of Unicode are read by whole ranges: `spans` says that one range of a table holds all
codes between two bounds, `avoids` that no range holds one of them. With these every entry of the
lower case table is checked once, and the result is that a character that has another lower case is
a cased one, is not ignored between letters, and that the same holds of its lower case. So
characters with the same lower case cannot be told apart by where words begin and end.

Owns: `lowerCharacter_cases`, `SameLetter.isCased_eq`, `SameLetter.isCaseIgnorable_eq`.

Does **not** own: the lower case of text.
-/

namespace CoordinateConformance

/-! ## Ranges of a table -/

/-- One range of the table holds all codes from the least to the greatest. -/
def spans : List Nat → Nat → Nat → Bool
  | first :: last :: rest, least, greatest =>
      bif Nat.ble last least then spans rest least greatest
      else Nat.ble first least && Nat.blt greatest last
  | _, _, _ => false

/-- No range of the table holds a code from the least to the greatest. The first range that ends
behind the least code decides, because a table ascends. -/
def avoids : List Nat → Nat → Nat → Bool
  | first :: last :: rest, least, greatest =>
      bif Nat.ble last least then avoids rest least greatest else Nat.blt greatest first
  | _, _, _ => true

theorem inRanges_of_spans {bounds : List Nat} {least greatest code : Nat}
    (within : spans bounds least greatest = true) (least_le : least ≤ code)
    (le_greatest : code ≤ greatest) : inRanges bounds code = true := by
  induction bounds, least, greatest using spans.induct with
  | case1 first last rest least greatest behind inductionHypothesis =>
      rw [spans, behind, cond_true] at within
      rw [inRanges, inductionHypothesis within least_le le_greatest, Bool.or_true]
  | case2 first last rest least greatest ahead =>
      rw [spans, ahead, cond_false] at within
      simp at within
      simp [inRanges]
      omega
  | case3 => simp [spans] at within

/-- A code in front of all boundaries is in no range. -/
theorem inRanges_of_lt {bounds : List Nat} {code : Nat} (less : ∀ bound ∈ bounds, code < bound) :
    inRanges bounds code = false := by
  induction bounds, code using inRanges.induct with
  | case1 first last rest code inductionHypothesis =>
      have behind := less first (.head _)
      rw [inRanges, inductionHypothesis fun bound mem => less bound (.tail _ (.tail _ mem))]
      simp
      omega
  | case2 => rw [inRanges]; assumption

theorem inRanges_of_avoids {bounds : List Nat} {least greatest code : Nat}
    (ascending : bounds.IsChain (· ≤ ·)) (without : avoids bounds least greatest = true)
    (least_le : least ≤ code) (le_greatest : code ≤ greatest) : inRanges bounds code = false := by
  induction bounds, least, greatest using avoids.induct with
  | case1 first last rest least greatest behind inductionHypothesis =>
      rw [avoids, behind, cond_true] at without
      rw [inRanges, inductionHypothesis ascending.tail.tail without least_le le_greatest]
      simp at behind
      simp
      omega
  | case2 first last rest least greatest ahead =>
      rw [avoids, ahead, cond_false] at without
      have sorted := List.pairwise_cons.mp (List.isChain_iff_pairwise.mp ascending)
      simp at without
      apply inRanges_of_lt
      intro bound mem
      cases mem with
      | head => omega
      | tail _ mem =>
          have := sorted.1 bound mem
          omega
  | case3 => rw [inRanges]; assumption

namespace Casing

/-! ## Letters -/

/-- The character is part of a word, and is not passed over in the search for one. -/
structure IsLetter (c : Char) : Prop where
  isCased : isCased c = true
  isCaseIgnorable : isCaseIgnorable c = false

/-- All codes from the least to the greatest are those of letters. -/
def areLetters (least greatest : Nat) : Bool :=
  spans casedBounds least greatest && avoids caseIgnorableBounds least greatest

theorem ascending_caseIgnorableBounds : caseIgnorableBounds.IsChain (· ≤ ·) := by
  decide +kernel

theorem isLetter_of_areLetters {least greatest : Nat} (letters : areLetters least greatest = true)
    {c : Char} (least_le : least ≤ c.toNat) (le_greatest : c.toNat ≤ greatest) : IsLetter c := by
  obtain ⟨within, without⟩ := Bool.and_eq_true_iff.mp letters
  exact ⟨inRanges_of_spans within least_le le_greatest,
    inRanges_of_avoids ascending_caseIgnorableBounds without least_le le_greatest⟩

end Casing

/-- The characters of a run and their lower cases are letters. Where a run leaves out every other
code, the codes in between may be of any kind. -/
def CaseRun.hasLetters (run : CaseRun) : Bool :=
  (Casing.areLetters run.first run.last ||
    (List.range (run.last - run.first + 1)).all fun offset =>
      offset % run.step != 0 || Casing.areLetters (run.first + offset) (run.first + offset)) &&
  Casing.areLetters run.target (run.target + (run.last - run.first)) &&
  (Nat.blt (run.target + (run.last - run.first)) 0xD800 ||
    Nat.blt 0xDFFF run.target && Nat.blt (run.target + (run.last - run.first)) 0x110000)

namespace Casing

theorem hasLetters_of_mem {run : CaseRun} (mem : run ∈ lowerCaseRuns) : run.hasLetters = true := by
  have all : lowerCaseRuns.all CaseRun.hasLetters = true := by decide +kernel
  exact List.all_eq_true.mp all run mem

theorem toNat_ofNat {code : Nat} (valid : code < 0xD800 ∨ 0xDFFF < code ∧ code < 0x110000) :
    (Char.ofNat code).toNat = code := by
  rw [Char.ofNat, dif_pos valid]
  rfl

/-! ## Characters with another lower case -/

/-- A character of a run and its lower case are letters. -/
theorem isLetter_of_run? {c : Char} {run : CaseRun} (found : run? c.toNat = some run) :
    IsLetter c ∧ IsLetter (Char.ofNat (run.target + (c.toNat - run.first))) := by
  have holds := hasLetters_of_mem (List.mem_of_find?_eq_some found)
  have inRun := List.find?_some found
  simp only [Bool.and_eq_true, decide_eq_true_eq, beq_iff_eq] at inRun
  obtain ⟨⟨first_le, le_last⟩, onStep⟩ := inRun
  simp only [CaseRun.hasLetters, Bool.and_eq_true, Bool.or_eq_true, List.all_eq_true,
    List.mem_range, bne_iff_ne, ne_eq, Nat.blt_eq] at holds
  obtain ⟨⟨source, target⟩, valid⟩ := holds
  constructor
  · rcases source with whole | single
    · exact isLetter_of_areLetters whole first_le le_last
    · have letter := (single (c.toNat - run.first) (by omega)).resolve_left (· onStep)
      exact isLetter_of_areLetters letter (by omega) (by omega)
  · have code : (Char.ofNat (run.target + (c.toNat - run.first))).toNat =
        run.target + (c.toNat - run.first) := toNat_ofNat (by omega)
    exact isLetter_of_areLetters target (by omega) (by omega)

/-- Only capital letters of ASCII are changed, and become the small ones. -/
theorem toNat_toLower_of_ne {c : Char} (other : c.toLower ≠ c) :
    0x41 ≤ c.toNat ∧ c.toNat ≤ 0x5A ∧ c.toLower.toNat = c.toNat + 32 := by
  unfold Char.toLower at other ⊢
  split_ifs at other ⊢ with capital
  · have first_le : 0x41 ≤ c.toNat := capital.1
    have le_last : c.toNat ≤ 0x5A := capital.2
    have code : (c.val + ('a'.val - 'A'.val)).toNat = c.toNat + 32 := by
      rw [UInt32.toNat_add]
      exact Nat.mod_eq_of_lt (by change c.toNat + 32 < _; omega)
    exact ⟨first_le, le_last, code⟩
  · exact absurd rfl other

/-- The same for the letters of ASCII, which are not in the table of runs. -/
theorem isLetter_of_toLower_ne {c : Char} (other : c.toLower ≠ c) :
    IsLetter c ∧ IsLetter c.toLower := by
  have upper : areLetters 0x41 0x5A = true := by decide +kernel
  have lower : areLetters 0x61 0x7A = true := by decide +kernel
  obtain ⟨first_le, le_last, code⟩ := toNat_toLower_of_ne other
  exact ⟨isLetter_of_areLetters upper first_le le_last,
    isLetter_of_areLetters lower (by omega) (by omega)⟩

/-- A character is its own lower case, or the only one whose lower case has two characters, or a
letter whose lower case is a letter. -/
theorem lowerCharacter_cases (c : Char) :
    lowerCharacter c = [c] ∨ c = '\u0130' ∨
      IsLetter c ∧ ∃ lower, IsLetter lower ∧ lowerCharacter c = [lower] := by
  unfold lowerCharacter
  split_ifs with ascii dotted
  · by_cases same : c.toLower = c
    · exact Or.inl (by rw [same])
    · obtain ⟨letter, letterToo⟩ := isLetter_of_toLower_ne same
      exact Or.inr (Or.inr ⟨letter, c.toLower, letterToo, rfl⟩)
  · refine Or.inr (Or.inl ?_)
    rw [← Char.ofNat_toNat c, dotted]
  · cases found : run? c.toNat with
    | none => exact Or.inl rfl
    | some run =>
        obtain ⟨letter, letterToo⟩ := isLetter_of_run? found
        exact Or.inr (Or.inr ⟨letter, _, letterToo, rfl⟩)

/-! ## Characters with the same lower case -/

/-- The characters have the same lower case on their own. -/
def SameLetter (first second : Char) : Prop :=
  lowerCharacter first = lowerCharacter second

instance : DecidableRel SameLetter :=
  fun first second => inferInstanceAs (Decidable (lowerCharacter first = lowerCharacter second))

namespace SameLetter

variable {first second : Char} (same : SameLetter first second)

include same

theorem eq_or_isLetter : first = second ∨ IsLetter first ∧ IsLetter second := by
  have two : lowerCharacter '\u0130' = ['i', '\u0307'] := by decide
  unfold SameLetter at same
  rcases lowerCharacter_cases first with own | rfl | ⟨letter, lower, lowerLetter, has⟩ <;>
    rcases lowerCharacter_cases second with own' | rfl | ⟨letter', lower', lowerLetter', has'⟩
  · rw [own, own'] at same
    exact Or.inl (List.singleton_inj.mp same)
  · rw [own, two] at same
    cases same
  · rw [own, has'] at same
    exact Or.inr ⟨List.singleton_inj.mp same ▸ lowerLetter', letter'⟩
  · rw [own', two] at same
    cases same
  · exact Or.inl rfl
  · rw [has', two] at same
    cases same
  · rw [own', has] at same
    exact Or.inr ⟨letter, List.singleton_inj.mp same ▸ lowerLetter⟩
  · rw [has, two] at same
    cases same
  · exact Or.inr ⟨letter, letter'⟩

theorem isCased_eq : isCased first = isCased second := by
  rcases same.eq_or_isLetter with rfl | ⟨letter, letter'⟩
  · rfl
  · rw [letter.isCased, letter'.isCased]

theorem isCaseIgnorable_eq : isCaseIgnorable first = isCaseIgnorable second := by
  rcases same.eq_or_isLetter with rfl | ⟨letter, letter'⟩
  · rfl
  · rw [letter.isCaseIgnorable, letter'.isCaseIgnorable]

end SameLetter

end Casing

end CoordinateConformance
