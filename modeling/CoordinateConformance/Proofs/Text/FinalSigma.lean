import CoordinateConformance.Proofs.Text.Letters
import Mathlib.Data.List.Forall2

/-!
Contract: when texts that only differ in case have the same lower case.

The lower case of a text is that of its characters, one by one, except for a capital sigma at the
end of a word. Two texts with the same letters have their words at the same places, so they can only
differ there: their lower cases are equal exactly if wherever a word ends, one of them has a capital
sigma if and only if the other one has. Texts that only differ in the case of ASCII letters have
their sigmas at the same places, since they have the same characters wherever these are not ASCII.

Owns: `SameLetters`, `FinalSigmasAgree`, `lower_eq_lower_iff`, `EqualInAsciiCase`,
`lower_eq_of_equalInAsciiCase`.

Does **not** own: the lower case of a character.
-/

namespace CoordinateConformance.Casing

/-- The texts have as many characters, and at each place the same letter in any case. -/
def SameLetters (first second : String) : Prop :=
  List.Forall₂ SameLetter first.toList second.toList

instance (first second : String) : Decidable (SameLetters first second) :=
  inferInstanceAs (Decidable (List.Forall₂ SameLetter first.toList second.toList))

/-- A word ends with the character at the given place: letters stand before it and none behind. -/
def endsWord (text : List Char) (index : Nat) : Bool :=
  meetsCased (text.take index).reverse && !meetsCased (text.drop (index + 1))

/-- Where words end, the texts have their capital sigmas at the same places. -/
def FinalSigmasAgree (first second : String) : Prop :=
  ∀ index, endsWord first.toList index = true →
    (first.toList[index]? = some 'Σ' ↔ second.toList[index]? = some 'Σ')

/-! ## Words -/

theorem meetsCased_cons (c : Char) (rest : List Char) :
    meetsCased (c :: rest) = if isCaseIgnorable c then meetsCased rest else isCased c := by
  unfold meetsCased
  rw [List.dropWhile_cons]
  split_ifs <;> rfl

theorem meetsCased_eq {first second : List Char} (same : List.Forall₂ SameLetter first second) :
    meetsCased first = meetsCased second := by
  induction same with
  | nil => rfl
  | cons head _ inductionHypothesis =>
      rw [meetsCased_cons, meetsCased_cons, head.isCaseIgnorable_eq, head.isCased_eq,
        inductionHypothesis]

/-! ## One character -/

/-- The lower case of a character between the texts in front of it, nearest first, and behind. -/
def lowerWithin (before : List Char) (c : Char) (rest : List Char) : List Char :=
  if c = 'Σ' then [if meetsCased before && !meetsCased rest then 'ς' else 'σ']
  else lowerCharacter c

theorem lowerAfter_cons (before : List Char) (c : Char) (rest : List Char) :
    lowerAfter before (c :: rest) =
      lowerWithin before c rest ++ lowerAfter (c :: before) rest :=
  rfl

theorem lowerCharacter_sigma : lowerCharacter 'Σ' = ['σ'] := by
  decide

section OneCharacter

variable {before before' rest rest' : List Char} {c d : Char}

theorem length_lowerWithin (before rest : List Char) (c : Char) :
    (lowerWithin before c rest).length = (lowerCharacter c).length := by
  unfold lowerWithin
  by_cases sigma : c = 'Σ'
  · rw [if_pos sigma, sigma, lowerCharacter_sigma]
    rfl
  · rw [if_neg sigma]

/-- Only a final sigma is not written like the lower case of its letter. -/
theorem lowerWithin_eq_iff (same : SameLetter c d)
    (sameBefore : meetsCased before = meetsCased before')
    (sameRest : meetsCased rest = meetsCased rest') :
    lowerWithin before c rest = lowerWithin before' d rest' ↔
      ((meetsCased before && !meetsCased rest) = true → (c = 'Σ' ↔ d = 'Σ')) := by
  unfold lowerWithin
  rw [← sameBefore, ← sameRest]
  unfold SameLetter at same
  by_cases left : c = 'Σ' <;> by_cases right : d = 'Σ'
  · simp [left, right]
  · rw [left, lowerCharacter_sigma] at same
    rw [if_pos left, if_neg right, ← same]
    cases meetsCased before && !meetsCased rest <;> simp [left, right]
  · rw [right, lowerCharacter_sigma] at same
    rw [if_neg left, if_pos right, same]
    cases meetsCased before && !meetsCased rest <;> simp [left, right]
  · rw [if_neg left, if_neg right, same]
    simp [left, right]

end OneCharacter

/-! ## Texts -/

/-- The lower cases of the rests of two texts, the texts in front having the same letters too. -/
theorem lowerAfter_eq_iff {before before' rest rest' : List Char}
    (sameBefore : List.Forall₂ SameLetter before before')
    (same : List.Forall₂ SameLetter rest rest') :
    lowerAfter before rest = lowerAfter before' rest' ↔
      ∀ index, (meetsCased ((rest.take index).reverse ++ before) &&
          !meetsCased (rest.drop (index + 1))) = true →
        (rest[index]? = some 'Σ' ↔ rest'[index]? = some 'Σ') := by
  induction same generalizing before before' with
  | nil => simp [lowerAfter]
  | @cons c d rest rest' head tail inductionHypothesis =>
      have lengths : (lowerWithin before c rest).length = (lowerWithin before' d rest').length := by
        rw [length_lowerWithin, length_lowerWithin, head]
      have split : lowerAfter before (c :: rest) = lowerAfter before' (d :: rest') ↔
          lowerWithin before c rest = lowerWithin before' d rest' ∧
            lowerAfter (c :: before) rest = lowerAfter (d :: before') rest' := by
        rw [lowerAfter_cons, lowerAfter_cons]
        constructor
        · exact fun equal => List.append_inj equal lengths
        · rintro ⟨heads, tails⟩
          rw [heads, tails]
      rw [split, lowerWithin_eq_iff head (meetsCased_eq sameBefore) (meetsCased_eq tail),
        inductionHypothesis (.cons head sameBefore)]
      constructor
      · rintro ⟨here, later⟩ index
        cases index with
        | zero => simpa using here
        | succ index => simpa using later index
      · intro all
        exact ⟨by simpa using all 0, fun index => by simpa using all (index + 1)⟩

/-- Texts with the same letters have the same lower case exactly if they agree on final sigmas. -/
theorem lower_eq_lower_iff {first second : String} (same : SameLetters first second) :
    lower first = lower second ↔ FinalSigmasAgree first second := by
  unfold lower FinalSigmasAgree endsWord
  rw [String.ofList_inj, lowerAfter_eq_iff .nil same]
  simp only [List.append_nil]

/-! ## Case of ASCII letters -/

/-- The texts have as many characters, and at each place the same one up to the case of an ASCII
letter. -/
def EqualInAsciiCase (first second : String) : Prop :=
  List.Forall₂ (fun c d => c.toLower = d.toLower) first.toList second.toList

instance (first second : String) : Decidable (EqualInAsciiCase first second) :=
  inferInstanceAs (Decidable (List.Forall₂ _ first.toList second.toList))

section AsciiCase

variable {c d : Char}

theorem eq_or_isAscii (same : c.toLower = d.toLower) :
    c = d ∨ c.toNat < 0x80 ∧ d.toNat < 0x80 := by
  by_cases left : c.toLower = c <;> by_cases right : d.toLower = d
  · exact Or.inl (left.symm.trans (same.trans right))
  · obtain ⟨first_le, le_last, code⟩ := toNat_toLower_of_ne right
    rw [← same, left] at code
    omega
  · obtain ⟨first_le, le_last, code⟩ := toNat_toLower_of_ne left
    rw [same, right] at code
    omega
  · have first := toNat_toLower_of_ne left
    have second := toNat_toLower_of_ne right
    omega

theorem sameLetter_of_toLower_eq (same : c.toLower = d.toLower) : SameLetter c d := by
  rcases eq_or_isAscii same with rfl | ⟨left, right⟩
  · rfl
  · unfold SameLetter lowerCharacter
    rw [if_pos left, if_pos right, same]

theorem eq_sigma_iff (same : c.toLower = d.toLower) : c = 'Σ' ↔ d = 'Σ' := by
  have notAscii : 0x80 ≤ Char.toNat 'Σ' := by decide
  rcases eq_or_isAscii same with rfl | ⟨left, right⟩
  · rfl
  · constructor <;> rintro rfl <;> omega

theorem getElem?_eq_sigma_iff {first second : List Char}
    (same : List.Forall₂ (fun c d => c.toLower = d.toLower) first second) (index : Nat) :
    first[index]? = some 'Σ' ↔ second[index]? = some 'Σ' := by
  induction same generalizing index with
  | nil => rfl
  | cons head _ inductionHypothesis =>
      cases index with
      | zero => simpa using eq_sigma_iff head
      | succ index => simpa using inductionHypothesis index

end AsciiCase

/-- The capital sigmas stand at the same places, at the ends of words and elsewhere. -/
theorem lower_eq_of_equalInAsciiCase {first second : String}
    (same : EqualInAsciiCase first second) : lower first = lower second := by
  have letters : SameLetters first second := same.imp fun _ _ => sameLetter_of_toLower_eq
  exact (lower_eq_lower_iff letters).mpr fun index _ => getElem?_eq_sigma_iff same index

end CoordinateConformance.Casing
