import CoordinateConformance.Json.Reader
import CoordinateConformance.Proofs.Decimal.ShortestDigits
import CoordinateConformance.Proofs.Json.Grammar

/-!
Contract: what is written for a value is a document of the value.

Both writers spell the draft of a value, whatever characters its strings hold, if its numerals have
as many digits behind the point as places. The draft stands for the value.

Owns: `draft`, `toJson_draft`, `documentText_compact`, `documentText_pretty`.

Does **not** own: how the text is read.
-/

namespace CoordinateConformance.Json.Grammar

/-! ## Numbers -/

theorem digitRun_toDigits (n : Nat) : DigitRun (Nat.toDigits 10 n) :=
  ⟨Nat.toDigits_ne_nil, fun _ mem => Nat.isDigit_of_mem_toDigits (by decide) (by decide) mem⟩

theorem digitsValue_toDigits (n : Nat) : digitsValue (Nat.toDigits 10 n) = n :=
  Nat.ofDigitChars_ten_toDigits

/-- The digits of a positive number do not begin with a zero. -/
theorem head_toDigits {n : Nat} (positive : 0 < n) : (Nat.toDigits 10 n).head? ≠ some '0' := by
  induction n using Nat.strong_induction_on with
  | _ n inductionHypothesis =>
      by_cases small : n < 10
      · rw [Nat.toDigits_of_lt_base small]
        intro zero
        have digits : ∀ n < 10, 0 < n → Nat.digitChar n ≠ '0' := by decide
        exact digits n small positive (Option.some.inj zero)
      · rw [Nat.toDigits_of_base_le (by decide) (by omega),
          List.head?_append_of_ne_nil _ Nat.toDigits_ne_nil]
        exact inductionHypothesis (n / 10) (by omega) (by omega)

theorem wholeText_toDigits (n : Nat) : WholeText (Nat.toDigits 10 n) := by
  refine ⟨digitRun_toDigits n, ?_⟩
  intro zero
  rcases Nat.eq_zero_or_pos n with rfl | positive
  · rfl
  · exact absurd zero (head_toDigits positive)

section Padded

variable {width value : Nat}

theorem length_padded (positive : 0 < width) (fits : value < 10 ^ width) :
    (Numeral.padded width value).length = width := by
  have length : (Nat.toDigits 10 value).length ≤ width :=
    (Nat.length_toDigits_le_iff (by decide) positive).mpr fits
  simp only [Numeral.padded, List.length_append, List.length_replicate]
  omega

theorem digitRun_padded (width value : Nat) : DigitRun (Numeral.padded width value) := by
  have digits := digitRun_toDigits value
  refine ⟨List.append_ne_nil_of_right_ne_nil _ digits.nonempty, ?_⟩
  intro c mem
  rcases List.mem_append.mp mem with zero | digit
  · rw [List.eq_of_mem_replicate zero]
    decide
  · exact digits.digit c digit

theorem digitsValue_padded (width value : Nat) :
    digitsValue (Numeral.padded width value) = value := by
  unfold digitsValue Numeral.padded
  rw [Nat.ofDigitChars_append, Nat.ofDigitChars_replicate_zero, Nat.mul_zero]
  exact digitsValue_toDigits value

end Padded

theorem powerText_powerText (plus : Bool) (exponent : Option Int) :
    PowerText exponent (Numeral.powerText plus exponent) := by
  cases exponent with
  | none => exact .absent
  | some exponent =>
      cases exponent with
      | ofNat exponent =>
          have spelled : ∀ sign, SignText false sign →
              PowerText (some exponent) ('e' :: (sign ++ Nat.toDigits 10 exponent)) := by
            intro sign signed
            have power := PowerText.present (Or.inl rfl) signed (digitRun_toDigits exponent)
            rwa [digitsValue_toDigits] at power
          cases plus with
          | true => exact spelled ['+'] .plus
          | false => exact spelled [] .absent
      | negSucc exponent =>
          have power := PowerText.present (Or.inl rfl) .minus (digitRun_toDigits (exponent + 1))
          rwa [digitsValue_toDigits] at power

theorem numberText_text {numeral : Numeral} (wellFormed : numeral.WellFormed) (plus : Bool) :
    NumberText numeral (numeral.text plus) := by
  obtain ⟨negative, whole, places, fraction, exponent⟩ := numeral
  have fractionText : FractionText places fraction
      (if places = 0 then [] else '.' :: Numeral.padded places fraction) := by
    split_ifs with noPlaces
    · subst noPlaces
      have zero : fraction = 0 := Nat.lt_one_iff.mp wellFormed
      rw [zero]
      exact .absent
    · have spelled := FractionText.present (digitRun_padded places fraction)
      rwa [length_padded (Nat.pos_of_ne_zero noPlaces) wellFormed, digitsValue_padded] at spelled
  have spelled := NumberText.number negative (wholeText_toDigits whole) fractionText
    (powerText_powerText plus exponent)
  rw [digitsValue_toDigits] at spelled
  simpa [Numeral.text] using spelled

/-! ## Strings -/

/-- Control characters without a letter of their own are written as units. -/
def pieceOf (c : Char) : StringPiece :=
  if c.toNat < 0x20 ∧ c ∉ escapes.map Prod.snd then .unit c.toNat else .char c

def stringDraft (text : String) : StringDraft :=
  ⟨text.toList.map pieceOf, none⟩

theorem hexDigit_hexDigit {value : Nat} (small : value < 16) : HexDigit (hexDigit value) value := by
  have digits : ∀ value < 16, hexDigit value = Nat.digitChar value := by decide
  exact ⟨small, Or.inl (digits value small)⟩

section Pieces

variable {pieces : List StringPiece} {text : List Char} (rest : StringText pieces text)
include rest

theorem stringText_letter {letter c : Char} (escape : (letter, c) ∈ escapes) :
    StringText (pieceOf c :: pieces) ('\\' :: letter :: text) := by
  have known : c ∈ escapes.map Prod.snd := List.mem_map_of_mem escape
  have piece : pieceOf c = .char c := if_neg fun both => both.2 known
  rw [piece]
  exact .escaped escape rest

theorem stringText_unit {c : Char} (control : c.toNat < 0x20)
    (noLetter : c ∉ escapes.map Prod.snd) :
    StringText (pieceOf c :: pieces) ('\\' :: 'u' :: '0' :: '0' :: hexDigit (c.toNat / 16) ::
      hexDigit (c.toNat % 16) :: text) := by
  have piece : pieceOf c = .unit c.toNat := if_pos ⟨control, noLetter⟩
  have unit := StringText.unit (hexDigit_hexDigit (by decide : 0 < 16))
    (hexDigit_hexDigit (by decide : 0 < 16)) (hexDigit_hexDigit (by omega : c.toNat / 16 < 16))
    (hexDigit_hexDigit (by omega : c.toNat % 16 < 16)) rest
  have code : 16 * (16 * (16 * 0 + 0) + c.toNat / 16) + c.toNat % 16 = c.toNat := by omega
  rw [code] at unit
  rw [piece]
  exact unit

theorem stringText_plain {c : Char} (notControl : ¬c.toNat < 0x20) (notQuote : c ≠ '"')
    (notBackslash : c ≠ '\\') : StringText (pieceOf c :: pieces) (c :: text) := by
  have piece : pieceOf c = .char c := if_neg fun both => notControl both.1
  rw [piece]
  exact .plain notQuote notBackslash (by omega) rest

theorem stringText_escape (c : Char) : StringText (pieceOf c :: pieces) (escape c ++ text) := by
  unfold escape
  split_ifs with quote backslash lineFeed carriageReturn tabulator backspace formFeed control
  · subst quote
    exact stringText_letter rest (by decide)
  · subst backslash
    exact stringText_letter rest (by decide)
  · subst lineFeed
    exact stringText_letter rest (by decide)
  · subst carriageReturn
    exact stringText_letter rest (by decide)
  · subst tabulator
    exact stringText_letter rest (by decide)
  · have equal : c = '\x08' := Char.toNat_inj.mp backspace
    subst equal
    exact stringText_letter rest (by decide)
  · have equal : c = '\x0c' := Char.toNat_inj.mp formFeed
    subst equal
    exact stringText_letter rest (by decide)
  · refine stringText_unit rest control ?_
    intro known
    simp only [escapes, List.map_cons, List.map_nil, List.mem_cons, List.not_mem_nil, or_false]
      at known
    rcases known with rfl | rfl | rfl | rfl | rfl | rfl | rfl | rfl <;> contradiction
  · exact stringText_plain rest control quote backslash

end Pieces

theorem quotedText_quote (text : String) : QuotedText (stringDraft text) (quote text) := by
  refine .quoted ?_
  induction text.toList with
  | nil => exact .empty
  | cons c characters inductionHypothesis =>
      rw [List.map_cons, List.flatMap_cons]
      exact stringText_escape inductionHypothesis c

theorem combinePieces_map (characters : List Char) :
    combinePieces none (characters.map pieceOf) = .ok characters := by
  induction characters with
  | nil => rfl
  | cons c characters inductionHypothesis =>
      rw [List.map_cons]
      by_cases isUnit : c.toNat < 0x20 ∧ c ∉ escapes.map Prod.snd
      · have piece : pieceOf c = .unit c.toNat := if_pos isUnit
        have noTrailing : ¬(0xDC00 ≤ c.toNat ∧ c.toNat ≤ 0xDFFF) := by omega
        have noLeading : c.toNat < 0xD800 ∨ 0xDFFF < c.toNat := by omega
        rw [piece]
        unfold combinePieces
        rw [if_neg noTrailing, if_pos noLeading, inductionHypothesis, Char.ofNat_toNat]
        rfl
      · have piece : pieceOf c = .char c := if_neg isUnit
        rw [piece, combinePieces, inductionHypothesis]
        rfl

@[simp]
theorem text_stringDraft (text : String) : (stringDraft text).text = .ok text := by
  unfold StringDraft.text stringDraft
  rw [combinePieces_map]
  simp [Except.map]

/-! ## Drafts of values -/

mutual

/-- The draft that is written for a value. -/
def draft : Json → Draft
  | .null => .null
  | .bool value => .bool value
  | .number numeral => .number numeral
  | .string text => .string (stringDraft text)
  | .array items => .array (draftItems items) none
  | .object members => .object (draftMembers members) none

def draftItems : List Json → List Draft
  | [] => []
  | item :: rest => draft item :: draftItems rest

def draftMembers : List (String × Json) → List (StringDraft × Draft)
  | [] => []
  | (key, value) :: rest => (stringDraft key, draft value) :: draftMembers rest

end

mutual

@[simp]
theorem toJson_draft (value : Json) : (draft value).toJson = .ok value := by
  match value with
  | .null => rfl
  | .bool value => rfl
  | .number numeral => rfl
  | .string text =>
      rw [draft, Draft.toJson, text_stringDraft]
      rfl
  | .array items =>
      rw [draft, Draft.toJson, itemsToJson_draftItems items]
      rfl
  | .object members =>
      rw [draft, Draft.toJson, membersToJson_draftMembers members]
      rfl

theorem itemsToJson_draftItems (items : List Json) :
    itemsToJson (draftItems items) = .ok items := by
  match items with
  | [] => rfl
  | item :: rest =>
      rw [draftItems, itemsToJson, toJson_draft item, itemsToJson_draftItems rest]
      rfl

theorem membersToJson_draftMembers (members : List (String × Json)) :
    membersToJson (draftMembers members) = .ok members := by
  match members with
  | [] => rfl
  | (key, value) :: rest =>
      rw [draftMembers, membersToJson, text_stringDraft, toJson_draft value,
        membersToJson_draftMembers rest]
      rfl

end

/-- All numerals of a value have as many digits behind the point as places. -/
inductive WellFormed : Json → Prop where
  | null : WellFormed .null
  | bool (value : Bool) : WellFormed (.bool value)
  | number {numeral : Numeral} (wellFormed : numeral.WellFormed) : WellFormed (.number numeral)
  | string (text : String) : WellFormed (.string text)
  | array {items : List Json} (all : ∀ item ∈ items, WellFormed item) : WellFormed (.array items)
  | object {members : List (String × Json)} (all : ∀ member ∈ members, WellFormed member.2) :
      WellFormed (.object members)

theorem wellFormed_integer (negative : Bool) (whole : Nat) :
    WellFormed (.number ⟨negative, whole, 0, 0, none⟩) :=
  .number Nat.one_pos

/-! ## Texts of values -/

theorem blank_nil : Blank [] :=
  fun _ mem => absurd mem List.not_mem_nil

theorem blank_lineBreak (level : Nat) : Blank (lineBreak level) := by
  intro c mem
  rcases List.mem_cons.mp mem with rfl | space
  · decide
  · rw [List.eq_of_mem_replicate space]
    decide

/-- A member with blanks in front of its key and of its value. -/
theorem spells_member {before inner text : List Char} {value : Json} (key : String)
    (blankBefore : Blank before) (blankInner : Blank inner)
    (spelled : Spells (.value (draft value)) text) :
    Spells (.member (stringDraft key) (draft value))
      (before ++ (quote key ++ ':' :: (inner ++ text))) := by
  have element : Spells (.element (draft value)) (inner ++ (text ++ [])) :=
    .element blankInner spelled blank_nil
  have member := Spells.member blankBefore (quotedText_quote key) blank_nil element
  simpa using member

theorem Blank.append {before after : List Char} (blankBefore : Blank before)
    (blankAfter : Blank after) : Blank (before ++ after) := by
  intro c mem
  rcases List.mem_append.mp mem with mem | mem
  · exact blankBefore c mem
  · exact blankAfter c mem

/-- Blanks may stand behind every phrase that is not a value itself. -/
theorem Spells.append_blank {phrase : Phrase} {text blank : List Char}
    (spelled : Spells phrase text) (isBlank : Blank blank)
    (spaced : ∀ draft, phrase ≠ .value draft) :
    Spells phrase (text ++ blank) := by
  induction spelled with
  | element blankBefore value blankAfter =>
      rw [List.append_assoc, List.append_assoc]
      exact .element blankBefore value (blankAfter.append isBlank)
  | lastItem _ inductionHypothesis => exact .lastItem (inductionHypothesis (by simp))
  | nextItem item _ _ inductionHypothesis =>
      rw [List.append_assoc]
      exact .nextItem item (inductionHypothesis (by simp))
  | member blankBefore quoted blankBetween _ inductionHypothesis =>
      have member := Spells.member blankBefore quoted blankBetween (inductionHypothesis (by simp))
      simpa using member
  | lastMember _ inductionHypothesis => exact .lastMember (inductionHypothesis (by simp))
  | nextMember member _ _ inductionHypothesis =>
      rw [List.append_assoc]
      exact .nextMember member (inductionHypothesis (by simp))
  | _ => exact absurd rfl (spaced _)

theorem spells_item {before text : List Char} {value : Json} (blankBefore : Blank before)
    (spelled : Spells (.value (draft value)) text) :
    Spells (.element (draft value)) (before ++ text) := by
  have element := Spells.element blankBefore spelled blank_nil
  simpa using element

section Compact

theorem spells_compactItems {item : Json} {rest : List Json}
    (all : ∀ other ∈ item :: rest, Spells (.value (draft other)) other.compactText) :
    Spells (.items (draftItems (item :: rest))) (compactItems (item :: rest)) := by
  have first := spells_item blank_nil (all item (.head rest))
  induction rest generalizing item with
  | nil => exact .lastItem first
  | cons next rest inductionHypothesis =>
      have allRest := fun other mem => all other (.tail item mem)
      exact .nextItem first
        (inductionHypothesis allRest (spells_item blank_nil (allRest next (.head rest))))

theorem spells_compactMembers {member : String × Json} {rest : List (String × Json)}
    (all : ∀ other ∈ member :: rest, Spells (.value (draft other.2)) other.2.compactText) :
    Spells (.members (draftMembers (member :: rest))) (compactMembers (member :: rest)) := by
  have first := spells_member member.1 blank_nil blank_nil (all member (.head rest))
  induction rest generalizing member with
  | nil => exact .lastMember first
  | cons next rest inductionHypothesis =>
      have allRest := fun other mem => all other (.tail member mem)
      have more := inductionHypothesis allRest
        (spells_member next.1 blank_nil blank_nil (allRest next (.head rest)))
      have spelled := Spells.nextMember first more
      simpa [compactMembers, draftMembers] using spelled

theorem spells_compactText {value : Json} (wellFormed : WellFormed value) :
    Spells (.value (draft value)) value.compactText := by
  induction wellFormed with
  | null => exact .null
  | bool value => exact .bool value
  | number wellFormed => exact .number (numberText_text wellFormed true)
  | string text => exact .string (quotedText_quote text)
  | @array items all inductionHypothesis =>
      cases items with
      | nil => exact .emptyArray blank_nil
      | cons item rest => exact .array (spells_compactItems inductionHypothesis)
  | @object members all inductionHypothesis =>
      cases members with
      | nil => exact .emptyObject blank_nil
      | cons member rest => exact .object (spells_compactMembers inductionHypothesis)

end Compact

section Pretty

variable {level : Nat}

theorem spells_prettyItems {item : Json} {rest : List Json}
    (all : ∀ other ∈ item :: rest, Spells (.value (draft other)) (other.prettyText level)) :
    Spells (.items (draftItems (item :: rest))) (prettyItems level (item :: rest)) := by
  have first := spells_item (blank_lineBreak level) (all item (.head rest))
  induction rest generalizing item with
  | nil => exact .lastItem first
  | cons next rest inductionHypothesis =>
      have allRest := fun other mem => all other (.tail item mem)
      have more := inductionHypothesis allRest
        (spells_item (blank_lineBreak level) (allRest next (.head rest)))
      have spelled := Spells.nextItem first more
      simpa [prettyItems, draftItems] using spelled

theorem spells_prettyMembers {member : String × Json} {rest : List (String × Json)}
    (all : ∀ other ∈ member :: rest, Spells (.value (draft other.2)) (other.2.prettyText level)) :
    Spells (.members (draftMembers (member :: rest))) (prettyMembers level (member :: rest)) := by
  have space : Blank [' '] := by
    intro c mem
    rw [List.mem_singleton.mp mem]
    decide
  have first := spells_member member.1 (blank_lineBreak level) space (all member (.head rest))
  induction rest generalizing member with
  | nil => exact .lastMember first
  | cons next rest inductionHypothesis =>
      have allRest := fun other mem => all other (.tail member mem)
      have more := inductionHypothesis allRest
        (spells_member next.1 (blank_lineBreak level) space (allRest next (.head rest)))
      have spelled := Spells.nextMember first more
      simpa [prettyMembers, draftMembers] using spelled

end Pretty

/-- The line break in front of a closing bracket stands behind the last item or member. -/
theorem spells_prettyText {value : Json} (wellFormed : WellFormed value) (level : Nat) :
    Spells (.value (draft value)) (value.prettyText level) := by
  induction wellFormed generalizing level with
  | null => exact .null
  | bool value => exact .bool value
  | number wellFormed => exact .number (numberText_text wellFormed true)
  | string text => exact .string (quotedText_quote text)
  | @array items all inductionHypothesis =>
      cases items with
      | nil => exact .emptyArray blank_nil
      | cons item rest =>
          have items := spells_prettyItems fun other mem =>
            inductionHypothesis other mem (level + 1)
          have spelled := Spells.array (items.append_blank (blank_lineBreak level) (by simp))
          rwa [List.append_assoc] at spelled
  | @object members all inductionHypothesis =>
      cases members with
      | nil => exact .emptyObject blank_nil
      | cons member rest =>
          have members := spells_prettyMembers fun other mem =>
            inductionHypothesis other mem (level + 1)
          have spelled := Spells.object (members.append_blank (blank_lineBreak level) (by simp))
          rwa [List.append_assoc] at spelled

/-! ## Written documents -/

theorem documentText_of_value {draft : Draft} {text : List Char}
    (spelled : Spells (.value draft) text) : DocumentText draft (String.ofList text) := by
  have element := Spells.element blank_nil spelled blank_nil
  unfold DocumentText
  simpa using element

variable {value : Json} (wellFormed : WellFormed value)
include wellFormed

theorem documentText_compact : DocumentText (draft value) value.compact :=
  documentText_of_value (spells_compactText wellFormed)

theorem documentText_pretty : DocumentText (draft value) value.pretty :=
  documentText_of_value (spells_prettyText wellFormed 0)

end CoordinateConformance.Json.Grammar
