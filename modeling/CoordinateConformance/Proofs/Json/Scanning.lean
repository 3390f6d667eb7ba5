import Mathlib.Data.List.DropRight
import Mathlib.Tactic.IntervalCases
import CoordinateConformance.Json.Scanner
import CoordinateConformance.Proofs.Json.Grammar

/-!
Contract: what the grammar spells, the scanner takes in.

A spelled value in front of a text that cannot go on with it is scanned as the value, and the text
is left. The steps of the scanner are bounded by twice the length of what it takes in. A whole
document is therefore scanned without a fault, and only blanks are left of it.

Owns: `scan_spelled`, `scanValue_document`.

Does **not** own: texts that no value spells.
-/

namespace CoordinateConformance.Json.Grammar

/-! ## Blanks -/

theorem isBlank_iff {c : Char} : isBlank c = true ↔ c ∈ [' ', '\n', '\r', '\t'] := by
  simp [isBlank, or_assoc]

theorem skipBlanks_append {blank : List Char} (isBlank : Blank blank) (rest : List Char) :
    skipBlanks (blank ++ rest) = skipBlanks rest :=
  List.dropWhile_append_of_pos fun c mem => isBlank_iff.mpr (isBlank c mem)

@[simp]
theorem skipBlanks_cons {c : Char} (visible : isBlank c = false) (rest : List Char) :
    skipBlanks (c :: rest) = c :: rest :=
  List.dropWhile_cons_of_neg (by simp [visible])

@[simp]
theorem skipBlanks_idempotent (text : List Char) : skipBlanks (skipBlanks text) = skipBlanks text :=
  List.dropWhile_idempotent isBlank text

theorem isBlank_of_isDigit {c : Char} (digit : c.isDigit = true) : isBlank c = false := by
  rw [← Bool.not_eq_true, isBlank_iff]
  intro blank
  have noDigits : ∀ c ∈ [' ', '\n', '\r', '\t'], c.isDigit = false := by simp
  rw [noDigits c blank] at digit
  cases digit

/-! ## Numbers -/

/-- A number that stands in front of the text ends there. -/
def EndsNumber (text : List Char) : Prop :=
  ∀ c ∈ text.head?, c.isDigit = false ∧ c ≠ '.' ∧ c ≠ 'e' ∧ c ≠ 'E'

/-- A run of digits in front of the text ends there. -/
def EndsDigits (text : List Char) : Prop :=
  ∀ c ∈ text.head?, c.isDigit = false

theorem EndsNumber.endsDigits {text : List Char} (ends : EndsNumber text) : EndsDigits text :=
  fun c mem => (ends c mem).1

theorem endsDigits_cons {c : Char} (notDigit : c.isDigit = false) (text : List Char) :
    EndsDigits (c :: text) := by
  intro d mem
  cases mem
  exact notDigit

namespace DigitRun

variable {digits rest : List Char} (run : DigitRun digits) (ends : EndsDigits rest)
include run ends

theorem takeWhile_append : (digits ++ rest).takeWhile Char.isDigit = digits := by
  rw [List.takeWhile_append_of_pos run.digit]
  cases rest with
  | nil => simp
  | cons c rest => simp [ends c rfl]

theorem dropWhile_append : (digits ++ rest).dropWhile Char.isDigit = rest := by
  rw [List.dropWhile_append_of_pos run.digit]
  cases rest with
  | nil => simp
  | cons c rest => simp [ends c rfl]

end DigitRun

theorem DigitRun.isEmpty {digits : List Char} (run : DigitRun digits) : digits.isEmpty = false := by
  cases digits with
  | nil => exact absurd rfl run.nonempty
  | cons _ _ => rfl

theorem splitSign_append {below : Bool} {sign digits : List Char} (signed : SignText below sign)
    (run : DigitRun digits) (rest : List Char) :
    splitSign (sign ++ (digits ++ rest)) = (below, digits ++ rest) := by
  cases signed with
  | absent =>
      cases digits with
      | nil => exact absurd rfl run.nonempty
      | cons c digits =>
          have digit := run.digit c (.head digits)
          have notMinus : c ≠ '-' := by
            rintro rfl
            exact absurd digit (by decide)
          have notPlus : c ≠ '+' := by
            rintro rfl
            exact absurd digit (by decide)
          simp [splitSign, notMinus, notPlus]
  | plus => rfl
  | minus => rfl

/-- The power of ten is read, or the text ends the number. -/
theorem scanPower_append {exponent : Option Int} {power rest : List Char}
    (powerText : PowerText exponent power) (ends : EndsNumber rest) (negative : Bool)
    (whole fraction : List Char) :
    scanPower negative whole fraction (power ++ rest) =
      (.number ⟨negative, digitsValue whole, fraction.length, digitsValue fraction, exponent⟩,
        some rest) := by
  cases powerText with
  | absent =>
      cases rest with
      | nil => rfl
      | cons c rest =>
          obtain ⟨_, _, notSmall, notCapital⟩ := ends c rfl
          simp [scanPower, notSmall, notCapital]
  | @present mark below sign digits marked signed run =>
      have shape : mark :: (sign ++ digits) ++ rest = mark :: (sign ++ (digits ++ rest)) := by simp
      rw [shape, scanPower, if_pos marked]
      dsimp only
      rw [splitSign_append signed run, run.takeWhile_append ends.endsDigits,
        run.dropWhile_append ends.endsDigits, run.isEmpty]
      rfl

theorem PowerText.endsDigits {exponent : Option Int} {power rest : List Char}
    (powerText : PowerText exponent power) (ends : EndsNumber rest) :
    EndsDigits (power ++ rest) := by
  cases powerText with
  | absent => exact ends.endsDigits
  | present marked signed run =>
      refine endsDigits_cons ?_ _
      rcases marked with rfl | rfl <;> decide

/-- A whole part is one zero, or its first digit is another one. -/
theorem WholeText.cases {whole : List Char} (wholeText : WholeText whole) :
    whole = ['0'] ∨ ∃ c digits, whole = c :: digits ∧ c ≠ '0' := by
  cases whole with
  | nil => exact absurd rfl wholeText.nonempty
  | cons c digits =>
      by_cases zero : c = '0'
      · subst zero
        exact Or.inl (wholeText.leading rfl)
      · exact Or.inr ⟨c, digits, rfl, zero⟩

/-- The part of a number behind its whole part. -/
def scanFraction (negative : Bool) (whole : List Char) : List Char → Draft × Option (List Char)
  | '.' :: rest =>
      let fraction := rest.takeWhile Char.isDigit
      let after := rest.dropWhile Char.isDigit
      if fraction.isEmpty then digitMissing after else scanPower negative whole fraction after
  | rest => scanPower negative whole [] rest

/-- A whole part is not refused for superfluous zeros. -/
theorem scanNumber_eq {whole rest : List Char} (wholeText : WholeText whole)
    (ends : EndsDigits rest) (negative : Bool) :
    scanNumber negative (whole ++ rest) = scanFraction negative whole rest := by
  unfold scanNumber
  rw [wholeText.takeWhile_append ends, wholeText.dropWhile_append ends]
  rcases wholeText.cases with rfl | ⟨c, digits, rfl, notZero⟩
  · unfold scanFraction
    rfl
  · unfold scanFraction
    simp only
    split
    next equal => cases equal
    next equal => exact absurd (List.cons.inj equal).1 notZero
    next => rfl

theorem scanNumber_append {negative : Bool} {whole fraction power rest : List Char}
    {places value : Nat} {exponent : Option Int} (wholeText : WholeText whole)
    (fractionText : FractionText places value fraction) (powerText : PowerText exponent power)
    (ends : EndsNumber rest) :
    scanNumber negative (whole ++ (fraction ++ power ++ rest)) =
      (.number ⟨negative, digitsValue whole, places, value, exponent⟩, some rest) := by
  cases fractionText with
  | absent =>
      rw [List.nil_append, scanNumber_eq wholeText (powerText.endsDigits ends)]
      have noPoint : ∀ more, power ++ rest ≠ '.' :: more := by
        intro more equal
        cases powerText with
        | absent =>
            rw [List.nil_append] at equal
            exact (ends '.' (by rw [equal]; rfl)).2.1 rfl
        | present marked signed run =>
            injection equal with markEq
            rcases marked with rfl | rfl <;> exact absurd markEq (by decide)
      have skipped : scanFraction negative whole (power ++ rest) =
          scanPower negative whole [] (power ++ rest) := by
        unfold scanFraction
        split
        next more equal => exact absurd equal (noPoint more)
        next => rfl
      rw [skipped, scanPower_append powerText ends]
      rfl
  | @present digits run =>
      have point : EndsDigits ('.' :: digits ++ power ++ rest) := endsDigits_cons (by decide) _
      have powerEnds := powerText.endsDigits ends
      rw [scanNumber_eq wholeText point]
      simp only [scanFraction, List.cons_append, List.append_assoc]
      rw [run.takeWhile_append powerEnds, run.dropWhile_append powerEnds, run.isEmpty,
        scanPower_append powerText ends]
      rfl

/-! ## Strings -/

@[simp]
theorem hexDigitValue?_of_hexDigit {c : Char} {value : Nat} (digit : HexDigit c value) :
    hexDigitValue? c = some value := by
  obtain ⟨small, isDigit⟩ := digit
  interval_cases value <;> rcases isDigit with rfl | rfl <;> decide

theorem hexValue?_of_hexDigits {a b c d : Char} {first second third fourth : Nat}
    (firstDigit : HexDigit a first) (secondDigit : HexDigit b second)
    (thirdDigit : HexDigit c third) (fourthDigit : HexDigit d fourth) :
    hexValue? [a, b, c, d] =
      some (16 * (16 * (16 * first + second) + third) + fourth) := by
  simp [hexValue?, hexDigitValue?_of_hexDigit firstDigit, hexDigitValue?_of_hexDigit secondDigit,
    hexDigitValue?_of_hexDigit thirdDigit, hexDigitValue?_of_hexDigit fourthDigit]

theorem escaped?_of_mem {letter c : Char} (mem : (letter, c) ∈ escapes) :
    letter ≠ 'u' ∧ escaped? letter = some c := by
  have all : ∀ escape ∈ escapes, escape.1 ≠ 'u' ∧ escaped? escape.1 = some escape.2 := by decide
  exact all (letter, c) mem

theorem scanString_append {pieces : List StringPiece} {text : List Char}
    (spelled : StringText pieces text) (rest : List Char) :
    scanString (text ++ '"' :: rest) = (⟨pieces, none⟩, some rest) := by
  induction spelled with
  | empty => simp [scanString]
  | @plain c pieces text notQuote notBackslash notControl _ inductionHypothesis =>
      have shown : ¬c.toNat < 0x20 := by omega
      simp [scanString, notBackslash, shown, inductionHypothesis, prependPiece]
  | @escaped letter c pieces text escape _ inductionHypothesis =>
      obtain ⟨notUnit, value⟩ := escaped?_of_mem escape
      simp [scanString, notUnit, value, inductionHypothesis, prependPiece]
  | @unit a b c d first second third fourth pieces text firstDigit secondDigit thirdDigit
      fourthDigit _ inductionHypothesis =>
      have code := hexValue?_of_hexDigits firstDigit secondDigit thirdDigit fourthDigit
      simp [scanString, code, inductionHypothesis, prependPiece]

/-! ## Blanks in front of a phrase -/

@[simp]
theorem scanValue_skipBlanks (fuel : Nat) (text : List Char) :
    scanValue fuel (skipBlanks text) = scanValue fuel text := by
  cases fuel with
  | zero => rfl
  | succ fuel => simp only [scanValue, skipBlanks_idempotent]

@[simp]
theorem scanItems_skipBlanks (fuel : Nat) (text : List Char) :
    scanItems fuel (skipBlanks text) = scanItems fuel text := by
  cases fuel with
  | zero => rfl
  | succ fuel => simp only [scanItems, scanValue_skipBlanks]

@[simp]
theorem scanMembers_skipBlanks (fuel : Nat) (text : List Char) :
    scanMembers fuel (skipBlanks text) = scanMembers fuel text := by
  cases fuel with
  | zero => rfl
  | succ fuel => simp only [scanMembers, skipBlanks_idempotent]

theorem scanValue_blank {blank : List Char} (isBlank : Blank blank) (fuel : Nat)
    (text : List Char) : scanValue fuel (blank ++ text) = scanValue fuel text := by
  rw [← scanValue_skipBlanks, skipBlanks_append isBlank, scanValue_skipBlanks]

theorem EndsNumber.append {blank rest : List Char} (ends : EndsNumber rest)
    (isBlank : Blank blank) : EndsNumber (blank ++ rest) := by
  cases blank with
  | nil => exact ends
  | cons c blank =>
      intro d mem
      cases mem
      have all : ∀ c ∈ [' ', '\n', '\r', '\t'],
          c.isDigit = false ∧ c ≠ '.' ∧ c ≠ 'e' ∧ c ≠ 'E' := by simp
      exact all c (isBlank c (.head blank))

/-! ## First characters -/

/-- A value begins with a visible character that closes no array. -/
theorem Spells.head_value {draft : Draft} {text : List Char}
    (spelled : Spells (.value draft) text) :
    ∃ c more, text = c :: more ∧ isBlank c = false ∧ c ≠ ']' := by
  cases spelled with
  | null => exact ⟨_, _, rfl, by decide, by decide⟩
  | bool value => cases value <;> exact ⟨_, _, rfl, by decide, by decide⟩
  | number number =>
      cases number with
      | @number whole fraction power places value exponent negative wholeText =>
          cases whole with
          | nil => exact absurd rfl wholeText.nonempty
          | cons c whole =>
              have digit := wholeText.digit c (.head whole)
              cases negative with
              | true => exact ⟨_, _, rfl, by decide, by decide⟩
              | false =>
                  refine ⟨c, _, rfl, isBlank_of_isDigit digit, ?_⟩
                  rintro rfl
                  exact absurd digit (by decide)
  | string quoted =>
      cases quoted
      exact ⟨_, _, rfl, by decide, by decide⟩
  | _ => exact ⟨_, _, rfl, by decide, by decide⟩

theorem Spells.head_element {draft : Draft} {text : List Char}
    (spelled : Spells (.element draft) text) (rest : List Char) :
    ∃ c more, skipBlanks (text ++ rest) = c :: more ∧ c ≠ ']' := by
  cases spelled with
  | @element _ before text after blankBefore value blankAfter =>
      obtain ⟨c, more, rfl, visible, notClosing⟩ := value.head_value
      refine ⟨c, more ++ after ++ rest, ?_, notClosing⟩
      rw [List.append_assoc, skipBlanks_append blankBefore, List.cons_append, List.cons_append,
        skipBlanks_cons visible]

theorem Spells.head_items {drafts : List Draft} {text : List Char}
    (spelled : Spells (.items drafts) text) (rest : List Char) :
    ∃ c more, skipBlanks (text ++ rest) = c :: more ∧ c ≠ ']' := by
  cases spelled with
  | lastItem item => exact item.head_element rest
  | @nextItem _ _ text more item _ =>
      rw [List.append_assoc]
      exact item.head_element _

theorem Spells.head_member {key : StringDraft} {draft : Draft} {text : List Char}
    (spelled : Spells (.member key draft) text) (rest : List Char) :
    ∃ more, skipBlanks (text ++ rest) = '"' :: more := by
  cases spelled with
  | @member _ _ before name between text blankBefore quoted blankBetween value =>
      cases quoted
      rw [List.append_assoc, skipBlanks_append blankBefore]
      exact ⟨_, skipBlanks_cons (by decide) _⟩

theorem Spells.head_members {drafts : List (StringDraft × Draft)} {text : List Char}
    (spelled : Spells (.members drafts) text) (rest : List Char) :
    ∃ more, skipBlanks (text ++ rest) = '"' :: more := by
  cases spelled with
  | lastMember member => exact member.head_member rest
  | @nextMember _ _ _ text more member _ =>
      rw [List.append_assoc]
      exact member.head_member _

/-! ## Nesting -/

/-- What is scanned behind the value of a member. -/
def scanMembersBehind (fuel : Nat) (key : StringDraft) (value : Draft) (text : List Char) :
    List (StringDraft × Draft) × Option ReadFault × Option (List Char) :=
  match skipBlanks text with
  | [] => ([(key, value)], some .truncated, none)
  | '\x7d' :: after => ([(key, value)], none, some after)
  | ',' :: next =>
      let (members, ending, after) := scanMembers fuel next
      ((key, value) :: members, ending, after)
  | _ => ([(key, value)], some .malformed, none)

/-- What scanning makes of a phrase in front of a text that ends it. Twice the length of the phrase
is enough fuel, and one more where a scanner of items or members calls that of a value. -/
def Scanned : Phrase → List Char → Prop
  | .value draft, text => ∀ fuel rest, EndsNumber rest → 2 * text.length ≤ fuel →
      scanValue fuel (text ++ rest) = (draft, some rest)
  | .element draft, text => ∀ fuel rest, EndsNumber rest → 2 * text.length ≤ fuel →
      ∃ after, Blank after ∧ scanValue fuel (text ++ rest) = (draft, some (after ++ rest))
  | .items drafts, text => ∀ fuel rest, 2 * text.length + 1 ≤ fuel →
      scanItems fuel (text ++ ']' :: rest) = (drafts, none, some rest)
  | .member key draft, text => ∀ fuel rest, EndsNumber rest → 2 * text.length ≤ fuel →
      ∃ after, Blank after ∧
        scanMembers (fuel + 1) (text ++ rest) = scanMembersBehind fuel key draft (after ++ rest)
  | .members drafts, text => ∀ fuel rest, 2 * text.length + 1 ≤ fuel →
      scanMembers fuel (text ++ '\x7d' :: rest) = (drafts, none, some rest)

theorem endsNumber_cons {c : Char} (ends : c.isDigit = false ∧ c ≠ '.' ∧ c ≠ 'e' ∧ c ≠ 'E')
    (text : List Char) : EndsNumber (c :: text) := by
  intro d mem
  cases mem
  exact ends

section Values

/-- The fuel of a value is spent on its first character. -/
theorem Scanned.of_cons {draft : Draft} {c : Char} {text : List Char}
    (scanned : ∀ fuel rest, EndsNumber rest → 2 * text.length + 1 ≤ fuel →
      scanValue (fuel + 1) (c :: (text ++ rest)) = (draft, some rest)) :
    Scanned (.value draft) (c :: text) := by
  intro fuel rest ends enough
  rw [List.length_cons] at enough
  cases fuel with
  | zero => omega
  | succ fuel => exact scanned fuel rest ends (by omega)

/-- A number begins with its sign or with a digit. -/
theorem scanned_number {numeral : Numeral} {text : List Char} (spelled : NumberText numeral text) :
    Scanned (.value (.number numeral)) text := by
  cases spelled with
  | @number whole fraction power places value exponent negative wholeText fractionText powerText =>
      have scanned : ∀ rest, EndsNumber rest → scanNumber negative
          (whole ++ (fraction ++ power) ++ rest) =
            (.number ⟨negative, digitsValue whole, places, value, exponent⟩, some rest) := by
        intro rest ends
        rw [List.append_assoc]
        exact scanNumber_append wholeText fractionText powerText ends
      cases negative with
      | true => exact .of_cons fun fuel rest ends _ => scanned rest ends
      | false =>
          cases whole with
          | nil => exact absurd rfl wholeText.nonempty
          | cons c whole =>
              have digit := wholeText.digit c (.head whole)
              have visible := isBlank_of_isDigit digit
              have start : ∀ other ∈ ['n', 't', 'f', '"', '-', '[', '\x7b'], c ≠ other := by
                rintro other mem rfl
                have noDigits : ∀ other ∈ ['n', 't', 'f', '"', '-', '[', '\x7b'],
                    other.isDigit = false := by simp
                rw [noDigits c mem] at digit
                cases digit
              simp only [List.mem_cons, List.not_mem_nil, or_false, forall_eq_or_imp,
                forall_eq] at start
              refine .of_cons fun fuel rest ends _ => ?_
              rw [← scanned rest ends]
              simp [scanValue, skipBlanks_cons visible, start, digit]

theorem scanned_string {draft : StringDraft} {text : List Char} (quoted : QuotedText draft text) :
    Scanned (.value (.string draft)) text := by
  cases quoted with
  | quoted inside =>
      refine .of_cons fun fuel rest ends _ => ?_
      have scanned := scanString_append inside rest
      simp [scanValue, isBlank, scanned]

theorem scanned_name (value : Draft) {name : List Char} (rest : List Char) :
    scanName value name (name ++ rest) = (value, some rest) := by
  induction name with
  | nil => rfl
  | cons c name inductionHypothesis =>
      rw [List.cons_append, scanName, if_pos rfl]
      exact inductionHypothesis

theorem scanned_emptyArray {inner : List Char} (blank : Blank inner) :
    Scanned (.value (.array [] none)) ('[' :: (inner ++ [']'])) := by
  refine .of_cons fun fuel rest ends _ => ?_
  simp [scanValue, isBlank, skipBlanks_append blank]

theorem scanned_array {drafts : List Draft} {text : List Char}
    (spelled : Spells (.items drafts) text) (scanned : Scanned (.items drafts) text) :
    Scanned (.value (.array drafts none)) ('[' :: (text ++ [']'])) := by
  refine .of_cons fun fuel rest ends enough => ?_
  rw [List.length_append, List.length_singleton] at enough
  have items := scanned fuel rest (by omega)
  obtain ⟨c, more, head, notClosing⟩ := spelled.head_items (']' :: rest)
  rw [← scanItems_skipBlanks, head] at items
  simp [scanValue, isBlank, head, notClosing, items]

theorem scanned_emptyObject {inner : List Char} (blank : Blank inner) :
    Scanned (.value (.object [] none)) ('\x7b' :: (inner ++ ['\x7d'])) := by
  refine .of_cons fun fuel rest ends _ => ?_
  simp [scanValue, isBlank, skipBlanks_append blank]

theorem scanned_object {drafts : List (StringDraft × Draft)} {text : List Char}
    (spelled : Spells (.members drafts) text) (scanned : Scanned (.members drafts) text) :
    Scanned (.value (.object drafts none)) ('\x7b' :: (text ++ ['\x7d'])) := by
  refine .of_cons fun fuel rest ends enough => ?_
  rw [List.length_append, List.length_singleton] at enough
  have members := scanned fuel rest (by omega)
  obtain ⟨more, head⟩ := spelled.head_members ('\x7d' :: rest)
  rw [← scanMembers_skipBlanks, head] at members
  simp [scanValue, isBlank, head, members]

end Values

section Lists

theorem scanned_element {draft : Draft} {before text after : List Char}
    (blankBefore : Blank before) (blankAfter : Blank after)
    (scanned : Scanned (.value draft) text) :
    Scanned (.element draft) (before ++ (text ++ after)) := by
  intro fuel rest ends enough
  simp only [List.length_append] at enough
  refine ⟨after, blankAfter, ?_⟩
  rw [List.append_assoc, List.append_assoc, scanValue_blank blankBefore]
  exact scanned fuel (after ++ rest) (ends.append blankAfter) (by omega)

theorem scanned_lastItem {draft : Draft} {text : List Char}
    (scanned : Scanned (.element draft) text) : Scanned (.items [draft]) text := by
  intro fuel rest enough
  obtain ⟨fuel, rfl⟩ := Nat.exists_eq_add_one_of_ne_zero (by omega : fuel ≠ 0)
  obtain ⟨after, blankAfter, value⟩ :=
    scanned fuel (']' :: rest) (endsNumber_cons (by decide) rest) (by omega)
  simp [scanItems, value, skipBlanks_append blankAfter, isBlank]

theorem scanned_nextItem {draft : Draft} {drafts : List Draft} {text more : List Char}
    (scanned : Scanned (.element draft) text) (scannedRest : Scanned (.items drafts) more) :
    Scanned (.items (draft :: drafts)) (text ++ ',' :: more) := by
  intro fuel rest enough
  simp only [List.length_append, List.length_cons] at enough
  obtain ⟨fuel, rfl⟩ := Nat.exists_eq_add_one_of_ne_zero (by omega : fuel ≠ 0)
  have items := scannedRest fuel rest (by omega)
  obtain ⟨after, blankAfter, value⟩ :=
    scanned fuel (',' :: (more ++ ']' :: rest)) (endsNumber_cons (by decide) _) (by omega)
  simp [scanItems, value, skipBlanks_append blankAfter, isBlank, items]

theorem scanned_member {key : StringDraft} {draft : Draft} {before name between text : List Char}
    (blankBefore : Blank before) (quoted : QuotedText key name) (blankBetween : Blank between)
    (scanned : Scanned (.element draft) text) :
    Scanned (.member key draft) (before ++ (name ++ (between ++ ':' :: text))) := by
  intro fuel rest ends enough
  simp only [List.length_append, List.length_cons] at enough
  obtain ⟨after, blankAfter, value⟩ := scanned fuel rest ends (by omega)
  refine ⟨after, blankAfter, ?_⟩
  cases quoted with
  | @quoted pieces inner inside =>
      have name := scanString_append inside (between ++ ':' :: (text ++ rest))
      have shape : before ++ ('"' :: (inner ++ ['"']) ++ (between ++ ':' :: text)) ++ rest =
          before ++ '"' :: (inner ++ '"' :: (between ++ ':' :: (text ++ rest))) := by simp
      rw [shape]
      simp [scanMembers, skipBlanks_append blankBefore, isBlank, name,
        skipBlanks_append blankBetween, value]
      rfl

theorem scanned_lastMember {key : StringDraft} {draft : Draft} {text : List Char}
    (scanned : Scanned (.member key draft) text) : Scanned (.members [(key, draft)]) text := by
  intro fuel rest enough
  obtain ⟨fuel, rfl⟩ := Nat.exists_eq_add_one_of_ne_zero (by omega : fuel ≠ 0)
  obtain ⟨after, blankAfter, member⟩ :=
    scanned fuel ('\x7d' :: rest) (endsNumber_cons (by decide) rest) (by omega)
  simp [member, scanMembersBehind, skipBlanks_append blankAfter, isBlank]

theorem scanned_nextMember {key : StringDraft} {draft : Draft}
    {drafts : List (StringDraft × Draft)} {text more : List Char}
    (scanned : Scanned (.member key draft) text) (scannedRest : Scanned (.members drafts) more) :
    Scanned (.members ((key, draft) :: drafts)) (text ++ ',' :: more) := by
  intro fuel rest enough
  simp only [List.length_append, List.length_cons] at enough
  obtain ⟨fuel, rfl⟩ := Nat.exists_eq_add_one_of_ne_zero (by omega : fuel ≠ 0)
  have members := scannedRest fuel rest (by omega)
  obtain ⟨after, blankAfter, member⟩ :=
    scanned fuel (',' :: (more ++ '\x7d' :: rest)) (endsNumber_cons (by decide) _) (by omega)
  simp [member, scanMembersBehind, skipBlanks_append blankAfter, isBlank, members]

end Lists

/-- Every spelled phrase is scanned as what it spells. -/
theorem scan_spelled {phrase : Phrase} {text : List Char} (spelled : Spells phrase text) :
    Scanned phrase text := by
  induction spelled with
  | null => exact .of_cons fun fuel rest ends _ => scanned_name .null rest
  | bool value =>
      cases value with
      | true => exact .of_cons fun fuel rest ends _ => scanned_name (.bool true) rest
      | false => exact .of_cons fun fuel rest ends _ => scanned_name (.bool false) rest
  | number spelled => exact scanned_number spelled
  | string quoted => exact scanned_string quoted
  | emptyArray blank => exact scanned_emptyArray blank
  | array items scanned => exact scanned_array items scanned
  | emptyObject blank => exact scanned_emptyObject blank
  | object members scanned => exact scanned_object members scanned
  | element blankBefore _ blankAfter scanned => exact scanned_element blankBefore blankAfter scanned
  | lastItem _ scanned => exact scanned_lastItem scanned
  | nextItem _ _ scanned scannedRest => exact scanned_nextItem scanned scannedRest
  | member blankBefore quoted blankBetween _ scanned =>
      exact scanned_member blankBefore quoted blankBetween scanned
  | lastMember _ scanned => exact scanned_lastMember scanned
  | nextMember _ _ scanned scannedRest => exact scanned_nextMember scanned scannedRest

/-! ## Documents -/

theorem scanValue_document {draft : Draft} {text : String} (document : DocumentText draft text) :
    ∃ rest, scanValue (2 * text.toList.length + 2) text.toList = (draft, some rest) ∧
      Blank rest := by
  have ends : EndsNumber [] := by
    intro c mem
    cases mem
  obtain ⟨after, blankAfter, scanned⟩ :=
    scan_spelled document (2 * text.toList.length + 2) [] ends (by omega)
  rw [List.append_nil, List.append_nil] at scanned
  exact ⟨after, scanned, blankAfter⟩

end CoordinateConformance.Json.Grammar
