import CoordinateConformance.Decimal.Reader
import CoordinateConformance.Json.Draft
import CoordinateConformance.Json.Printer

/-!
Contract: the texts of JSON, as a grammar.

`Spells phrase text` says that the text is a spelling of a phrase: of a value, or of the items or
members in it. Blanks may stand around every value and every key, a number may have any of its
spellings, and a character of a string may be written as it is, behind a backslash or as a unit of
four hexadecimal digits.

Owns: `NumberText`, `StringText`, `Spells`, `DocumentText`.

Does **not** own: how a text is scanned, and what its units of characters stand for.
-/

namespace CoordinateConformance.Json.Grammar

/-- Spaces, line breaks and tabulators. -/
def Blank (text : List Char) : Prop :=
  ∀ c ∈ text, c ∈ [' ', '\n', '\r', '\t']

/-! ## Numbers -/

structure DigitRun (digits : List Char) : Prop where
  nonempty : digits ≠ []
  digit : ∀ c ∈ digits, c.isDigit = true

/-- The digits before the point: a zero stands alone. -/
structure WholeText (digits : List Char) : Prop extends DigitRun digits where
  leading : digits.head? = some '0' → digits = ['0']

/-- The places behind the point, and the value of the digits in them. -/
inductive FractionText : Nat → Nat → List Char → Prop where
  | absent : FractionText 0 0 []
  | present {digits : List Char} (run : DigitRun digits) :
      FractionText digits.length (digitsValue digits) ('.' :: digits)

/-- What stands for the sign of an exponent. -/
inductive SignText : Bool → List Char → Prop where
  | absent : SignText false []
  | plus : SignText false ['+']
  | minus : SignText true ['-']

inductive PowerText : Option Int → List Char → Prop where
  | absent : PowerText none []
  | present {mark : Char} {below : Bool} {sign digits : List Char}
      (marked : mark = 'e' ∨ mark = 'E') (signed : SignText below sign) (run : DigitRun digits) :
      PowerText (some (if below then -(digitsValue digits : Int) else digitsValue digits))
        (mark :: (sign ++ digits))

inductive NumberText : Numeral → List Char → Prop where
  | number {whole fraction power : List Char} {places value : Nat} {exponent : Option Int}
      (negative : Bool) (wholeText : WholeText whole)
      (fractionText : FractionText places value fraction) (powerText : PowerText exponent power) :
      NumberText ⟨negative, digitsValue whole, places, value, exponent⟩
        ((if negative then ['-'] else []) ++ (whole ++ (fraction ++ power)))

/-! ## Strings -/

/-- The letters behind a backslash, and the characters they stand for. -/
def escapes : List (Char × Char) :=
  [('"', '"'), ('\\', '\\'), ('/', '/'), ('b', '\x08'), ('f', '\x0c'), ('n', '\n'), ('r', '\r'),
    ('t', '\t')]

/-- Hexadecimal digits in either case. -/
def HexDigit (c : Char) (value : Nat) : Prop :=
  value < 16 ∧ (c = Nat.digitChar value ∨ c = (Nat.digitChar value).toUpper)

/-- The text between the quotation marks. -/
inductive StringText : List StringPiece → List Char → Prop where
  | empty : StringText [] []
  | plain {c : Char} {pieces : List StringPiece} {text : List Char} (notQuote : c ≠ '"')
      (notBackslash : c ≠ '\\') (notControl : 0x20 ≤ c.toNat) (rest : StringText pieces text) :
      StringText (.char c :: pieces) (c :: text)
  | escaped {letter c : Char} {pieces : List StringPiece} {text : List Char}
      (escape : (letter, c) ∈ escapes) (rest : StringText pieces text) :
      StringText (.char c :: pieces) ('\\' :: letter :: text)
  | unit {a b c d : Char} {first second third fourth : Nat} {pieces : List StringPiece}
      {text : List Char} (firstDigit : HexDigit a first) (secondDigit : HexDigit b second)
      (thirdDigit : HexDigit c third) (fourthDigit : HexDigit d fourth)
      (rest : StringText pieces text) :
      StringText (.unit (16 * (16 * (16 * first + second) + third) + fourth) :: pieces)
        ('\\' :: 'u' :: a :: b :: c :: d :: text)

/-- A string in its quotation marks. -/
inductive QuotedText : StringDraft → List Char → Prop where
  | quoted {pieces : List StringPiece} {text : List Char} (inside : StringText pieces text) :
      QuotedText ⟨pieces, none⟩ ('"' :: (text ++ ['"']))

/-! ## Values -/

inductive Phrase where
  | value (draft : Draft)
  /-- A value with blanks around it. -/
  | element (draft : Draft)
  /-- The items of an array, at least one. -/
  | items (drafts : List Draft)
  | member (key : StringDraft) (draft : Draft)
  /-- The members of an object, at least one. -/
  | members (drafts : List (StringDraft × Draft))

inductive Spells : Phrase → List Char → Prop where
  | null : Spells (.value .null) nullText
  | bool (value : Bool) : Spells (.value (.bool value)) (boolText value)
  | number {numeral : Numeral} {text : List Char} (spelled : NumberText numeral text) :
      Spells (.value (.number numeral)) text
  | string {draft : StringDraft} {text : List Char} (quoted : QuotedText draft text) :
      Spells (.value (.string draft)) text
  | emptyArray {inner : List Char} (blank : Blank inner) :
      Spells (.value (.array [] none)) ('[' :: (inner ++ [']']))
  | array {drafts : List Draft} {text : List Char} (items : Spells (.items drafts) text) :
      Spells (.value (.array drafts none)) ('[' :: (text ++ [']']))
  | emptyObject {inner : List Char} (blank : Blank inner) :
      Spells (.value (.object [] none)) ('\x7b' :: (inner ++ ['\x7d']))
  | object {drafts : List (StringDraft × Draft)} {text : List Char}
      (members : Spells (.members drafts) text) :
      Spells (.value (.object drafts none)) ('\x7b' :: (text ++ ['\x7d']))
  | element {draft : Draft} {before text after : List Char} (blankBefore : Blank before)
      (value : Spells (.value draft) text) (blankAfter : Blank after) :
      Spells (.element draft) (before ++ (text ++ after))
  | lastItem {draft : Draft} {text : List Char} (item : Spells (.element draft) text) :
      Spells (.items [draft]) text
  | nextItem {draft : Draft} {drafts : List Draft} {text more : List Char}
      (item : Spells (.element draft) text) (rest : Spells (.items drafts) more) :
      Spells (.items (draft :: drafts)) (text ++ ',' :: more)
  | member {key : StringDraft} {draft : Draft} {before name between text : List Char}
      (blankBefore : Blank before) (quoted : QuotedText key name) (blankBetween : Blank between)
      (value : Spells (.element draft) text) :
      Spells (.member key draft) (before ++ (name ++ (between ++ ':' :: text)))
  | lastMember {key : StringDraft} {draft : Draft} {text : List Char}
      (member : Spells (.member key draft) text) : Spells (.members [(key, draft)]) text
  | nextMember {key : StringDraft} {draft : Draft} {drafts : List (StringDraft × Draft)}
      {text more : List Char} (member : Spells (.member key draft) text)
      (rest : Spells (.members drafts) more) :
      Spells (.members ((key, draft) :: drafts)) (text ++ ',' :: more)

/-- A document is a value with blanks around it. -/
def DocumentText (draft : Draft) (text : String) : Prop :=
  Spells (.element draft) text.toList

end CoordinateConformance.Json.Grammar
