import CoordinateConformance.Json.Basic

/-!
Contract: JSON text as far as it can be read.

Where the text breaks off or breaks the grammar, the `Draft` holds a fault in that place and ends
there. A reader walks the draft in the order of the text, so among several faults it reports the
first one, whether that is a fault of the text or a value of the wrong kind.
-/

namespace CoordinateConformance

inductive ReadFault where
  | truncated
  | malformed
  /-- The text is fine so far, but the value is not the wanted one. -/
  | mismatched
deriving DecidableEq, Repr

namespace Json

/-- A character of a string, or a 16-bit unit written as four hexadecimal digits. -/
inductive StringPiece where
  | char (value : Char)
  | unit (code : Nat)
deriving DecidableEq, Repr

/-- A string up to its closing quotation mark, or up to a fault. -/
structure StringDraft where
  pieces : List StringPiece
  ending : Option ReadFault
deriving DecidableEq, Repr

/-- A value up to its end, or up to a fault. An array or object without an ending fault is
closed. -/
inductive Draft where
  | null
  | bool (value : Bool)
  | number (numeral : Numeral)
  | string (draft : StringDraft)
  | array (items : List Draft) (ending : Option ReadFault)
  | object (members : List (StringDraft × Draft)) (ending : Option ReadFault)
  /-- No value: the fault for a reader that wants the value, and for one that skips it. -/
  | fault (wanted skipped : ReadFault)
deriving Repr

def isBlank (c : Char) : Bool :=
  c == ' ' || c == '\n' || c == '\r' || c == '\t'

def skipBlanks (text : List Char) : List Char :=
  text.dropWhile isBlank

end Json

end CoordinateConformance
