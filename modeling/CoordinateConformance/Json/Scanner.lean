import CoordinateConformance.Decimal.Reader
import CoordinateConformance.Json.Draft

/-!
Contract: the scanner of JSON text.

Scanning never fails: a fault of the text becomes a part of the draft.

Owns: the grammar, with names, numbers, strings and nesting.
Does not own: what a reader expects to find.
-/

namespace CoordinateConformance

namespace Json

/-! ## Names -/

/-- Compares the rest of a name with the text behind its first letter. -/
def scanName (value : Draft) : List Char → List Char → Draft × Option (List Char)
  | [], text => (value, some text)
  | _ :: _, [] => (.fault .truncated .truncated, none)
  | expected :: name, c :: text =>
      if expected = c then scanName value name text else (.fault .malformed .malformed, none)

/-! ## Numbers -/

/-- A digit is due, and there is none. Only a reader that wants the number takes the end of the
text for a truncation. -/
def digitMissing (rest : List Char) : Draft × Option (List Char) :=
  (.fault (if rest.isEmpty then .truncated else .malformed) .malformed, none)

/-- The power of ten of a number whose other parts are read. -/
def scanPower (negative : Bool) (whole fraction : List Char) (text : List Char) :
    Draft × Option (List Char) :=
  let numeral (exponent : Option Int) : Draft :=
    .number ⟨negative, digitsValue whole, fraction.length, digitsValue fraction, exponent⟩
  match text with
  | [] => (numeral none, some [])
  | mark :: rest =>
      if mark = 'e' ∨ mark = 'E' then
        let (below, unsigned) := splitSign rest
        let digits := unsigned.takeWhile Char.isDigit
        let after := unsigned.dropWhile Char.isDigit
        if digits.isEmpty then digitMissing after
        else
          let size : Int := digitsValue digits
          (numeral (some (if below then -size else size)), some after)
      else (numeral none, some (mark :: rest))

/-- A number behind its sign: a whole part without superfluous zeros, perhaps a point and at least
one digit, perhaps a power of ten. -/
def scanNumber (negative : Bool) (text : List Char) : Draft × Option (List Char) :=
  let whole := text.takeWhile Char.isDigit
  let rest := text.dropWhile Char.isDigit
  match whole with
  | [] => digitMissing rest
  | '0' :: _ :: _ => (.fault .malformed .malformed, none)
  | _ =>
      match rest with
      | '.' :: rest =>
          let fraction := rest.takeWhile Char.isDigit
          let after := rest.dropWhile Char.isDigit
          if fraction.isEmpty then digitMissing after
          else scanPower negative whole fraction after
      | rest => scanPower negative whole [] rest

/-! ## Strings -/

def hexDigitValue? (c : Char) : Option Nat :=
  if c.isDigit then some (c.toNat - '0'.toNat)
  else if 'a' ≤ c ∧ c ≤ 'f' then some (c.toNat - 'a'.toNat + 10)
  else if 'A' ≤ c ∧ c ≤ 'F' then some (c.toNat - 'A'.toNat + 10)
  else none

def hexValue? (digits : List Char) : Option Nat :=
  digits.foldl
    (fun value digit => value.bind fun high => (hexDigitValue? digit).map (16 * high + ·))
    (some 0)

/-- The character that a letter behind a backslash stands for. -/
def escaped? (c : Char) : Option Char :=
  if c = '"' ∨ c = '\\' ∨ c = '/' then some c
  else if c = 'n' then some '\n'
  else if c = 'r' then some '\r'
  else if c = 't' then some '\t'
  else if c = 'b' then some '\x08'
  else if c = 'f' then some '\x0c'
  else none

def prependPiece (piece : StringPiece) (rest : StringDraft × Option (List Char)) :
    StringDraft × Option (List Char) :=
  (⟨piece :: rest.1.pieces, rest.1.ending⟩, rest.2)

def stringFault (fault : ReadFault) : StringDraft × Option (List Char) :=
  (⟨[], some fault⟩, none)

/-- A string behind its opening quotation mark. A unit takes the next four bytes whatever they are,
so it is truncated only if fewer than four bytes are left. -/
def scanString : List Char → StringDraft × Option (List Char)
  | [] => stringFault .truncated
  | '"' :: rest => (⟨[], none⟩, some rest)
  | '\\' :: 'u' :: a :: b :: c :: d :: rest =>
      match hexValue? [a, b, c, d] with
      | some code => prependPiece (.unit code) (scanString rest)
      | none => stringFault .malformed
  | '\\' :: 'u' :: rest =>
      stringFault (if (String.ofList rest).utf8ByteSize < 4 then .truncated else .malformed)
  | ['\\'] => stringFault .truncated
  | '\\' :: c :: rest =>
      match escaped? c with
      | some value => prependPiece (.char value) (scanString rest)
      | none => stringFault .malformed
  | c :: rest =>
      if c.toNat < 0x20 then stringFault .malformed
      else prependPiece (.char c) (scanString rest)

/-! ## Nesting -/

mutual

/-- A value, blanks in front of it skipped. Nothing follows a value with a fault. -/
def scanValue : Nat → List Char → Draft × Option (List Char)
  | 0, _ => (.fault .truncated .truncated, none)
  | fuel + 1, text =>
      match skipBlanks text with
      | [] => (.fault .truncated .truncated, none)
      | 'n' :: rest => scanName .null ['u', 'l', 'l'] rest
      | 't' :: rest => scanName (.bool true) ['r', 'u', 'e'] rest
      | 'f' :: rest => scanName (.bool false) ['a', 'l', 's', 'e'] rest
      | '"' :: rest =>
          let (draft, after) := scanString rest
          (.string draft, after)
      | '-' :: rest => scanNumber true rest
      | '[' :: rest =>
          match skipBlanks rest with
          | [] => (.array [] (some .truncated), none)
          | ']' :: after => (.array [] none, some after)
          | first =>
              let (items, ending, after) := scanItems fuel first
              (.array items ending, after)
      | '\x7b' :: rest =>
          match skipBlanks rest with
          | [] => (.object [] (some .truncated), none)
          | '\x7d' :: after => (.object [] none, some after)
          | first =>
              let (members, ending, after) := scanMembers fuel first
              (.object members ending, after)
      | c :: rest =>
          if c.isDigit then scanNumber false (c :: rest)
          else (.fault .malformed .malformed, none)

/-- The items of an array from one that is due to the closing bracket. -/
def scanItems : Nat → List Char → List Draft × Option ReadFault × Option (List Char)
  | 0, _ => ([], some .truncated, none)
  | fuel + 1, text =>
      match scanValue fuel text with
      | (item, none) => ([item], some .malformed, none)
      | (item, some rest) =>
          match skipBlanks rest with
          | [] => ([item], some .truncated, none)
          | ']' :: after => ([item], none, some after)
          | ',' :: next =>
              let (items, ending, after) := scanItems fuel next
              (item :: items, ending, after)
          | _ => ([item], some .malformed, none)

/-- The members of an object from one that is due to the closing brace. -/
def scanMembers : Nat → List Char →
    List (StringDraft × Draft) × Option ReadFault × Option (List Char)
  | 0, _ => ([], some .truncated, none)
  | fuel + 1, text =>
      match skipBlanks text with
      | [] => ([], some .truncated, none)
      | '"' :: rest =>
          match scanString rest with
          | (key, none) => ([(key, .fault .malformed .malformed)], some .malformed, none)
          | (key, some rest) =>
              match skipBlanks rest with
              | [] => ([(key, .fault .truncated .truncated)], some .truncated, none)
              | ':' :: rest =>
                  match scanValue fuel rest with
                  | (value, none) => ([(key, value)], some .malformed, none)
                  | (value, some rest) =>
                      match skipBlanks rest with
                      | [] => ([(key, value)], some .truncated, none)
                      | '\x7d' :: after => ([(key, value)], none, some after)
                      | ',' :: next =>
                          let (members, ending, after) := scanMembers fuel next
                          ((key, value) :: members, ending, after)
                      | _ => ([(key, value)], some .malformed, none)
              | _ => ([(key, .fault .malformed .malformed)], some .malformed, none)
      | _ => ([], some .malformed, none)

end

end Json

end CoordinateConformance
