import CoordinateConformance.Json.Basic

/-!
Contract: the text of JSON values.

`compact` writes no blanks; `pretty` indents by two spaces and writes empty arrays and objects on
one line. Both are built as lists of characters.
-/

namespace CoordinateConformance

namespace Json

def hexDigit (value : Nat) : Char :=
  if value < 10 then Char.ofNat ('0'.toNat + value) else Char.ofNat ('a'.toNat + (value - 10))

/-- Quotation mark, backslash and control characters are escaped; all else is written as is. -/
def escape (c : Char) : List Char :=
  if c = '"' then ['\\', '"']
  else if c = '\\' then ['\\', '\\']
  else if c = '\n' then ['\\', 'n']
  else if c = '\r' then ['\\', 'r']
  else if c = '\t' then ['\\', 't']
  else if c.toNat = 0x08 then ['\\', 'b']
  else if c.toNat = 0x0c then ['\\', 'f']
  else if c.toNat < 0x20 then
    ['\\', 'u', '0', '0', hexDigit (c.toNat / 16), hexDigit (c.toNat % 16)]
  else [c]

def quote (text : String) : List Char :=
  '"' :: (text.toList.flatMap escape ++ ['"'])

def nullText : List Char := ['n', 'u', 'l', 'l']

def boolText : Bool → List Char
  | true => ['t', 'r', 'u', 'e']
  | false => ['f', 'a', 'l', 's', 'e']

mutual

/-- The text without blanks. -/
def compactText : Json → List Char
  | .null => nullText
  | .bool value => boolText value
  | .number numeral => numeral.text true
  | .string text => quote text
  | .array items => '[' :: (compactItems items ++ [']'])
  | .object members => '\x7b' :: (compactMembers members ++ ['\x7d'])

def compactItems : List Json → List Char
  | [] => []
  | [item] => item.compactText
  | item :: next :: rest => item.compactText ++ ',' :: compactItems (next :: rest)

def compactMembers : List (String × Json) → List Char
  | [] => []
  | [(key, value)] => quote key ++ ':' :: value.compactText
  | (key, value) :: next :: rest =>
      quote key ++ ':' :: (value.compactText ++ ',' :: compactMembers (next :: rest))

end

/-- A line break and the blanks of an indentation level. -/
def lineBreak (level : Nat) : List Char :=
  '\n' :: List.replicate (2 * level) ' '

mutual

/-- The text with one item or member a line, as it stands at an indentation level. -/
def prettyText (level : Nat) : Json → List Char
  | .null => nullText
  | .bool value => boolText value
  | .number numeral => numeral.text true
  | .string text => quote text
  | .array [] => ['[', ']']
  | .array (item :: rest) =>
      '[' :: (prettyItems (level + 1) (item :: rest) ++ (lineBreak level ++ [']']))
  | .object [] => ['\x7b', '\x7d']
  | .object (member :: rest) =>
      '\x7b' :: (prettyMembers (level + 1) (member :: rest) ++ (lineBreak level ++ ['\x7d']))

def prettyItems (level : Nat) : List Json → List Char
  | [] => []
  | [item] => lineBreak level ++ item.prettyText level
  | item :: next :: rest =>
      lineBreak level ++ (item.prettyText level ++ ',' :: prettyItems level (next :: rest))

def prettyMembers (level : Nat) : List (String × Json) → List Char
  | [] => []
  | [(key, value)] => lineBreak level ++ (quote key ++ ':' :: ' ' :: value.prettyText level)
  | (key, value) :: next :: rest =>
      lineBreak level ++ (quote key ++ ':' :: ' ' :: (value.prettyText level ++
        ',' :: prettyMembers level (next :: rest)))

end

/-- The text without blanks. -/
def compact (value : Json) : String :=
  String.ofList value.compactText

def pretty (value : Json) : String :=
  String.ofList (value.prettyText 0)

end Json

end CoordinateConformance
