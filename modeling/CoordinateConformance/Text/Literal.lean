import CoordinateConformance.Text.CodePoints
import CoordinateConformance.Text.PrintableTable

/-!
Contract: text between quotation marks, for diagnostics.

Every character of the literal can be seen: controls, characters without a visible form and
characters that would merge with the one before them are written by their code point.
-/

namespace CoordinateConformance

namespace Literal

/-- The code point in hexadecimal digits between braces. -/
def byCode (c : Char) : List Char :=
  ['\\', 'u', '\x7b'] ++ (Nat.toDigits 16 c.toNat ++ ['\x7d'])

/-- A character as it stands in a literal. -/
def escape (c : Char) : List Char :=
  if c = '\x00' then ['\\', '0']
  else if c = '\t' then ['\\', 't']
  else if c = '\r' then ['\\', 'r']
  else if c = '\n' then ['\\', 'n']
  else if c = '"' ∨ c = '\\' then ['\\', c]
  else if inRanges extendingBounds c.toNat || inRanges hiddenBounds c.toNat then byCode c
  else [c]

def quote (text : String) : String :=
  String.ofList ('"' :: (text.toList.flatMap escape ++ ['"']))

end Literal

end CoordinateConformance
