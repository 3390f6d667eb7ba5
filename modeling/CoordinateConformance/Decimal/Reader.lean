import CoordinateConformance.Decimal.Basic

/-!
Contract: reading numbers from plain text.

A number is an optional sign, digits with at most one point among or beside them, and an
optional power of ten. `NaN` and `inf` are read too; nothing else is a number.
-/

namespace CoordinateConformance

/-- The value of a run of decimal digits, most significant first. -/
def digitsValue (digits : List Char) : Nat :=
  Nat.ofDigitChars 10 digits 0

/-- A leading sign, if there is one: whether it is a minus, and what follows. -/
def splitSign : List Char → Bool × List Char
  | '-' :: rest => (true, rest)
  | '+' :: rest => (false, rest)
  | rest => (false, rest)

/-- The power of ten at the end of a number: nothing, or `e`, a sign and at least one digit. -/
def readPower : List Char → Option Int
  | [] => some 0
  | mark :: rest =>
      if mark = 'e' ∨ mark = 'E' then
        let (negative, digits) := splitSign rest
        if digits.isEmpty || !digits.all Char.isDigit then none
        else some (if negative then -(digitsValue digits : Int) else digitsValue digits)
      else none

/-- The digits after the point, if there is a point, and what follows them. -/
def splitFraction : List Char → List Char × List Char
  | '.' :: rest => (rest.takeWhile Char.isDigit, rest.dropWhile Char.isDigit)
  | rest => ([], rest)

namespace Decimal

def read? (text : String) : Option Decimal :=
  let (negative, unsigned) := splitSign text.toList
  let whole := unsigned.takeWhile Char.isDigit
  let (fraction, power) := splitFraction (unsigned.dropWhile Char.isDigit)
  if whole.isEmpty && fraction.isEmpty then none
  else (readPower power).map fun exponent =>
    ⟨negative, digitsValue (whole ++ fraction), exponent - fraction.length⟩

end Decimal

/-- Reads a plain decimal number, `NaN`, `inf` or `-inf` to the nearest binary64 number. -/
def readFloat? (text : String) : Option Float :=
  if text = "NaN" then some (0.0 / 0.0)
  else if text = "inf" then some (1.0 / 0.0)
  else if text = "-inf" then some (-1.0 / 0.0)
  else (Decimal.read? text).map Decimal.toFloat

end CoordinateConformance
