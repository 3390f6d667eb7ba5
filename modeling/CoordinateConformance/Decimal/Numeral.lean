import CoordinateConformance.Decimal.Basic

/-!
Contract: decimal numbers as they are written.

A `Numeral` keeps what the value alone does not determine: the places after the point and
whether an exponent is written. Printers of numbers choose a numeral; readers of numbers
return one.
-/

namespace CoordinateConformance

/-- A sign, a whole part, `places` digits after the point and perhaps a power of ten. -/
structure Numeral where
  negative : Bool
  whole : Nat
  places : Nat
  /-- The digits after the point, as a number below `10 ^ places`. -/
  fraction : Nat
  exponent : Option Int
deriving DecidableEq, Repr

namespace Numeral

def isInteger (n : Numeral) : Bool :=
  n.places == 0 && n.exponent.isNone

def toDecimal (n : Numeral) : Decimal :=
  ⟨n.negative, n.whole * Nat.pow 10 n.places + n.fraction, n.exponent.getD 0 - n.places⟩

/-- The nearest binary64 number, if it is finite. -/
def toFloat? (n : Numeral) : Option Float :=
  let value := n.toDecimal.toFloat
  if value.isFinite then some value else none

/-- The decimal digits of a natural number, with zeros in front up to the given width. -/
def padded (width value : Nat) : List Char :=
  let digits := Nat.toDigits 10 value
  List.replicate (width - digits.length) '0' ++ digits

/-- A power of ten. `plus` asks for the sign of a non-negative exponent. -/
def powerText (plus : Bool) : Option Int → List Char
  | none => []
  | some (.ofNat exponent) => 'e' :: ((if plus then ['+'] else []) ++ Nat.toDigits 10 exponent)
  | some (.negSucc exponent) => 'e' :: '-' :: Nat.toDigits 10 (exponent + 1)

def text (plus : Bool) (n : Numeral) : List Char :=
  let sign := if n.negative then ['-'] else []
  let point := if n.places = 0 then [] else '.' :: padded n.places n.fraction
  sign ++ Nat.toDigits 10 n.whole ++ point ++ powerText plus n.exponent

def render (plus : Bool) (n : Numeral) : String :=
  String.ofList (n.text plus)

/-- Positional notation: zeros are written out up to the units place. -/
def positional (d : Decimal) : Numeral :=
  match d.exponent with
  | .ofNat exponent => ⟨d.negative, d.coefficient * Nat.pow 10 exponent, 0, 0, none⟩
  | .negSucc exponent =>
      let places := exponent + 1
      let unit := Nat.pow 10 places
      ⟨d.negative, d.coefficient / unit, places, d.coefficient % unit, none⟩

/-- Scientific notation: one digit stands before the point. -/
def scientific (d : Decimal) : Numeral :=
  let places := decimalLength d.coefficient - 1
  let unit := Nat.pow 10 places
  ⟨d.negative, d.coefficient / unit, places, d.coefficient % unit,
    some (d.exponent + places)⟩

def withPoint (n : Numeral) : Numeral :=
  if n.places = 0 then ⟨n.negative, n.whole, 1, 0, n.exponent⟩ else n

end Numeral

end CoordinateConformance
