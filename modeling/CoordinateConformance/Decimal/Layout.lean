import CoordinateConformance.Decimal.Numeral
import CoordinateConformance.Decimal.Shortest

/-!
Contract: how numbers appear in messages, in coordinate lists and in reports.

A `Layout` holds the decisions of one format over the shortest digits. `Precision` adds the
rounded formats: metres with six decimals, degrees with ten, and scientific notation with
twelve significant digits.
-/

namespace CoordinateConformance

/-- Decisions of a format that writes the shortest digits of a number. -/
structure Layout where
  tie : Tie
  /-- Positional notation is used if the exponent of the leading digit lies in this range;
  without a range it is always used. -/
  positionalRange : Option (Int × Int)
  /-- A whole number in positional notation is written with `.0`. -/
  keepsPoint : Bool
  writesPlus : Bool
deriving DecidableEq, Repr

namespace Layout

/-- Prose: all digits are written out, and a whole number has no point. -/
def prose : Layout := ⟨.up, none, false, false⟩

/-- Lists of coordinates: positional from 0.0001 to below 10^16, and always with a point there. -/
def listing : Layout := ⟨.up, some (-4, 15), true, false⟩

/-- JSON documents: positional from 0.00001 to below 10^16, and an exponent has its sign. -/
def document : Layout := ⟨.toEven, some (-5, 15), true, true⟩

/-- Positional notation, with a point if the format wants one. -/
def positional (layout : Layout) (decimal : Decimal) : Numeral :=
  let written := Numeral.positional decimal
  if layout.keepsPoint then written.withPoint else written

def compose (layout : Layout) (decimal : Decimal) : Numeral :=
  let leading := decimal.exponent + decimalLength decimal.coefficient - 1
  let inRange := match layout.positionalRange with
    | none => true
    | some (least, greatest) => decimal.coefficient == 0 || (least ≤ leading && leading ≤ greatest)
  if inRange then layout.positional decimal else Numeral.scientific decimal

/-- The numeral of a finite number. -/
def numeral (layout : Layout) (x : Float) : Numeral :=
  layout.compose (Decimal.shortest layout.tie (BinaryExpansion.ofFloat x))

end Layout

/-- The text of NaN and the infinities, which have no digits. -/
def nonFiniteText (x : Float) : String :=
  if x.isNaN then "NaN" else if x < 0.0 then "-inf" else "inf"

namespace Layout

def write (layout : Layout) (x : Float) : String :=
  if x.isFinite then (layout.numeral x).render layout.writesPlus else nonFiniteText x

def writeList (layout : Layout) (values : List Float) : String :=
  "[" ++ String.intercalate ", " (values.map layout.write) ++ "]"

end Layout

inductive Precision where
  /-- The shortest digits that denote exactly this number. -/
  | exact
  /-- Six decimals, scientific from a million on. -/
  | metres
  /-- Ten decimals, scientific from ten thousand on. -/
  | degrees
  /-- Twelve significant digits. -/
  | scientific
deriving DecidableEq, Repr

namespace Precision

/-- The exact value rounded to `places` decimals, half to even. What rounds to zero has no sign. -/
def fixed (places : Nat) (x : BinaryExpansion) : Numeral :=
  let (numerator, denominator) := x.magnitude
  let unit := Nat.pow 10 places
  let rounded := roundHalfEven (numerator * unit) denominator
  ⟨x.negative && rounded != 0, rounded / unit, places, rounded % unit, none⟩

/-- The exact value rounded to `places + 1` significant digits, half to even. Rounding up to the
next power of ten moves the point. -/
def significant (places : Nat) (x : BinaryExpansion) : Numeral :=
  if x.significand = 0 then ⟨false, 0, places, 0, some 0⟩
  else
    let (numerator, denominator) := x.magnitude
    let unit := Nat.pow 10 places
    let exponent := leadingExponent numerator denominator - 1
    let (up, down) := powerRatio 10 (places - exponent)
    let rounded := roundHalfEven (numerator * up) (denominator * down)
    let (digits, exponent) :=
      if rounded = Nat.pow 10 (places + 1) then (rounded / 10, exponent + 1)
      else (rounded, exponent)
    ⟨x.negative, digits / unit, places, digits % unit, some exponent⟩

def numeral (precision : Precision) (x : Float) : Numeral :=
  let expansion := BinaryExpansion.ofFloat x
  match precision with
  | .exact => Layout.listing.numeral x
  | .metres => if x.abs < 1000000.0 then fixed 6 expansion else significant 11 expansion
  | .degrees => if x.abs < 10000.0 then fixed 10 expansion else significant 11 expansion
  | .scientific => significant 11 expansion

def write (precision : Precision) (x : Float) : String :=
  if x.isFinite then (precision.numeral x).render false else nonFiniteText x

end Precision

end CoordinateConformance
