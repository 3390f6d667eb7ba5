import CoordinateConformance.Decimal.Binary

/-!
Contract: decimal numbers and the binary64 number each of them is read as.

`Decimal.toFloat` rounds to nearest, ties to even. Exponents far outside of the range of
binary64 are settled before any power is computed, so a short text cannot ask for a huge
number.
-/

namespace CoordinateConformance

/-- The number `±coefficient · 10 ^ exponent`. Zero keeps its sign. -/
structure Decimal where
  negative : Bool
  coefficient : Nat
  exponent : Int
deriving DecidableEq, Repr

namespace Decimal

/-- The nearest binary64 number; infinite beyond its range. -/
def toFloat (d : Decimal) : Float :=
  let magnitude : Float :=
    if d.coefficient = 0 then 0.0
    else
      let leading := d.exponent + decimalLength d.coefficient
      if 400 < leading then 1.0 / 0.0
      else if leading < -400 then 0.0
      else match d.exponent with
        | .ofNat exponent => Float.ofScientific d.coefficient false exponent
        | .negSucc exponent => Float.ofScientific d.coefficient true (exponent + 1)
  if d.negative then -magnitude else magnitude

/-- Removes trailing zeros of the coefficient, at most `fuel` of them. -/
def trimZeros : Nat → Decimal → Decimal
  | 0, d => d
  | fuel + 1, d =>
      if d.coefficient ≠ 0 ∧ d.coefficient % 10 = 0 then
        trimZeros fuel ⟨d.negative, d.coefficient / 10, d.exponent + 1⟩
      else d

/-- The same value without trailing zeros. -/
def normalize (d : Decimal) : Decimal :=
  if d.coefficient = 0 then ⟨d.negative, 0, 0⟩
  else trimZeros (decimalLength d.coefficient) d

end Decimal

end CoordinateConformance
