/-!
Contract: the exact value of a finite binary64 number.

`BinaryExpansion.ofFloat` reads sign, significand and exponent from the bits, so that all
decimal text is computed in natural numbers. NaN and the infinities have no expansion:
callers test for them first.
-/

namespace CoordinateConformance

/-- The number `±significand · 2 ^ exponent`. -/
structure BinaryExpansion where
  negative : Bool
  significand : Nat
  exponent : Int
deriving DecidableEq, Repr

namespace BinaryExpansion

/-- The leading bit of a significand, which the bits of a number leave out. -/
def hiddenBit : Nat := Nat.pow 2 52

/-- Subnormal numbers share the least exponent; all others have a hidden leading bit. -/
def ofFloat (x : Float) : BinaryExpansion :=
  let bits := x.toBits.toNat
  let fraction := bits % hiddenBit
  let biased : Nat := bits / hiddenBit % 2048
  let negative := decide (bits / Nat.pow 2 63 = 1)
  if biased = 0 then ⟨negative, fraction, -1074⟩
  else ⟨negative, hiddenBit + fraction, (biased : Int) - 1075⟩

/-- The distance to the middle of `x` and the next smaller number, in quarters of the last place. -/
def gapBelow (x : BinaryExpansion) : Nat :=
  if x.significand = hiddenBit ∧ -1074 < x.exponent then 1 else 2

end BinaryExpansion

/-- `base ^ exponent` as a numerator and a denominator, for an exponent of either sign. -/
def powerRatio (base : Nat) (exponent : Int) : Nat × Nat :=
  (Nat.pow base exponent.toNat, Nat.pow base (-exponent).toNat)

/-- Number of decimal digits of a natural number; zero has one digit. -/
def decimalLength (value : Nat) : Nat :=
  (Nat.toDigits 10 value).length

/-- The exponent `k` with `10 ^ (k - 1) ≤ numerator / denominator < 10 ^ k`, for a positive ratio.
The lengths of the two numbers leave two candidates, and one comparison decides. -/
def leadingExponent (numerator denominator : Nat) : Int :=
  let difference : Int := (decimalLength numerator : Int) - decimalLength denominator
  let (up, down) := powerRatio 10 difference
  if up * denominator ≤ numerator * down then difference + 1 else difference

/-- The quotient rounded to a natural number, a half going to the even neighbour. -/
def roundHalfEven (numerator denominator : Nat) : Nat :=
  let quotient := numerator / denominator
  let twice := 2 * (numerator % denominator)
  if twice < denominator then quotient
  else if denominator < twice then quotient + 1
  else quotient + quotient % 2

namespace BinaryExpansion

/-- The absolute value as a numerator and a denominator. -/
def magnitude (x : BinaryExpansion) : Nat × Nat :=
  let (up, down) := powerRatio 2 x.exponent
  (x.significand * up, down)

end BinaryExpansion

end CoordinateConformance
