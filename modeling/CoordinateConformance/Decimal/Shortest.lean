import CoordinateConformance.Decimal.Basic

/-!
Contract: the shortest decimal that denotes a given binary64 number.

For one digit, two digits and so on, the two neighbours of the value on that decimal grid
are tested against the interval of reals that round to it. The first grid with a hit wins;
of two hits the nearer one is taken, and an exact tie goes as `Tie` says.
-/

namespace CoordinateConformance

/-- Which of two equally near decimals of the same length is chosen. -/
inductive Tie where
  | toEven
  | up
deriving DecidableEq, Repr

namespace Decimal

/-- Whether `candidate * 10 ^ scale` is in the interval of reals that round to `x`. Lengths are
measured in quarters of the last binary place, so that both ends of the interval are whole numbers.
The interval below a power of two is half as wide as the one above it. An even significand also
attracts the two ends. -/
def attracts (x : BinaryExpansion) (scale : Int) (candidate : Nat) : Bool :=
  let (unitUp, unitDown) := powerRatio 2 (x.exponent - 2)
  let (gridUp, gridDown) := powerRatio 10 scale
  let unit := unitUp * gridDown
  let multiple := candidate * (gridUp * unitDown)
  let low := (4 * x.significand - x.gapBelow) * unit
  let high := (4 * x.significand + 2) * unit
  if x.significand % 2 = 0 then low ≤ multiple && multiple ≤ high
  else low < multiple && multiple < high

/-- The greatest multiple of `10 ^ scale` that is not above `x`. -/
def floorOn (x : BinaryExpansion) (scale : Int) : Nat :=
  let (unitUp, unitDown) := powerRatio 2 x.exponent
  let (gridUp, gridDown) := powerRatio 10 scale
  x.significand * (unitUp * gridDown) / (gridUp * unitDown)

/-- Of two neighbouring multiples of `10 ^ scale` around `x`, the nearer one. -/
def nearer (tie : Tie) (x : BinaryExpansion) (scale : Int) (below : Nat) : Nat :=
  let (unitUp, unitDown) := powerRatio 2 x.exponent
  let (gridUp, gridDown) := powerRatio 10 scale
  let twice := 2 * (x.significand * (unitUp * gridDown))
  let middle := (2 * below + 1) * (gridUp * unitDown)
  if twice < middle then below
  else if middle < twice then below + 1
  else match tie with
    | .up => below + 1
    | .toEven => if below % 2 = 0 then below else below + 1

/-- The chosen multiple of `10 ^ scale` that rounds to `x`, if there is one. -/
def onGrid (tie : Tie) (x : BinaryExpansion) (scale : Int) : Option Nat :=
  let below := floorOn x scale
  match attracts x scale below, attracts x scale (below + 1) with
  | false, false => none
  | true, false => some below
  | false, true => some (below + 1)
  | true, true => some (nearer tie x scale below)

/-- The first grid of at most seventeen digits that holds a hit. -/
def searchGrids (tie : Tie) (x : BinaryExpansion) : Option Decimal :=
  let (numerator, denominator) := x.magnitude
  let leading := leadingExponent numerator denominator
  (List.range 17).findSome? fun (index : Nat) =>
    let scale : Int := leading - ((index : Int) + 1)
    (onGrid tie x scale).map fun coefficient => ⟨x.negative, coefficient, scale⟩

/-- The shortest decimal that is read as the given number. Every number but zero is found on one of
the grids. -/
def shortest (tie : Tie) (x : BinaryExpansion) : Decimal :=
  let zero : Decimal := ⟨x.negative, 0, 0⟩
  if x.significand = 0 then zero else ((searchGrids tie x).getD zero).normalize

end Decimal

end CoordinateConformance
