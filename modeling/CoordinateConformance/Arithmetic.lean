/-!
Contract: the numbers in which every formula of the library is written.

`Arithmetic` is what a formula may do with a coordinate. `Float` is the instance that
runs; a formula that only uses this interface can also be read over an exact field.
`ElementaryFunctions` is handed to the formulas as a value, because the standard for
binary floating point leaves the last bit of `sin`, `exp` and their kin open: a statement
about a formula says what it needs of them.
-/

namespace CoordinateConformance

/-- Numbers with field operations, decimal literals, a square root, π, a strict order and a
test for finiteness. -/
class Arithmetic (α : Type) extends Add α, Sub α, Mul α, Div α, Neg α, OfScientific α where
  pi : α
  sqrt : α → α
  abs : α → α
  lt : α → α → Bool
  isFinite : α → Bool

instance : Arithmetic Float where
  pi := 3.141592653589793
  sqrt := Float.sqrt
  abs := Float.abs
  lt := Float.lt
  isFinite := Float.isFinite

/-- The transcendental functions that the formulas call. -/
structure ElementaryFunctions (α : Type) where
  sin : α → α
  cos : α → α
  tan : α → α
  asin : α → α
  atan : α → α
  /-- `atan2 y x` is the angle of the vector `(x, y)`. -/
  atan2 : α → α → α
  sinh : α → α
  atanh : α → α
  exp : α → α
  log : α → α
  pow : α → α → α

/-- The functions of the platform's mathematical library. -/
def ElementaryFunctions.platform : ElementaryFunctions Float where
  sin := Float.sin
  cos := Float.cos
  tan := Float.tan
  asin := Float.asin
  atan := Float.atan
  atan2 := Float.atan2
  sinh := Float.sinh
  atanh := Float.atanh
  exp := Float.exp
  log := Float.log
  pow := Float.pow

section Angles

variable {α : Type} [Arithmetic α]

/-- Degrees to radians, one multiplication with π/180. -/
def toRadians (degrees : α) : α :=
  degrees * (Arithmetic.pi / 180.0)

/-- Radians to degrees, one multiplication with 180/π. -/
def toDegrees (radians : α) : α :=
  radians * (180.0 / Arithmetic.pi)

end Angles

end CoordinateConformance
