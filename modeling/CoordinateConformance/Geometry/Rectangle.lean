import CoordinateConformance.Geometry.Point

/-!
Contract: axis aligned rectangles over any ordered number type.

`ofCorners` puts the smaller coordinate first. A rectangle read from elsewhere may have its
corners in any order; the operations take it as it is. For geographic data `x` is the
longitude and `y` is the latitude, both in degrees.

A width is a difference of two numbers of the type. A difference of binary64 numbers is a
number; one of integers need not fit into their words, and then the program stops.
-/

namespace CoordinateConformance

structure Rectangle (α : Type) where
  xMin : α
  yMin : α
  xMax : α
  yMax : α
deriving DecidableEq, Repr

/-- Differences of numbers. Their type says whether a difference can be missing. -/
class Difference (α : Type) (β : outParam Type) where
  difference : α → α → β

instance : Difference Float Float where
  difference minuend subtrahend := minuend - subtrahend

/-- A difference beyond 32 bits is missing. -/
instance : Difference Int32 (Option Int32) where
  difference minuend subtrahend :=
    let exact := minuend.toInt - subtrahend.toInt
    if Int32.minValue.toInt ≤ exact ∧ exact ≤ Int32.maxValue.toInt then some (Int32.ofInt exact)
    else none

namespace Rectangle

variable {α : Type}

/-- Two numbers in ascending order; numbers that cannot be compared change places. -/
def ascending [LE α] [DecidableLE α] (first second : α) : α × α :=
  if first ≤ second then (first, second) else (second, first)

def ofCorners [LE α] [DecidableLE α] (xFirst yFirst xSecond ySecond : α) : Rectangle α :=
  let (xMin, xMax) := ascending xFirst xSecond
  let (yMin, yMax) := ascending yFirst ySecond
  ⟨xMin, yMin, xMax, yMax⟩

def ofPoint (point : Point α) : Rectangle α :=
  ⟨point.x, point.y, point.x, point.y⟩

def width {β : Type} [Difference α β] (r : Rectangle α) : β :=
  Difference.difference r.xMax r.xMin

def height {β : Type} [Difference α β] (r : Rectangle α) : β :=
  Difference.difference r.yMax r.yMin

def smaller [LT α] [DecidableLT α] (first second : α) : α :=
  if first < second then first else second

def greater [LT α] [DecidableLT α] (first second : α) : α :=
  if second < first then first else second

def merge [LT α] [DecidableLT α] (left right : Rectangle α) : Rectangle α where
  xMin := smaller left.xMin right.xMin
  yMin := smaller left.yMin right.yMin
  xMax := greater left.xMax right.xMax
  yMax := greater left.yMax right.yMax

def mergePoint [LT α] [DecidableLT α] (r : Rectangle α) (point : Point α) : Rectangle α :=
  r.merge (ofPoint point)

/-- The point lies inside or on the border. -/
def contains [LE α] [DecidableLE α] (r : Rectangle α) (point : Point α) : Bool :=
  decide (r.xMin ≤ point.x) && decide (point.x ≤ r.xMax) &&
    decide (r.yMin ≤ point.y) && decide (point.y ≤ r.yMax)

def equals [BEq α] (left right : Rectangle α) : Bool :=
  left.xMin == right.xMin && left.yMin == right.yMin &&
    left.xMax == right.xMax && left.yMax == right.yMax

end Rectangle

end CoordinateConformance
