import CoordinateConformance.Arithmetic

/-!
Contract: points in the plane and on the ellipsoid.

Geographic points are ordered by latitude and then by longitude. NaN is not comparable with
anything, so the order is partial, and equality is that of the numbers: the two zeros are
equal, and NaN is not equal to itself.
-/

namespace CoordinateConformance

/-- A point in the plane: easting and northing for projected coordinates. -/
structure Point (α : Type) where
  x : α
  y : α
deriving DecidableEq, Repr

/-- A point on the ellipsoid, in degrees. -/
structure GeographicPoint (α : Type) where
  latitude : α
  longitude : α
deriving DecidableEq, Repr

namespace GeographicPoint

/-- The point with the given longitude and latitude, in the order of the axes x and y. -/
def ofLongitudeLatitude {α : Type} (longitude latitude : α) : GeographicPoint α :=
  ⟨latitude, longitude⟩

def origin : GeographicPoint Float :=
  ⟨0.0, 0.0⟩

def latitudeRadians {α : Type} [Arithmetic α] (point : GeographicPoint α) : α :=
  toRadians point.latitude

def longitudeRadians {α : Type} [Arithmetic α] (point : GeographicPoint α) : α :=
  toRadians point.longitude

end GeographicPoint

/-- The order of two numbers, if neither is NaN. -/
def compareNumbers (left right : Float) : Option Ordering :=
  if left < right then some .lt
  else if left == right then some .eq
  else if right < left then some .gt
  else none

namespace GeographicPoint

def equals (left right : GeographicPoint Float) : Bool :=
  left.latitude == right.latitude && left.longitude == right.longitude

/-- The order by latitude first. An incomparable latitude leaves the points incomparable. -/
def compare (left right : GeographicPoint Float) : Option Ordering :=
  match compareNumbers left.latitude right.latitude with
  | some .eq => compareNumbers left.longitude right.longitude
  | decided => decided

end GeographicPoint

end CoordinateConformance
