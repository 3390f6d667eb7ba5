import CoordinateConformance.Decimal.Layout
import CoordinateConformance.Geometry.Point

/-!
Contract: conversions between geographic and planar coordinates.

A projection is a pair of partial functions. `none` means that the point lies outside of the
domain, or that a result is not finite; angles are looked at in radians, before they are given in
degrees. Nothing relates the two functions: a faulty projection is a projection too.
-/

namespace CoordinateConformance

/-- A conversion of geographic points to points in the plane, and one back. -/
structure Projection where
  project : GeographicPoint Float → Option (Point Float)
  unproject : Point Float → Option (GeographicPoint Float)

inductive ProjectionError where
  | unknownReferenceSystem (code : Int)
  | scaleFactorOutOfRange (value : Float)
  | standardParallelOutOfRange (value : Float)
  /-- No operator is defined, in the words of the library. -/
  | definitionRejected (definition reason : String)
deriving DecidableEq, Repr

namespace ProjectionError

def message : ProjectionError → String
  | .unknownReferenceSystem code => "unsupported CRS code EPSG:" ++ toString code
  | .scaleFactorOutOfRange value =>
      "invalid projection parameters: scale factor must be positive, got " ++
        Layout.prose.write value
  | .standardParallelOutOfRange value =>
      "invalid projection parameters: standard parallel must be in (-90, 90), got " ++
        Layout.prose.write value
  | .definitionRejected definition reason =>
      "invalid projection parameters: " ++ definition ++ ": " ++ reason

end ProjectionError

namespace Projection

/-- A planar point, if both of its coordinates are finite. -/
def finitePoint? {α : Type} [Arithmetic α] (x y : α) : Option (Point α) :=
  if Arithmetic.isFinite x && Arithmetic.isFinite y then some ⟨x, y⟩ else none

/-- The geographic point at an angle given in radians, if latitude and longitude are finite. -/
def finiteGeographic? {α : Type} [Arithmetic α] (latitude longitude : α) :
    Option (GeographicPoint α) :=
  if Arithmetic.isFinite latitude && Arithmetic.isFinite longitude then
    some ⟨toDegrees latitude, toDegrees longitude⟩
  else none

/-- An operator of a coordinate library. It knows longitude and latitude in radians, in this order.
The numbers of a pair need not be finite. -/
structure AngularOperator where
  /-- Longitude and latitude to x and y. -/
  forward : Float → Float → Option (Float × Float)
  /-- And back. -/
  inverse : Float → Float → Option (Float × Float)

/-- What is used of a library of operators: the operator that a line of text defines, or the reason
for which it defines none. -/
structure OperatorLibrary where
  operator : String → Except String AngularOperator

/-- The projection of an operator. Points without a finite result are outside of its domain. -/
def ofOperator (operator : AngularOperator) : Projection where
  project point := do
    let (x, y) ← operator.forward point.longitudeRadians point.latitudeRadians
    finitePoint? x y
  unproject point := do
    let (longitude, latitude) ← operator.inverse point.x point.y
    finiteGeographic? latitude longitude

/-- The projection of the operator that a line defines. -/
def ofLine (library : OperatorLibrary) (line : String) : Except ProjectionError Projection :=
  match library.operator line with
  | .ok operator => .ok (ofOperator operator)
  | .error reason => .error (.definitionRejected line reason)

/-- Longitude as x and latitude as y, whatever they are. -/
def identity : Projection where
  project point := some ⟨point.longitude, point.latitude⟩
  unproject point := some (.ofLongitudeLatitude point.x point.y)

end Projection

end CoordinateConformance
