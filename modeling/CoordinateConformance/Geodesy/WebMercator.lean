import CoordinateConformance.Geodesy.Ellipsoid
import CoordinateConformance.Geodesy.Projection

/-!
Contract: the pseudo-Mercator projection of web maps.

The formulas are those of the sphere, with the semi-major axis of the ellipsoid as its radius.
-/

namespace CoordinateConformance

/-- The pseudo-Mercator projection on an ellipsoid. -/
structure WebMercator (α : Type) where
  ellipsoid : Ellipsoid α
deriving DecidableEq, Repr

namespace WebMercator

variable {α : Type} [Arithmetic α]

def project (functions : ElementaryFunctions α) (projection : WebMercator α)
    (point : GeographicPoint α) : Option (Point α) :=
  let radius := projection.ellipsoid.semimajor
  let x := radius * point.longitudeRadians
  let y := radius *
    functions.log (functions.tan (Arithmetic.pi / 4.0 + point.latitudeRadians / 2.0))
  Projection.finitePoint? x y

/-- Latitude and longitude of a point, in radians. -/
def angles (functions : ElementaryFunctions α) (projection : WebMercator α) (point : Point α) :
    α × α :=
  let radius := projection.ellipsoid.semimajor
  let latitude := Arithmetic.pi / 2.0 - 2.0 * functions.atan (functions.exp (-point.y / radius))
  let longitude := point.x / radius
  (latitude, longitude)

def unproject (functions : ElementaryFunctions α) (projection : WebMercator α)
    (point : Point α) : Option (GeographicPoint α) :=
  let (latitude, longitude) := projection.angles functions point
  Projection.finiteGeographic? latitude longitude

def toProjection (functions : ElementaryFunctions Float) (projection : WebMercator Float) :
    Projection where
  project := projection.project functions
  unproject := projection.unproject functions

end WebMercator

end CoordinateConformance
