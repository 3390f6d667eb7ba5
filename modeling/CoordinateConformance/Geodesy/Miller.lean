import CoordinateConformance.Geodesy.Ellipsoid
import CoordinateConformance.Geodesy.Projection

/-!
Contract: the Miller cylindrical projection.

The sphere has the semi-major axis of the ellipsoid as its radius. Latitudes are compressed to
four fifths before the Mercator formula is applied, so the poles have finite coordinates.
-/

namespace CoordinateConformance

/-- The Miller cylindrical projection on an ellipsoid. -/
structure Miller (α : Type) where
  ellipsoid : Ellipsoid α
deriving DecidableEq, Repr

namespace Miller

variable {α : Type} [Arithmetic α]

def project (functions : ElementaryFunctions α) (projection : Miller α)
    (point : GeographicPoint α) : Option (Point α) :=
  let radius := projection.ellipsoid.semimajor
  let x := radius * point.longitudeRadians
  let y := 1.25 * radius *
    functions.log (functions.tan (Arithmetic.pi / 4.0 + 0.4 * point.latitudeRadians))
  Projection.finitePoint? x y

/-- Latitude and longitude of a point, in radians. -/
def angles (functions : ElementaryFunctions α) (projection : Miller α) (point : Point α) :
    α × α :=
  let radius := projection.ellipsoid.semimajor
  let latitude :=
    2.5 * functions.atan (functions.exp (0.8 * point.y / radius)) - 2.5 * (Arithmetic.pi / 4.0)
  let longitude := point.x / radius
  (latitude, longitude)

def unproject (functions : ElementaryFunctions α) (projection : Miller α)
    (point : Point α) : Option (GeographicPoint α) :=
  let (latitude, longitude) := projection.angles functions point
  Projection.finiteGeographic? latitude longitude

def toProjection (functions : ElementaryFunctions Float) (projection : Miller Float) :
    Projection where
  project := projection.project functions
  unproject := projection.unproject functions

end Miller

end CoordinateConformance
