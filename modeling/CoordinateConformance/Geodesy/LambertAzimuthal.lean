import CoordinateConformance.Geodesy.Authalic
import CoordinateConformance.Geodesy.Projection

/-!
Contract: the oblique aspect of the Lambert azimuthal equal area projection.

Latitudes are replaced by authalic latitudes, which are projected from the sphere of equal
area. A point on the far side, and the antipode of the origin, have no finite result.
-/

namespace CoordinateConformance

/-- A Lambert azimuthal equal area projection. Angles are in degrees, the false origin in metres. -/
structure LambertAzimuthal where
  ellipsoid : Ellipsoid Float
  latitudeOfOrigin : Float
  centralMeridian : Float
  falseEasting : Float
  falseNorthing : Float
deriving DecidableEq, Repr

namespace LambertAzimuthal

/-- The latitude of origin is a latitude. -/
def isAdmissible (projection : LambertAzimuthal) : Bool :=
  let phi := toRadians projection.latitudeOfOrigin
  !phi.isNaN && phi.abs ≤ Arithmetic.pi / 2.0 + 1e-10

/-- The radius of the authalic sphere, and the factor that makes the scale true at the origin. -/
def radiusAndFactor (functions : ElementaryFunctions Float) (projection : LambertAzimuthal) :
    Float × Float :=
  let a := projection.ellipsoid.semimajor
  let es := projection.ellipsoid.eccentricitySquared
  let phi := toRadians projection.latitudeOfOrigin
  let sine := functions.sin phi
  let radius := a * Float.sqrt (projection.ellipsoid.areaFunction functions 1.0 / 2.0)
  let origin := projection.ellipsoid.authalicLatitude functions phi
  (radius, a * (functions.cos phi / Float.sqrt (1.0 - es * (sine * sine))) /
    (radius * functions.cos origin))

/-- The image of a longitude and a latitude in radians. -/
def forward (functions : ElementaryFunctions Float) (projection : LambertAzimuthal)
    (longitude latitude : Float) : Float × Float :=
  let origin := projection.ellipsoid.authalicLatitude functions
    (toRadians projection.latitudeOfOrigin)
  let (radius, factor) := projection.radiusAndFactor functions
  let xi := projection.ellipsoid.authalicLatitude functions latitude
  let delta := longitude - toRadians projection.centralMeridian
  let (sinOrigin, cosOrigin) := (functions.sin origin, functions.cos origin)
  let (sinXi, cosXi) := (functions.sin xi, functions.cos xi)
  let cosDelta := functions.cos delta
  let b := radius *
    Float.sqrt (2.0 / (1.0 + sinOrigin * sinXi + cosOrigin * cosXi * cosDelta))
  (projection.falseEasting + b * factor * cosXi * functions.sin delta,
    projection.falseNorthing +
      (b / factor) * (cosOrigin * sinXi - sinOrigin * cosXi * cosDelta))

/-- The longitude and the latitude of a point, in radians. A point further away than the antipode of
the origin has none. -/
def inverse (functions : ElementaryFunctions Float) (projection : LambertAzimuthal)
    (x y : Float) : Float × Float :=
  let phi := toRadians projection.latitudeOfOrigin
  let lambda := toRadians projection.centralMeridian
  let origin := projection.ellipsoid.authalicLatitude functions phi
  let (radius, factor) := projection.radiusAndFactor functions
  let x := x - projection.falseEasting
  let y := y - projection.falseNorthing
  let rho := vectorLength (x / factor) (factor * y)
  if rho < 1e-10 then (lambda, phi)
  else
    let ratio := rho / (2.0 * radius)
    if ratio > 1.0 then (0.0 / 0.0, 0.0 / 0.0)
    else
      let c := 2.0 * functions.asin ratio
      let (sinOrigin, cosOrigin) := (functions.sin origin, functions.cos origin)
      let (sinC, cosC) := (functions.sin c, functions.cos c)
      let xi := functions.asin (cosC * sinOrigin + factor * y * sinC * cosOrigin / rho)
      let longitude := lambda + functions.atan2 (x * sinC)
        (factor * rho * cosOrigin * cosC - factor * factor * y * sinOrigin * sinC)
      (longitude, projection.ellipsoid.latitudeOfAuthalic functions xi)

def operator (functions : ElementaryFunctions Float) (projection : LambertAzimuthal) :
    Projection.AngularOperator where
  forward longitude latitude := some (projection.forward functions longitude latitude)
  inverse x y := some (projection.inverse functions x y)

end LambertAzimuthal

end CoordinateConformance
