import CoordinateConformance.Geodesy.Ellipsoid
import CoordinateConformance.Geodesy.Projection

/-!
Contract: the Mercator projection of the ellipsoid.

Variant A gives the scale factor at the equator, variant B the standard parallel from which
that factor follows. The inverse has no closed form: the latitude is found by a fixed point
iteration that stops on a tolerance, or after fifteen passes.
-/

namespace CoordinateConformance

/-- A Mercator projection. The central meridian is in degrees, the false origin in metres. -/
structure Mercator (α : Type) where
  ellipsoid : Ellipsoid α
  centralMeridian : α
  scaleFactor : α
  falseEasting : α
  falseNorthing : α
deriving DecidableEq, Repr

namespace Mercator

section Construction

/-- The projection with the given scale factor at the equator, which must be positive. -/
def variantA (ellipsoid : Ellipsoid Float)
    (centralMeridian scaleFactor falseEasting falseNorthing : Float) :
    Except ProjectionError (Mercator Float) :=
  if scaleFactor.isFinite && scaleFactor > 0.0 then
    .ok ⟨ellipsoid, centralMeridian, scaleFactor, falseEasting, falseNorthing⟩
  else .error (.scaleFactorOutOfRange scaleFactor)

/-- The scale factor at the equator that gives true scale on a parallel, in degrees. -/
def scaleFactorOfParallel (functions : ElementaryFunctions Float) (ellipsoid : Ellipsoid Float)
    (standardParallel : Float) : Float :=
  let e := ellipsoid.eccentricity
  let phi := toRadians standardParallel
  let sine := functions.sin phi
  functions.cos phi / Float.sqrt (1.0 - e * e * (sine * sine))

/-- The projection with true scale on a parallel strictly between the poles. -/
def variantB (functions : ElementaryFunctions Float) (ellipsoid : Ellipsoid Float)
    (centralMeridian standardParallel falseEasting falseNorthing : Float) :
    Except ProjectionError (Mercator Float) :=
  if standardParallel.isNaN || standardParallel.abs ≥ 90.0 then
    .error (.standardParallelOutOfRange standardParallel)
  else
    variantA ellipsoid centralMeridian
      (scaleFactorOfParallel functions ellipsoid standardParallel) falseEasting falseNorthing

end Construction

variable {α : Type} [Arithmetic α]

/-- The radius of the equator on the map. -/
def radius (projection : Mercator α) : α :=
  projection.ellipsoid.semimajor * projection.scaleFactor

/-- The factor by which the ellipsoid differs from the sphere at a latitude in radians. -/
def correction (functions : ElementaryFunctions α) (e latitude : α) : α :=
  let scaled := e * functions.sin latitude
  functions.pow ((1.0 - scaled) / (1.0 + scaled)) (e / 2.0)

def project (functions : ElementaryFunctions α) (projection : Mercator α)
    (point : GeographicPoint α) : Option (Point α) :=
  let e := projection.ellipsoid.eccentricity
  let latitude := point.latitudeRadians
  let longitude := point.longitudeRadians - toRadians projection.centralMeridian
  let x := projection.falseEasting + projection.radius * longitude
  let y := projection.falseNorthing + projection.radius *
    functions.log (functions.tan (Arithmetic.pi / 4.0 + latitude / 2.0) *
      correction functions e latitude)
  Projection.finitePoint? x y

def refine (functions : ElementaryFunctions α) (e t latitude : α) : α :=
  Arithmetic.pi / 2.0 - 2.0 * functions.atan (t * correction functions e latitude)

/-- A pass that moves the latitude by less than this many radians is the last one. -/
def passTolerance : α := 1e-12

/-- At most `passes` passes from an estimate of the latitude. -/
def iterate (functions : ElementaryFunctions α) (e t : α) : Nat → α → α
  | 0, latitude => latitude
  | passes + 1, latitude =>
      let next := refine functions e t latitude
      if Arithmetic.lt (Arithmetic.abs (next - latitude)) passTolerance then next
      else iterate functions e t passes next

def maximalPasses : Nat := 15

/-- Latitude and longitude of a point, in radians. -/
def angles (functions : ElementaryFunctions α) (projection : Mercator α) (point : Point α) :
    α × α :=
  let e := projection.ellipsoid.eccentricity
  let t := functions.exp ((projection.falseNorthing - point.y) / projection.radius)
  let start := Arithmetic.pi / 2.0 - 2.0 * functions.atan t
  let latitude := iterate functions e t maximalPasses start
  let longitude := (point.x - projection.falseEasting) / projection.radius +
    toRadians projection.centralMeridian
  (latitude, longitude)

def unproject (functions : ElementaryFunctions α) (projection : Mercator α)
    (point : Point α) : Option (GeographicPoint α) :=
  let (latitude, longitude) := projection.angles functions point
  Projection.finiteGeographic? latitude longitude

def toProjection (functions : ElementaryFunctions Float) (projection : Mercator Float) :
    Projection where
  project := projection.project functions
  unproject := projection.unproject functions

end Mercator

end CoordinateConformance
