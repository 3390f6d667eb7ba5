import CoordinateConformance.Geodesy.Authalic
import CoordinateConformance.Geodesy.Projection

/-!
Contract: the Lambert conic conformal projection with one or two standard parallels.

With one parallel both are equal. The inverse finds the latitude from the tangent of the
conformal latitude by Newton's method; an iteration that does not settle gives no result.
-/

namespace CoordinateConformance

/-- A Lambert conic conformal projection. Angles are in degrees, the false origin in metres. -/
structure LambertConic where
  ellipsoid : Ellipsoid Float
  standardParallel1 : Float
  standardParallel2 : Float
  latitudeOfOrigin : Float
  centralMeridian : Float
  scaleFactor : Float
  falseEasting : Float
  falseNorthing : Float
deriving DecidableEq, Repr

namespace LambertConic

/-- Parallels closer than this, in radians, count as one. -/
def angularTolerance : Float := 1e-10

/-- A parallel strictly between the poles. -/
def isParallel (functions : ElementaryFunctions Float) (phi : Float) : Bool :=
  !((functions.cos phi).abs < angularTolerance || phi.abs ≥ Arithmetic.pi / 2.0)

/-- The parallels are not opposite to each other, and neither is a pole. -/
def isAdmissible (functions : ElementaryFunctions Float) (projection : LambertConic) : Bool :=
  let phi1 := toRadians projection.standardParallel1
  let phi2 := toRadians projection.standardParallel2
  !((phi1 + phi2).abs < angularTolerance) && isParallel functions phi1 &&
    isParallel functions phi2

section Ellipsoidal

variable (functions : ElementaryFunctions Float) (ellipsoid : Ellipsoid Float)

/-- Tangent of half the conformal colatitude of a latitude in radians. -/
def conformalTangent (phi : Float) : Float :=
  let e := Float.sqrt ellipsoid.eccentricitySquared
  let sine := functions.sin phi
  let cosine := functions.cos phi
  let spherical := if sine > 0.0 then cosine / (1.0 + sine) else (1.0 - sine) / cosine
  functions.exp (e * functions.atanh (e * sine)) * spherical

/-- Radius of the parallel at a latitude in radians, for a semi-major axis of one. -/
def parallelRadius (phi : Float) : Float :=
  let sine := functions.sin phi
  functions.cos phi / Float.sqrt (1.0 - ellipsoid.eccentricitySquared * (sine * sine))

/-- Square root of the distance from one to the next binary64 number. -/
def rootOfPrecision : Float := 1.4901161193847656e-8

/-- Newton's method for the tangent of the latitude whose conformal latitude has the given tangent.
The result is NaN if no pass is small enough. -/
def refineTangent (target : Float) : Nat → Float → Float
  | 0, _ => 0.0 / 0.0
  | passes + 1, tau =>
      let es := ellipsoid.eccentricitySquared
      let e := Float.sqrt es
      let e2m := 1.0 - es
      let secant := Float.sqrt (1.0 + tau * tau)
      let sigma := functions.sinh (e * functions.atanh (e * tau / secant))
      let conformal := Float.sqrt (1.0 + sigma * sigma) * tau - sigma * secant
      let delta := (target - conformal) * (1.0 + e2m * (tau * tau)) /
        (e2m * secant * Float.sqrt (1.0 + conformal * conformal))
      let next := tau + delta
      let size := if target.abs > 1.0 then target.abs else 1.0
      if next.isNaN || delta.abs < rootOfPrecision / 10.0 * size then next
      else refineTangent target passes next

/-- Tangent of the latitude whose conformal latitude has the given tangent. -/
def tangentOfConformal (target : Float) : Float :=
  let es := ellipsoid.eccentricitySquared
  let e := Float.sqrt es
  let start :=
    if target.abs > 70.0 then target * functions.exp (e * functions.atanh e)
    else target / (1.0 - es)
  if start.isNaN || start.abs ≥ 2.0 / rootOfPrecision then start
  else refineTangent functions ellipsoid target 5 start

end Ellipsoidal

/-- The constants of the cone: its exponent, its scale, and the radius at the latitude of origin. -/
structure Cone where
  exponent : Float
  scale : Float
  originRadius : Float
deriving DecidableEq, Repr

def cone (functions : ElementaryFunctions Float) (projection : LambertConic) : Cone :=
  let tangent := conformalTangent functions projection.ellipsoid
  let parallel := parallelRadius functions projection.ellipsoid
  let phi0 := toRadians projection.latitudeOfOrigin
  let phi1 := toRadians projection.standardParallel1
  let phi2 := toRadians projection.standardParallel2
  let n :=
    if (phi1 - phi2).abs ≥ angularTolerance then
      functions.log (parallel phi1 / parallel phi2) / functions.log (tangent phi1 / tangent phi2)
    else functions.sin phi1
  let scale := parallel phi1 * functions.pow (tangent phi1) (-n) / n
  let originRadius :=
    if (phi0.abs - Arithmetic.pi / 2.0).abs ≤ angularTolerance then 0.0
    else scale * functions.pow (tangent phi0) n
  ⟨n, scale, originRadius⟩

/-- The image of a longitude and a latitude in radians. The other pole has none. -/
def forward (functions : ElementaryFunctions Float) (projection : LambertConic)
    (lambda phi : Float) : Float × Float :=
  let cone := projection.cone functions
  let rho :=
    if (phi.abs - Arithmetic.pi / 2.0).abs < angularTolerance then
      if phi * cone.exponent ≤ 0.0 then 0.0 / 0.0 else 0.0
    else
      cone.scale *
        functions.pow (conformalTangent functions projection.ellipsoid phi) cone.exponent
  let theta := cone.exponent * (lambda - toRadians projection.centralMeridian)
  let size := projection.ellipsoid.semimajor * projection.scaleFactor
  (size * rho * functions.sin theta + projection.falseEasting,
    size * (cone.originRadius - rho * functions.cos theta) + projection.falseNorthing)

/-- The longitude and the latitude of a point, in radians. -/
def inverse (functions : ElementaryFunctions Float) (projection : LambertConic)
    (x y : Float) : Float × Float :=
  let cone := projection.cone functions
  let size := projection.ellipsoid.semimajor * projection.scaleFactor
  let x := (x - projection.falseEasting) / size
  let y := cone.originRadius - (y - projection.falseNorthing) / size
  let rho := vectorLength x y
  if rho == 0.0 then
    let pole : Float := Arithmetic.pi / 2.0
    (0.0, if cone.exponent > 0.0 then pole else -pole)
  else
    let sign : Float := if cone.exponent < 0.0 then -1.0 else 1.0
    let t := functions.pow (sign * rho / cone.scale) (1.0 / cone.exponent)
    let tangent := tangentOfConformal functions projection.ellipsoid ((1.0 / t - t) / 2.0)
    let longitude := functions.atan2 (sign * x) (sign * y) / cone.exponent +
      toRadians projection.centralMeridian
    (longitude, functions.atan tangent)

def operator (functions : ElementaryFunctions Float) (projection : LambertConic) :
    Projection.AngularOperator where
  forward lambda phi := some (projection.forward functions lambda phi)
  inverse x y := some (projection.inverse functions x y)

end LambertConic

end CoordinateConformance
