import CoordinateConformance.Geodesy.Ellipsoid

/-!
Contract: latitudes of equal area on an ellipsoid.

The authalic latitude of a point is the latitude on the sphere of equal area that cuts off the
same area. It has a closed form; its inverse is a sine series in the third flattening, summed
by Clenshaw's recurrence.
-/

namespace CoordinateConformance

namespace Ellipsoid

/-- The square of the first eccentricity, computed from the flattening. -/
def eccentricitySquared (ellipsoid : Ellipsoid Float) : Float :=
  let f := ellipsoid.flattening
  f * (2.0 - f)

/-- The area function of the sine of a latitude. -/
def areaFunction (functions : ElementaryFunctions Float) (ellipsoid : Ellipsoid Float)
    (sine : Float) : Float :=
  let es := ellipsoid.eccentricitySquared
  let e := Float.sqrt es
  let scaled := e * sine
  (1.0 - es) * (sine / (1.0 - scaled * scaled) -
    (0.5 / e) * functions.log ((1.0 - scaled) / (1.0 + scaled)))

/-- The authalic latitude of a latitude, both in radians. -/
def authalicLatitude (functions : ElementaryFunctions Float) (ellipsoid : Ellipsoid Float)
    (latitude : Float) : Float :=
  functions.asin (ellipsoid.areaFunction functions (functions.sin latitude) /
    ellipsoid.areaFunction functions 1.0)

/-- Coefficients of the six polynomials of the series, from the constant term up. -/
def authalicSeries : List (List Float) :=
  [[4.0 / 3.0, 4.0 / 45.0, -16.0 / 35.0, -2582.0 / 14175.0, 60136.0 / 467775.0,
      28112932.0 / 212837625.0],
    [0.0, 46.0 / 45.0, 152.0 / 945.0, -11966.0 / 14175.0, -21016.0 / 51975.0,
      251310128.0 / 638512875.0],
    [0.0, 0.0, 3044.0 / 2835.0, 3802.0 / 14175.0, -94388.0 / 66825.0,
      -8797648.0 / 10945935.0],
    [0.0, 0.0, 0.0, 6059.0 / 4725.0, 41072.0 / 93555.0, -1472637812.0 / 638512875.0],
    [0.0, 0.0, 0.0, 0.0, 768272.0 / 467775.0, 455935736.0 / 638512875.0],
    [0.0, 0.0, 0.0, 0.0, 0.0, 4210684958.0 / 1915538625.0]]

/-- The value of a polynomial given from the constant term up. -/
def polynomial (x : Float) (coefficients : List Float) : Float :=
  coefficients.foldr (fun coefficient value => coefficient + x * value) 0.0

/-- `Σ cᵢ sin (i · angle)` for coefficients from the first up, by Clenshaw's recurrence. -/
def sineSum (functions : ElementaryFunctions Float) (angle : Float)
    (coefficients : List Float) : Float :=
  let double := 2.0 * functions.cos angle
  let (first, _) := coefficients.foldr
    (fun coefficient (state : Float × Float) =>
      (double * state.1 + (coefficient - state.2), state.1))
    (0.0, 0.0)
  functions.sin angle * first

/-- The latitude of an authalic latitude, both in radians. -/
def latitudeOfAuthalic (functions : ElementaryFunctions Float) (ellipsoid : Ellipsoid Float)
    (authalic : Float) : Float :=
  let f := ellipsoid.flattening
  let n := f / (2.0 - f)
  let coefficients := authalicSeries.map fun series => n * polynomial n series
  authalic + sineSum functions (2.0 * authalic) coefficients

end Ellipsoid

/-- The length of the vector `(x, y)`. Dividing by the longer side first avoids overflow. -/
def vectorLength (x y : Float) : Float :=
  let x := x.abs
  let y := y.abs
  let long := if x < y then y else x
  let short := if x < y then x else y
  if long == 0.0 then 0.0
  else
    let ratio := short / long
    long * Float.sqrt (1.0 + ratio * ratio)

end CoordinateConformance
