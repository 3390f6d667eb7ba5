import CoordinateConformance.Tolerance.Modifier

/-!
Contract: axis by axis comparison of coordinates.

Points are stored one after another in a flat list. An axis passes if the values are equal,
if both are NaN, or if their absolute difference is at most the tolerance. The first axis that
does not pass is reported, in the order of points and then of axes.
-/

namespace CoordinateConformance

namespace Comparison

/-- The first `count` runs of `size` values. -/
def runs {α : Type} (size : Nat) : Nat → List α → List (List α)
  | 0, _ => []
  | count + 1, values => values.take size :: runs size count (values.drop size)

/-- The points in a flat list; values behind the last whole point are left out. -/
def points {α : Type} (dimension : Nat) (values : List α) : List (List α) :=
  runs dimension (values.length / dimension) values

/-- The values are equal, both NaN, or not further apart than the tolerance. -/
def isWithinTolerance (expected actual tolerance : Float) : Bool :=
  expected == actual || (expected.isNaN && actual.isNaN) || (expected - actual).abs ≤ tolerance

/-- The first axis of a point that does not pass. -/
def failingAxis (calculation : Calculation) (point : Nat) :
    Nat → List Float → List Float → List Float → Option ComparisonFailure
  | axis, expected :: expectedRest, actual :: actualRest, tolerance :: toleranceRest =>
      if isWithinTolerance expected actual tolerance then
        failingAxis calculation point (axis + 1) expectedRest actualRest toleranceRest
      else
        some ⟨point, axis, expected, actual, (expected - actual).abs, tolerance, calculation⟩
  | _, _, _, _ => none

def comparePoints (modifier : ToleranceModifier) (tolerances : List Float)
    (calculation : Calculation) :
    Nat → List (List Float) → List (List Float) → Except ConformanceError Unit
  | point, expected :: expectedRest, actual :: actualRest => do
      let adjusted ← modifier.adjust tolerances actual calculation
      match failingAxis calculation point 0 expected actual adjusted with
      | some failure => .error (.toleranceExceeded failure)
      | none =>
          comparePoints modifier tolerances calculation (point + 1) expectedRest actualRest
  | _, _, _ => .ok ()

def checkWholePoints (dimension length : Nat) : Except ConformanceError Unit :=
  if length % dimension = 0 then .ok ()
  else
    .error (.dimensionMismatch "coordinate array is not a whole number of points"
      (length - length % dimension) length)

def checkPointDimension (dimension : Nat) : Except ConformanceError Unit :=
  if dimension = 0 then .error (.dimensionMismatch "point dimension" 1 0) else .ok ()

end Comparison

/-- Compares flat lists of points. The tolerances, one per axis, are adjusted for each point with
its actual coordinate. -/
def compareWithModifier (expected actual tolerances : List Float) (dimension : Nat)
    (modifier : ToleranceModifier) (calculation : Calculation) : Except ConformanceError Unit := do
  Comparison.checkPointDimension dimension
  checkDimension "tolerances" dimension tolerances.length
  checkDimension "actual coordinates" expected.length actual.length
  Comparison.checkWholePoints dimension expected.length
  Comparison.comparePoints modifier tolerances calculation 0
    (Comparison.points dimension expected) (Comparison.points dimension actual)

/-- Compares flat lists of points with the tolerances as they are. -/
def compareCoordinates (expected actual tolerances : List Float) (dimension : Nat)
    (calculation : Calculation) : Except ConformanceError Unit :=
  compareWithModifier expected actual tolerances dimension .identity calculation

end CoordinateConformance
