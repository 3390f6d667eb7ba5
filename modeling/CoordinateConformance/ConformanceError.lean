import CoordinateConformance.Calculation
import CoordinateConformance.Decimal.Layout

/-!
Contract: what can go wrong in a conformance test, and how it is reported.

Two errors describe a candidate that does not conform: a coordinate out of tolerance, and
coordinates that could not be transformed. All others are misuses of the test.
-/

namespace CoordinateConformance

/-- A coordinate that differs from the expected value by more than the tolerance. -/
structure ComparisonFailure where
  /-- Index of the point in the compared arrays. -/
  point : Nat
  /-- Index of the axis within the point. -/
  axis : Nat
  expected : Float
  actual : Float
  deviation : Float
  /-- The tolerance after adjustment. -/
  tolerance : Float
  calculation : Calculation
deriving DecidableEq, Repr

namespace ComparisonFailure

def message (failure : ComparisonFailure) : String :=
  failure.calculation.name ++ " mismatch at point " ++ toString failure.point ++ ", axis " ++
    toString failure.axis ++ ": expected " ++ Layout.prose.write failure.expected ++
    " but got " ++ Layout.prose.write failure.actual ++ " (deviation " ++
    Layout.prose.write failure.deviation ++ " exceeds tolerance " ++
    Layout.prose.write failure.tolerance ++ ")"

def toJson [Json.Library] (failure : ComparisonFailure) : Json :=
  .object
    [("point", .ofNat failure.point), ("axis", .ofNat failure.axis),
      ("expected", .ofFloat failure.expected), ("actual", .ofFloat failure.actual),
      ("deviation", .ofFloat failure.deviation), ("tolerance", .ofFloat failure.tolerance),
      ("mode", failure.calculation.toJson)]

end ComparisonFailure

inductive ConfigurationFault where
  | toleranceOutOfRange (value : Float)
  | gridTooSmall (size : Nat)
  | scaleFactorOutOfRange (factor : Float)
  /-- A reason in the words of the caller. -/
  | other (reason : String)
deriving DecidableEq, Repr

def ConfigurationFault.reason : ConfigurationFault → String
  | .toleranceOutOfRange value =>
      "tolerance must be finite and non-negative, got " ++ Layout.prose.write value
  | .gridTooSmall size =>
      "domain grid needs at least 2 points per axis, got " ++ toString size
  | .scaleFactorOutOfRange factor =>
      "tolerance scale factor must be finite and non-negative, got " ++
        Layout.prose.write factor
  | .other reason => reason

inductive ConformanceError where
  | unknownSample (code : Int)
  | dimensionMismatch (context : String) (expected actual : Nat)
  | toleranceExceeded (failure : ComparisonFailure)
  | transformFailed (operation : String) (coordinates : List Float)
  | configuration (fault : ConfigurationFault)
  | json (fault : ReadFault)
deriving DecidableEq, Repr

def transformFailureMessage (operation : String) (coordinates : List Float) : String :=
  operation ++ " failed to transform " ++ Layout.listing.writeList coordinates

namespace ConformanceError

def message : ConformanceError → String
  | unknownSample code => "no sample points for EPSG:" ++ toString code
  | dimensionMismatch context expected actual =>
      "dimension mismatch (" ++ context ++ "): expected " ++ toString expected ++ ", found " ++
        toString actual
  | toleranceExceeded failure => failure.message
  | transformFailed operation coordinates => transformFailureMessage operation coordinates
  | configuration fault => "invalid configuration: " ++ fault.reason
  | json .truncated => "JSON error: the text ends inside a value"
  | json .malformed => "JSON error: the text is malformed"
  | json .mismatched => "JSON error: the value is not the expected one"

/-- The error is the result of a candidate that does not conform. -/
def isTestFailure : ConformanceError → Bool
  | toleranceExceeded _ => true
  | transformFailed _ _ => true
  | _ => false

end ConformanceError

def checkDimension (context : String) (expected actual : Nat) : Except ConformanceError Unit :=
  if expected = actual then .ok () else .error (.dimensionMismatch context expected actual)

end CoordinateConformance
