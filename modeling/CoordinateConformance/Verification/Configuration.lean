import CoordinateConformance.ConformanceError

/-!
Contract: the options of a conformance test.

A configuration is valid if its tolerance is finite and not negative and its grid has at least
two points per axis. In JSON an absent option has its default value; a text that describes an
invalid configuration is refused.
-/

namespace CoordinateConformance

structure Configuration where
  /-- The tolerance in metres. -/
  tolerance : Float
  testsInverse : Bool
  /-- Single points must be transformed like whole lists. -/
  checksConsistency : Bool
  /-- Round trips over the area of validity are tested. -/
  checksDomain : Bool
  /-- Number of grid points on each axis of the area. -/
  gridSize : Nat
deriving DecidableEq, Repr

namespace Configuration

/-- One centimetre, all checks, and a grid of eight by eight points. -/
def standard : Configuration :=
  ⟨0.01, true, true, true, 8⟩

/-- The values are in range; the tolerance is looked at first. -/
def validate (configuration : Configuration) : Except ConformanceError Unit :=
  if !(configuration.tolerance.isFinite && configuration.tolerance ≥ 0.0) then
    .error (.configuration (.toleranceOutOfRange configuration.tolerance))
  else if configuration.gridSize < 2 then
    .error (.configuration (.gridTooSmall configuration.gridSize))
  else .ok ()

def equals (left right : Configuration) : Bool :=
  left.tolerance == right.tolerance && left.testsInverse == right.testsInverse &&
    left.checksConsistency == right.checksConsistency &&
    left.checksDomain == right.checksDomain && left.gridSize == right.gridSize

section Text

variable [Json.Library]

def toJson (configuration : Configuration) : Json :=
  .object
    [("tolerance", .ofFloat configuration.tolerance),
      ("is_inverse_transform_supported", .bool configuration.testsInverse),
      ("is_consistency_check_enabled", .bool configuration.checksConsistency),
      ("is_domain_check_enabled", .bool configuration.checksDomain),
      ("domain_grid_size", .ofNat configuration.gridSize)]

/-- The options as fields of a record that need not all be there. -/
def format : Json.RecordFormat Configuration where
  fields :=
    [.of "tolerance" Json.readFloat fun value c => { c with tolerance := value },
      .of "is_inverse_transform_supported" Json.readBool fun value c =>
        { c with testsInverse := value },
      .of "is_consistency_check_enabled" Json.readBool fun value c =>
        { c with checksConsistency := value },
      .of "is_domain_check_enabled" Json.readBool fun value c =>
        { c with checksDomain := value },
      .of "domain_grid_size" Json.readNat fun value c => { c with gridSize := value }]
  required := false

def fromJson (text : String) : Except ConformanceError Configuration := do
  let configuration ← (Json.readText (format.read standard) text).mapError .json
  configuration.validate
  return configuration

end Text

end Configuration

end CoordinateConformance
