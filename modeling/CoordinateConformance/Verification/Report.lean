import CoordinateConformance.ConformanceError

/-!
Contract: outcomes of conformance tests.

A test passes, fails with the first thing found wrong, or is skipped with a reason. A report
holds the outcomes in the order of execution.
-/

namespace CoordinateConformance

/-- Why a candidate does not conform. -/
inductive Failure where
  | tolerance (failure : ComparisonFailure)
  | transform (operation : String) (coordinates : List Float)
deriving DecidableEq, Repr

variable [Json.Library]

namespace Failure

def message : Failure → String
  | tolerance failure => failure.message
  | transform operation coordinates => transformFailureMessage operation coordinates

def toJson : Failure → Json
  | tolerance failure => .object [("Tolerance", failure.toJson)]
  | transform operation coordinates =>
      .object [("Transform", .object
        [("operation", .string operation), ("coordinates", .array (coordinates.map .ofFloat))])]

end Failure

inductive Outcome where
  | passed
  | failed (failure : Failure)
  | skipped (reason : String)
deriving DecidableEq, Repr

namespace Outcome

/-- Errors of a candidate that does not conform are failures; all others remain errors. -/
def ofResult : Except ConformanceError Unit → Except ConformanceError Outcome
  | .ok () => .ok passed
  | .error (.toleranceExceeded failure) => .ok (failed (.tolerance failure))
  | .error (.transformFailed operation coordinates) =>
      .ok (failed (.transform operation coordinates))
  | .error error => .error error

def isPassed : Outcome → Bool
  | passed => true
  | _ => false

def isFailed : Outcome → Bool
  | failed _ => true
  | _ => false

def isSkipped : Outcome → Bool
  | skipped _ => true
  | _ => false

def toJson : Outcome → Json
  | passed => .string "Passed"
  | failed failure => .object [("Failed", failure.toJson)]
  | skipped reason => .object [("Skipped", .string reason)]

end Outcome

structure ReportEntry where
  target : Int
  /-- The factory that provided the operation, if there was one. -/
  factory : Option String
  outcome : Outcome
deriving DecidableEq, Repr

def ReportEntry.toJson (entry : ReportEntry) : Json :=
  .object
    [("target_crs", .ofInt entry.target), ("factory", .ofString? entry.factory),
      ("outcome", entry.outcome.toJson)]

/-- Outcomes in the order of execution. -/
structure Report where
  entries : List ReportEntry
deriving DecidableEq, Repr

namespace Report

def empty : Report :=
  ⟨[]⟩

def push (report : Report) (target : Int) (factory : Option String) (outcome : Outcome) :
    Report :=
  ⟨report.entries ++ [⟨target, factory, outcome⟩]⟩

/-- The first outcome for a target system. -/
def outcome? (report : Report) (target : Int) : Option Outcome :=
  (report.entries.find? fun entry => entry.target == target).map ReportEntry.outcome

def passed (report : Report) : Nat :=
  report.entries.countP fun entry => entry.outcome.isPassed

def failed (report : Report) : Nat :=
  report.entries.countP fun entry => entry.outcome.isFailed

def skipped (report : Report) : Nat :=
  report.entries.countP fun entry => entry.outcome.isSkipped

def isSuccess (report : Report) : Bool :=
  report.failed == 0

def toJson (report : Report) : Json :=
  .object [("entries", .array (report.entries.map ReportEntry.toJson))]

def summary (report : Report) : String :=
  toString report.passed ++ " passed, " ++ toString report.failed ++ " failed, " ++
    toString report.skipped ++ " skipped"

end Report

end CoordinateConformance
