import CoordinateConformance.Operation.Projected
import CoordinateConformance.SizeArithmetic

/-!
Contract: the operation under test.

An operation maps flat lists of coordinates and declares how many values its points have. The
declaration, the function and the inverse are independent of each other: whether they agree is
what the checks find out.
-/

namespace CoordinateConformance

/-- A coordinate operation: a projection, or anything else that a candidate provides. -/
inductive Operation where
  | projected (operation : ProjectedOperation)
  | custom (name : String) (sourceDimensions targetDimensions : Nat)
      (transform : List Float → Option (List Float)) (inverse : Option Operation)

namespace Operation

/-- The name in diagnostics. -/
def name : Operation → String
  | projected operation => operation.name
  | custom name _ _ _ _ => name

/-- Number of values per input point. -/
def sourceDimensions : Operation → Nat
  | projected _ => 2
  | custom _ dimensions _ _ _ => dimensions

/-- Number of values per output point. -/
def targetDimensions : Operation → Nat
  | projected _ => 2
  | custom _ _ dimensions _ _ => dimensions

/-- The image of a list of points, if all of them can be transformed. -/
def transform : Operation → List Float → Option (List Float)
  | projected operation => operation.transform
  | custom _ _ _ transform _ => transform

/-- The inverse, if there is one. -/
def inverse? : Operation → Option Operation
  | projected operation => some (projected operation.inverse)
  | custom _ _ _ _ inverse => inverse

/-- Returns its input. -/
def copy : Operation :=
  custom "copy" 2 2 some none

section Checked

variable [SizeArithmetic]

/-- The number of values that the declared dimensions ask for. -/
def expectedLength (operation : Operation) (length : Nat) : Check Nat :=
  SizeArithmetic.product (length / max operation.sourceDimensions 1) operation.targetDimensions

/-- The image of a list of points; a missing image and one of the wrong length are errors. -/
def transformChecked (operation : Operation) (points : List Float) : Check (List Float) :=
  match operation.transform points with
  | none => .error (.error (.transformFailed operation.name points))
  | some image => do
      let expected ← operation.expectedLength points.length
      .ofResult (checkDimension "transformed coordinates" expected image.length)
      return image

end Checked

end Operation

end CoordinateConformance
