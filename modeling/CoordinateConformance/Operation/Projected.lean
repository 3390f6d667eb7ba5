import CoordinateConformance.Comparison
import CoordinateConformance.Geodesy.Projection
import CoordinateConformance.Text.Literal

/-!
Contract: projections as operations on flat lists of coordinates.

A list is transformed point by point, and as a whole only if every point is. The inverse is
the same projection in the other direction. Its name says so at the end; inverting again takes
the mark off.
-/

namespace CoordinateConformance

/-- A projection with a name, in one of its two directions. -/
structure ProjectedOperation where
  name : String
  projection : Projection
  isInverse : Bool

namespace ProjectedOperation

def forward (name : String) (projection : Projection) : ProjectedOperation :=
  ⟨name, projection, false⟩

/-- The image of one point: longitude and latitude to x and y, or back. -/
def transformPoint (operation : ProjectedOperation) (first second : Float) :
    Option (List Float) :=
  if operation.isInverse then
    (operation.projection.unproject ⟨first, second⟩).map fun point =>
      [point.longitude, point.latitude]
  else
    (operation.projection.project (.ofLongitudeLatitude first second)).map fun point =>
      [point.x, point.y]

/-- The images of all points, if there are no values left over and every point has an image. -/
def transform (operation : ProjectedOperation) : List Float → Option (List Float)
  | [] => some []
  | [_] => none
  | first :: second :: rest => do
      let image ← operation.transformPoint first second
      let images ← operation.transform rest
      return image ++ images

def inverseMark : List Char := " (inverse)".toList

/-- The name of the inverse: the mark is taken away if it is there, and added if it is not. -/
def inverseName (name : String) : String :=
  let characters := name.toList
  let kept := characters.length - inverseMark.length
  if inverseMark.isSuffixOf characters then String.ofList (characters.take kept)
  else String.ofList (characters ++ inverseMark)

def inverse (operation : ProjectedOperation) : ProjectedOperation :=
  ⟨inverseName operation.name, operation.projection, !operation.isInverse⟩

def describe (operation : ProjectedOperation) : String :=
  "ProjectionOperation \x7b name: " ++ Literal.quote operation.name ++ ", inverse: " ++
    (if operation.isInverse then "true" else "false") ++ " \x7d"

end ProjectedOperation

end CoordinateConformance
