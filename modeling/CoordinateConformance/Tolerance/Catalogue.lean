import CoordinateConformance.Tolerance.Modifier

/-!
Contract: the modifiers of the library, as data.

An entry of the catalogue is a tree of elementary modifiers. Statements about all modifiers
that can be built, to any depth, are inductions over it.
-/

namespace CoordinateConformance

/-- A modifier built from the elementary ones. -/
inductive CatalogueModifier where
  | identity
  | metresToDegrees (conversion : MetresToDegrees)
  | scale (factors : Scale)
  | maximum (first second : CatalogueModifier)
  | concatenate (first second : CatalogueModifier)
deriving DecidableEq, Repr

namespace CatalogueModifier

def toModifier (functions : ElementaryFunctions Float) : CatalogueModifier → ToleranceModifier
  | identity => .identity
  | metresToDegrees conversion => .metresToDegrees functions conversion
  | scale factors => .scale factors
  | maximum first second => .maximum (first.toModifier functions) (second.toModifier functions)
  | concatenate first second =>
      .concatenate (first.toModifier functions) (second.toModifier functions)

end CatalogueModifier

end CoordinateConformance
