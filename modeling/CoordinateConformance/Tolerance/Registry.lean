import CoordinateConformance.Tolerance.Family
import CoordinateConformance.Tolerance.Modifier

/-!
Contract: the modifier of each family.

The last registration of a family counts. A family without one compares with the tolerances
as they are.
-/

namespace CoordinateConformance

/-- Modifiers by family, the latest registration first. -/
structure ModifierRegistry where
  entries : List (Family × ToleranceModifier)

namespace ModifierRegistry

def empty : ModifierRegistry :=
  ⟨[]⟩

def get? (registry : ModifierRegistry) (family : Family) : Option ToleranceModifier :=
  (registry.entries.find? fun entry => entry.1 == family).map Prod.snd

def insert (registry : ModifierRegistry) (family : Family) (modifier : ToleranceModifier) :
    ModifierRegistry :=
  ⟨(family, modifier) :: registry.entries.filter fun entry => entry.1 != family⟩

/-- Registers a modifier and returns the one that it replaces. -/
def register (registry : ModifierRegistry) (family : Family) (modifier : ToleranceModifier) :
    Option ToleranceModifier × ModifierRegistry :=
  (registry.get? family, registry.insert family modifier)

def getOrIdentity (registry : ModifierRegistry) (family : Family) : ToleranceModifier :=
  (registry.get? family).getD .identity

/-- Geographic coordinates are compared in degrees, and so are the results of inverse
projections. -/
def standard (functions : ElementaryFunctions Float) : ModifierRegistry :=
  (empty.insert .geographic (.metresToDegrees functions .geographic)).insert .projected
    (.metresToDegrees functions .projection)

end ModifierRegistry

end CoordinateConformance
