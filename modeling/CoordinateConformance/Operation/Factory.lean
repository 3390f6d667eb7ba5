import CoordinateConformance.Geodesy.ReferenceSystem
import CoordinateConformance.Operation.Basic

/-!
Contract: discovery of the operations under test.

A factory creates the operation to a reference system, or says that it does not support that
system. A registry asks its factories in the order of registration and takes the first answer.
-/

namespace CoordinateConformance

/-- The operations of one implementation. -/
structure OperationFactory where
  name : String
  create : Int → Option Operation

/-- The operation to a known projected system. Geographic systems have none. -/
def ReferenceSystem.operation? (library : Projection.OperatorLibrary)
    (functions : ElementaryFunctions Float) (code : Int) : Option Operation := do
  let system ← (ReferenceSystem.ofCode code).toOption
  guard !system.isGeographic
  let projection ← system.projection? library functions
  return .projected (.forward ("EPSG:" ++ toString code) projection)

namespace OperationFactory

/-- The projections of this library. -/
def builtin (library : Projection.OperatorLibrary) (functions : ElementaryFunctions Float) :
    OperationFactory where
  name := "geoapi-types"
  create := ReferenceSystem.operation? library functions

/-- A factory that supports only some codes. -/
def restricted (name : String) (codes : List Int) (create : Int → Option Operation) :
    OperationFactory where
  name := name
  create code := if codes.contains code then create code else none

end OperationFactory

structure FactoryRegistry where
  factories : List OperationFactory

namespace FactoryRegistry

def empty : FactoryRegistry :=
  ⟨[]⟩

def register (registry : FactoryRegistry) (factory : OperationFactory) : FactoryRegistry :=
  ⟨registry.factories ++ [factory]⟩

def names (registry : FactoryRegistry) : List String :=
  registry.factories.map OperationFactory.name

/-- The first factory that supports a system, and its operation. -/
def find? (registry : FactoryRegistry) (code : Int) : Option (OperationFactory × Operation) :=
  registry.factories.findSome? fun factory =>
    (factory.create code).map fun operation => (factory, operation)

end FactoryRegistry

end CoordinateConformance
