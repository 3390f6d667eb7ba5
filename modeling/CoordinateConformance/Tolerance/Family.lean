import CoordinateConformance.Geodesy.ReferenceSystem
import CoordinateConformance.Text.Casing

/-!
Contract: kinds of coordinate reference systems.

The set of kinds is open: besides the two predefined ones any name can be used. Names are
compared in lower case.
-/

namespace CoordinateConformance

/-- A kind of coordinate reference system, known by its name. -/
structure Family where
  name : String
deriving DecidableEq, Repr

namespace Family

def geographic : Family := ⟨"geographic"⟩

def projected : Family := ⟨"projected"⟩

/-- The family with the given name, in any case. -/
def ofName (name : String) : Family :=
  ⟨Casing.lower name⟩

/-- The family of a reference system. Unknown codes are taken for projected systems. -/
def ofCode (code : Int) : Family :=
  match ReferenceSystem.ofCode code with
  | .ok system => if system.isGeographic then geographic else projected
  | .error _ => projected

end Family

end CoordinateConformance
