import CoordinateConformance.Geodesy.LambertAzimuthal
import CoordinateConformance.Geodesy.LambertConic

/-!
Contract: projections as one line of text.

A definition is an operator name and `key=value` parameters between blanks, such as
`laea lat_0=52 lon_0=10 ellps=6378137,298.257222101`. Angles are in degrees. `render` writes
every parameter of a projection.
-/

namespace CoordinateConformance

/-- An operator name and its parameters in order. -/
structure OperatorDefinition where
  operator : String
  parameters : List (String × String)
deriving DecidableEq, Repr

namespace OperatorDefinition

def render (definition : OperatorDefinition) : String :=
  String.intercalate " "
    (definition.operator ::
      definition.parameters.map fun parameter => parameter.1 ++ "=" ++ parameter.2)

end OperatorDefinition

namespace LambertAzimuthal

/-- The definition of a projection, every parameter in its shortest digits. -/
def definition (projection : LambertAzimuthal) : OperatorDefinition where
  operator := "laea"
  parameters :=
    [("lat_0", Layout.prose.write projection.latitudeOfOrigin),
      ("lon_0", Layout.prose.write projection.centralMeridian),
      ("x_0", Layout.prose.write projection.falseEasting),
      ("y_0", Layout.prose.write projection.falseNorthing),
      ("ellps", Layout.prose.write projection.ellipsoid.semimajor ++ "," ++
        Layout.prose.write projection.ellipsoid.inverseFlattening)]

end LambertAzimuthal

namespace LambertConic

/-- The definition of a projection, every parameter in its shortest digits. -/
def definition (projection : LambertConic) : OperatorDefinition where
  operator := "lcc"
  parameters :=
    [("lat_1", Layout.prose.write projection.standardParallel1),
      ("lat_2", Layout.prose.write projection.standardParallel2),
      ("lat_0", Layout.prose.write projection.latitudeOfOrigin),
      ("lon_0", Layout.prose.write projection.centralMeridian),
      ("k_0", Layout.prose.write projection.scaleFactor),
      ("x_0", Layout.prose.write projection.falseEasting),
      ("y_0", Layout.prose.write projection.falseNorthing),
      ("ellps", Layout.prose.write projection.ellipsoid.semimajor ++ "," ++
        Layout.prose.write projection.ellipsoid.inverseFlattening)]

end LambertConic

end CoordinateConformance
