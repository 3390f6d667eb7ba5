import CoordinateConformance.Decimal.Reader
import CoordinateConformance.Geodesy.OperatorDefinition

/-!
Contract: a library with the two Lambert operators.

It reads the definition of an operator from a line and fills in what the line leaves out. A line is
refused if it names no operator of the library, if one of its numbers cannot be read, and if its
parameters describe no projection.
-/

namespace CoordinateConformance

namespace OperatorDefinition

/-- The words of a text: its longest pieces without blanks. `word` holds the characters of the
current word. -/
def wordsFrom : List Char → List Char → List (List Char)
  | word, [] => if word.isEmpty then [] else [word]
  | word, c :: rest =>
      if c.isWhitespace then
        if word.isEmpty then wordsFrom [] rest else word :: wordsFrom [] rest
      else wordsFrom (word ++ [c]) rest

def splitParameter (word : List Char) : String × String :=
  (String.ofList (word.takeWhile (· != '=')),
    String.ofList ((word.dropWhile (· != '=')).drop 1))

def parse? (line : String) : Option OperatorDefinition :=
  match wordsFrom [] line.toList with
  | [] => none
  | operator :: parameters =>
      some ⟨String.ofList operator, parameters.map splitParameter⟩

/-- The text of a parameter; the last one of several with the same name counts. -/
def text? (definition : OperatorDefinition) (key : String) : Option String :=
  (definition.parameters.reverse.find? fun parameter => parameter.1 == key).map Prod.snd

/-- The number of a parameter, or its default. A text that is no number is a fault. -/
def number? (definition : OperatorDefinition) (key : String) (default : Float) : Option Float :=
  match definition.text? key with
  | none => some default
  | some text => readFloat? text

/-- The ellipsoid given as semi-major axis and inverse flattening, or GRS 1980. -/
def ellipsoid? (definition : OperatorDefinition) : Option (Ellipsoid Float) :=
  match definition.text? "ellps" with
  | none => some ⟨6378137.0, 298.2572221008827⟩
  | some text =>
      let (axis, rest) := (text.toList.takeWhile (· != ','), text.toList.dropWhile (· != ','))
      match readFloat? (String.ofList axis), readFloat? (String.ofList (rest.drop 1)) with
      | some semimajor, some inverseFlattening => some ⟨semimajor, inverseFlattening⟩
      | _, _ => none

end OperatorDefinition

namespace LambertAzimuthal

def ofDefinition? (definition : OperatorDefinition) : Option LambertAzimuthal := do
  let ellipsoid ← definition.ellipsoid?
  let latitudeOfOrigin ← definition.number? "lat_0" 0.0
  let centralMeridian ← definition.number? "lon_0" 0.0
  let falseEasting ← definition.number? "x_0" 0.0
  let falseNorthing ← definition.number? "y_0" 0.0
  return ⟨ellipsoid, latitudeOfOrigin, centralMeridian, falseEasting, falseNorthing⟩

end LambertAzimuthal

namespace LambertConic

/-- Reads the parameters of a definition. Without a second parallel there is only the first, and
with a single parallel that is also the latitude of origin. -/
def ofDefinition? (definition : OperatorDefinition) : Option LambertConic := do
  let ellipsoid ← definition.ellipsoid?
  let standardParallel1 ← definition.number? "lat_1" 0.0
  let standardParallel2 ← definition.number? "lat_2" standardParallel1
  let isSingle :=
    (toRadians standardParallel1 - toRadians standardParallel2).abs < angularTolerance
  let latitudeOfOrigin ← definition.number? "lat_0" (if isSingle then standardParallel1 else 0.0)
  let centralMeridian ← definition.number? "lon_0" 0.0
  let scaleFactor ← definition.number? "k_0" 1.0
  let falseEasting ← definition.number? "x_0" 0.0
  let falseNorthing ← definition.number? "y_0" 0.0
  return ⟨ellipsoid, standardParallel1, standardParallel2, latitudeOfOrigin, centralMeridian,
    scaleFactor, falseEasting, falseNorthing⟩

end LambertConic

namespace Projection.OperatorLibrary

/-- The operator that a definition describes, if its parameters describe one. -/
def operator? (functions : ElementaryFunctions Float) (definition : OperatorDefinition) :
    Option AngularOperator :=
  if definition.operator = "laea" then do
    let projection ← LambertAzimuthal.ofDefinition? definition
    guard projection.isAdmissible
    return projection.operator functions
  else if definition.operator = "lcc" then do
    let projection ← LambertConic.ofDefinition? definition
    guard (projection.isAdmissible functions)
    return projection.operator functions
  else none

def standard (functions : ElementaryFunctions Float) : OperatorLibrary where
  operator line :=
    match (OperatorDefinition.parse? line).bind (operator? functions) with
    | some operator => .ok operator
    | none => .error "not an operator"

end Projection.OperatorLibrary

end CoordinateConformance
