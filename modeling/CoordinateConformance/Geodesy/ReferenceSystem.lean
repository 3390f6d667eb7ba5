import CoordinateConformance.Geodesy.Mercator
import CoordinateConformance.Geodesy.Miller
import CoordinateConformance.Geodesy.OperatorDefinition
import CoordinateConformance.Geodesy.WebMercator

/-!
Contract: the coordinate reference systems with a projection of their own.

A reference system is an ellipsoid and a conversion from geographic coordinates on it. The
table is keyed by the numeric code of the EPSG or IGNF register. Parameters published in US
survey feet are stored in metres.
-/

namespace CoordinateConformance

/-- The US survey foot in metres. -/
def usSurveyFoot : Float := 1200.0 / 3937.0

/-- The conversion of a reference system. Angles are in degrees, lengths in metres. -/
inductive Conversion where
  /-- Geographic coordinates, longitude and latitude in degrees. -/
  | none
  | webMercator
  | mercatorA (centralMeridian scaleFactor falseEasting falseNorthing : Float)
  | mercatorB (centralMeridian standardParallel falseEasting falseNorthing : Float)
  | miller
  | lambertAzimuthal (latitudeOfOrigin centralMeridian falseEasting falseNorthing : Float)
  | lambertConic (standardParallel1 standardParallel2 latitudeOfOrigin centralMeridian
      scaleFactor falseEasting falseNorthing : Float)
deriving DecidableEq, Repr

structure ReferenceSystem where
  code : Int
  ellipsoid : Ellipsoid Float
  conversion : Conversion
deriving DecidableEq, Repr

namespace ReferenceSystem

def wgs84 : ReferenceSystem := ⟨4326, .wgs84, .none⟩

def pseudoMercator : ReferenceSystem := ⟨3857, .wgs84, .webMercator⟩

/-- The known systems. -/
def table : List ReferenceSystem :=
  [wgs84, pseudoMercator,
    -- Makassar / NEIEZ
    ⟨3002, .bessel1841, .mercatorA 110.0 0.997 3900000.0 900000.0⟩,
    -- Pulkovo 1942 / Caspian Sea Mercator
    ⟨3388, .krassowsky1940, .mercatorB 51.0 42.0 0.0 0.0⟩,
    -- JAD69 / Jamaica National Grid
    ⟨24200, .clarke1866, .lambertConic 18.0 18.0 18.0 (-77.0) 1.0 250000.0 150000.0⟩,
    -- NAD27 / Texas South Central
    ⟨32040, .clarke1866,
      .lambertConic (28.0 + 23.0 / 60.0) (30.0 + 17.0 / 60.0) (27.0 + 50.0 / 60.0) (-99.0) 1.0
        (2000000.0 * usSurveyFoot) 0.0⟩,
    -- Belge 1972 / Belge Lambert 72. The rotation of the Belgian variant is part of the central
    -- meridian.
    ⟨31300, .international1924,
      .lambertConic (49.0 + 50.0 / 60.0) (51.0 + 10.0 / 60.0) 90.0 4.367486673081523 1.0
        150000.01 5400088.44⟩,
    -- ETRS89 / LAEA Europe
    ⟨3035, .grs80, .lambertAzimuthal 52.0 10.0 4321000.0 3210000.0⟩,
    -- Miller on WGS 84
    ⟨310642901, .wgs84, .miller⟩]

/-- The system with the given code. -/
def ofCode (code : Int) : Except ProjectionError ReferenceSystem :=
  match table.find? fun system => system.code == code with
  | some system => .ok system
  | none => .error (.unknownReferenceSystem code)

/-- Coordinates are not projected. -/
def isGeographic (system : ReferenceSystem) : Bool :=
  match system.conversion with
  | .none => true
  | _ => false

/-- The operator definition of a Lambert projection; other conversions have none. -/
def definition? (system : ReferenceSystem) : Option OperatorDefinition :=
  match system.conversion with
  | .lambertAzimuthal latitudeOfOrigin centralMeridian falseEasting falseNorthing =>
      some (LambertAzimuthal.definition
        ⟨system.ellipsoid, latitudeOfOrigin, centralMeridian, falseEasting, falseNorthing⟩)
  | .lambertConic standardParallel1 standardParallel2 latitudeOfOrigin centralMeridian
      scaleFactor falseEasting falseNorthing =>
      some (LambertConic.definition
        ⟨system.ellipsoid, standardParallel1, standardParallel2, latitudeOfOrigin,
          centralMeridian, scaleFactor, falseEasting, falseNorthing⟩)
  | _ => none

/-- The projection from geographic coordinates, if the parameters describe one. Lambert projections
are those of the operators that a library finds for their definitions. -/
def projection? (library : Projection.OperatorLibrary) (functions : ElementaryFunctions Float)
    (system : ReferenceSystem) : Option Projection :=
  match system.conversion with
  | .none => some .identity
  | .webMercator => some (WebMercator.toProjection functions ⟨system.ellipsoid⟩)
  | .mercatorA centralMeridian scaleFactor falseEasting falseNorthing =>
      (Mercator.variantA system.ellipsoid centralMeridian scaleFactor falseEasting
        falseNorthing).toOption.map (Mercator.toProjection functions)
  | .mercatorB centralMeridian standardParallel falseEasting falseNorthing =>
      (Mercator.variantB functions system.ellipsoid centralMeridian standardParallel falseEasting
        falseNorthing).toOption.map (Mercator.toProjection functions)
  | .miller => some (Miller.toProjection functions ⟨system.ellipsoid⟩)
  | .lambertAzimuthal .. | .lambertConic .. =>
      system.definition?.bind fun definition =>
        (Projection.ofLine library definition.render).toOption

end ReferenceSystem

end CoordinateConformance
