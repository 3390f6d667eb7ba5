import CoordinateConformance.ConformanceError
import CoordinateConformance.Geodesy.ReferenceSystem
import CoordinateConformance.Geometry.Rectangle

/-!
Contract: published control points of map projections.

Every sample holds two points: the natural origin, which is projected to the false origin,
and a point with its published coordinates. Sources are longitude and latitude in degrees,
targets are metres. The area of validity is extended by the published point, which some
published areas leave out.
-/

namespace CoordinateConformance

/-- Control points of the conversion to one reference system. -/
structure Sample where
  target : Int
  operation : Int
  sourcePoints : List Float
  targetPoints : List Float
  /-- Where to test other points, in degrees. -/
  area : Rectangle Float
deriving DecidableEq, Repr

namespace Sample

def dimension : Nat := 2

/-- A sample from two points, their images and the published area. -/
def ofPoints (target operation : Int) (origin falseOrigin source projected : Point Float)
    (area : Rectangle Float) : Sample where
  target := target
  operation := operation
  sourcePoints := [origin.x, origin.y, source.x, source.y]
  targetPoints := [falseOrigin.x, falseOrigin.y, projected.x, projected.y]
  area := area.mergePoint source

/-- Degrees, minutes and seconds as decimal degrees. -/
def ofSexagesimal (degrees minutes seconds : Float) : Float :=
  degrees + (minutes + seconds / 60.0) / 60.0

def all : List Sample :=
  [
    -- Makassar / NEIEZ
    ofPoints 3002 19905 ⟨110.0, 0.0⟩ ⟨3900000.0, 900000.0⟩ ⟨120.0, -3.0⟩
      ⟨5009726.58, 569150.82⟩ (.ofCorners 117.6 (-7.9) 121.0 2.0),
    -- Pulkovo 1942 / Caspian Sea Mercator
    ofPoints 3388 19884 ⟨51.0, 0.0⟩ ⟨0.0, 0.0⟩ ⟨53.0, 53.0⟩
      ⟨165704.29, 5171848.07⟩ (.ofCorners 46.68 36.58 54.76 47.11),
    -- WGS 84 / Pseudo-Mercator
    ofPoints 3857 3856 ⟨0.0, 0.0⟩ ⟨0.0, 0.0⟩
      ⟨-ofSexagesimal 100.0 20.0 0.0, ofSexagesimal 24.0 22.0 54.433⟩
      ⟨-11169055.58, 2800000.0⟩ (.ofCorners (-180.0) (-85.0) 180.0 85.0),
    -- JAD69 / Jamaica National Grid
    ofPoints 24200 19910 ⟨-77.0, 18.0⟩ ⟨250000.0, 150000.0⟩
      ⟨-ofSexagesimal 76.0 56.0 37.26, ofSexagesimal 17.0 55.0 55.80⟩
      ⟨255966.58, 142493.51⟩ (.ofCorners (-78.4) 17.65 (-76.1) 18.6),
    -- NAD27 / Texas South Central, published in US survey feet
    ofPoints 32040 14204 ⟨-99.0, ofSexagesimal 27.0 50.0 0.0⟩
      ⟨2000000.0 * usSurveyFoot, 0.0 * usSurveyFoot⟩ ⟨-96.0, ofSexagesimal 28.0 30.0 0.0⟩
      ⟨2963503.91 * usSurveyFoot, 254759.80 * usSurveyFoot⟩
      (.ofCorners (-105.0) 27.82 (-93.41) 30.66),
    -- Belge 1972 / Belge Lambert 72
    ofPoints 31300 19902 ⟨ofSexagesimal 4.0 21.0 24.983, 90.0⟩ ⟨150000.01, 5400088.44⟩
      ⟨ofSexagesimal 5.0 48.0 26.533, ofSexagesimal 50.0 40.0 46.461⟩
      ⟨251763.20, 153034.13⟩ (.ofCorners 2.54 49.51 6.4 51.5),
    -- ETRS89 / LAEA Europe
    ofPoints 3035 19986 ⟨10.0, 52.0⟩ ⟨4321000.0, 3210000.0⟩ ⟨5.0, 50.0⟩
      ⟨3962799.45, 2999718.85⟩ (.ofCorners (-31.53) 27.75 45.0 71.15),
    -- Miller on WGS 84
    ofPoints 310642901 310642901 ⟨0.0, 0.0⟩ ⟨0.0, 0.0⟩ ⟨2.478917, 48.805639⟩
      ⟨275951.78, 5910061.78⟩ (.ofCorners (-180.0) (-90.0) 180.0 90.0)]

def get (target : Int) : Except ConformanceError Sample :=
  match all.find? fun sample => sample.target == target with
  | some sample => .ok sample
  | none => .error (.unknownSample target)

/-- The published point, without the origin. -/
def source (sample : Sample) : Point Float :=
  ⟨sample.sourcePoints.getD 2 0.0, sample.sourcePoints.getD 3 0.0⟩

/-- One line with both lists of points. -/
def describe (sample : Sample) : String :=
  "SamplePoints[" ++ Layout.listing.writeList sample.sourcePoints ++ " ⇒ " ++
    Layout.listing.writeList sample.targetPoints ++ " in EPSG:" ++ toString sample.target ++ "]"

end Sample

end CoordinateConformance
