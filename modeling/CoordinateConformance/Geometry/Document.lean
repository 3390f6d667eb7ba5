import CoordinateConformance.Geometry.Rectangle
import CoordinateConformance.Json.Reader

/-!
Contract: the JSON forms of rectangles and geographic points.

Both are objects of their numbers. Reading restores the numbers as they are: corners are not
put in order, and a record with a missing number is refused.
-/

namespace CoordinateConformance

variable [Json.Library]

namespace Rectangle

variable {α : Type}

/-- The object of the four borders, each written by `write`. -/
def toJson (write : α → Json) (r : Rectangle α) : Json :=
  .object
    [("x_min", write r.xMin), ("y_min", write r.yMin),
      ("x_max", write r.xMax), ("y_max", write r.yMax)]

def format (read : Json.Draft → Except ReadFault α) : Json.RecordFormat (Rectangle α) where
  fields :=
    [.of "x_min" read fun value r => { r with xMin := value },
      .of "y_min" read fun value r => { r with yMin := value },
      .of "x_max" read fun value r => { r with xMax := value },
      .of "y_max" read fun value r => { r with yMax := value }]
  required := true

/-- Reads a rectangle. All borders must be there, so `zero` is in none of them afterwards. -/
def fromJson (zero : α) (read : Json.Draft → Except ReadFault α) (text : String) :
    Except ReadFault (Rectangle α) :=
  Json.readText ((format read).read ⟨zero, zero, zero, zero⟩) text

end Rectangle

namespace GeographicPoint

def toJson (point : GeographicPoint Float) : Json :=
  .object [("lat", .ofFloat point.latitude), ("lon", .ofFloat point.longitude)]

def format : Json.RecordFormat (GeographicPoint Float) where
  fields :=
    [.of "lat" Json.readFloat fun value point => { point with latitude := value },
      .of "lon" Json.readFloat fun value point => { point with longitude := value }]
  required := true

def fromJson (text : String) : Except ReadFault (GeographicPoint Float) :=
  Json.readText (format.read origin) text

end GeographicPoint

end CoordinateConformance
