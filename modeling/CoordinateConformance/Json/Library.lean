import CoordinateConformance.Json.Draft

/-!
Contract: what is used of a library for JSON.

The texts are written and taken apart by a library. It chooses the digits of a number and the
number that digits are read as, and it writes values and scans text. What is read as a record, and
what is a fault there, is decided over its drafts.
-/

namespace CoordinateConformance

namespace Json

class Library where
  /-- The numeral that a finite number is written as. -/
  numeral : Float → Numeral
  /-- The number that a numeral is read as, if it is within the range. -/
  number? : Numeral → Option Float
  /-- The text of a value without blanks. -/
  compact : Json → String
  /-- The text of a value with one item or member a line. -/
  pretty : Json → String
  /-- A value as far as it can be read, blanks in front of it skipped, and what follows it. -/
  scanValue : List Char → Draft × Option (List Char)

variable [Library]

/-- A number as it is written; NaN and the infinities have no JSON number. -/
def ofFloat (x : Float) : Json :=
  if x.isFinite then .number (Library.numeral x) else .null

end Json

end CoordinateConformance
