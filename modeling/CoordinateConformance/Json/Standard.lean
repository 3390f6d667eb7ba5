import CoordinateConformance.Decimal.Layout
import CoordinateConformance.Json.Library
import CoordinateConformance.Json.Printer
import CoordinateConformance.Json.Scanner

/-!
Contract: a library for JSON.

Numbers have their shortest digits, and every numeral is read as the nearest number. Who runs the
checks with this library opens `StandardJson`.
-/

namespace CoordinateConformance

namespace Json

/-- Every step of the scanner takes a character or enters a value, so twice the length of the text
is enough for all of them. -/
@[reducible]
def standard : Library where
  numeral := Layout.document.numeral
  number? := Numeral.toFloat?
  compact := compact
  pretty := pretty
  scanValue text := Json.scanValue (2 * text.length + 2) text

end Json

namespace StandardJson

scoped instance instStandard : Json.Library := Json.standard

end StandardJson

end CoordinateConformance
