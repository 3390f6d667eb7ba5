import CoordinateConformance.Decimal.Numeral

/-!
Contract: JSON values.

Members of an object keep their order. Numbers are numerals, so integers and numbers with a
point stay apart.
-/

namespace CoordinateConformance

inductive Json where
  | null
  | bool (value : Bool)
  | number (numeral : Numeral)
  | string (text : String)
  | array (items : List Json)
  | object (members : List (String × Json))
deriving Repr

namespace Json

def ofNat (value : Nat) : Json :=
  .number ⟨false, value, 0, 0, none⟩

def ofInt (value : Int) : Json :=
  .number ⟨decide (value < 0), value.natAbs, 0, 0, none⟩

def ofString? : Option String → Json
  | none => .null
  | some text => .string text

end Json

end CoordinateConformance
