import CoordinateConformance.Json.Reader

/-!
Contract: the kinds of calculation whose results are compared.

The kind decides in which unit a tolerance has to be expressed. In JSON a kind is its variant
name, or an object that maps the variant name to null.
-/

namespace CoordinateConformance

/-- The calculation that produced the coordinates being compared. -/
inductive Calculation where
  /-- A plain copy: values must be equal. -/
  | strict
  /-- The forward transform of the operation under test. -/
  | direct
  /-- The inverse transform of the operation under test. -/
  | inverse
deriving DecidableEq, Repr

namespace Calculation

def all : List Calculation := [strict, direct, inverse]

def name : Calculation → String
  | strict => "STRICT"
  | direct => "DIRECT_TRANSFORM"
  | inverse => "INVERSE_TRANSFORM"

def variant : Calculation → String
  | strict => "Strict"
  | direct => "DirectTransform"
  | inverse => "InverseTransform"

def ofName? (text : String) : Option Calculation :=
  all.find? fun calculation => calculation.name == text

def toJson (calculation : Calculation) : Json :=
  .string calculation.variant

def ofVariant (text : String) : Except ReadFault Calculation :=
  match all.find? fun calculation => calculation.variant == text with
  | some calculation => .ok calculation
  | none => .error .mismatched

/-! ## Reading -/

section Reading

variable [Json.Library]

/-- What follows blanks, if it starts with the expected character. -/
def expectCharacter (expected : Char) (text : List Char) : Except ReadFault (List Char) :=
  match Json.skipBlanks text with
  | [] => .error .truncated
  | c :: rest => if c = expected then .ok rest else .error .malformed

/-- The text behind a value whose draft is free of faults. -/
def continueWith : Option (List Char) → Except ReadFault (List Char)
  | some rest => .ok rest
  | none => .error .malformed

/-- Reads the members of an object behind its opening brace: one variant name with the value
null. -/
def readTagged (text : List Char) : Except ReadFault (Calculation × List Char) := do
  let (key, rest) := Json.Library.scanValue text
  let calculation ← ofVariant (← Json.readString key)
  let rest ← expectCharacter ':' (← continueWith rest)
  let (value, rest) := Json.Library.scanValue rest
  Json.readNull value
  let rest ← expectCharacter '\x7d' (← continueWith rest)
  return (calculation, rest)

/-- Reads a variant name. -/
def readName (text : List Char) : Except ReadFault (Calculation × List Char) := do
  let (name, rest) := Json.Library.scanValue text
  let calculation ← ofVariant (← Json.readString name)
  return (calculation, ← continueWith rest)

def readPrefix (text : List Char) : Except ReadFault (Calculation × List Char) :=
  match Json.skipBlanks text with
  | [] => .error .truncated
  | '\x7b' :: rest => readTagged rest
  | '"' :: rest => readName ('"' :: rest)
  | _ => .error .malformed

def fromJson (text : String) : Except ReadFault Calculation := do
  let (calculation, rest) ← readPrefix text.toList
  if (Json.skipBlanks rest).isEmpty then return calculation else .error .malformed

end Reading

end Calculation

end CoordinateConformance
