import CoordinateConformance.Json.Library

/-!
Contract: typed readers over JSON drafts.

A reader returns a value or the first fault in the order of the text. Records are read from
an object, where unknown members are skipped and a repeated known member is a fault, or from
an array of their fields in order.
-/

namespace CoordinateConformance

namespace Json

/-- The characters of a string. Units outside of the surrogate range stand for themselves, a leading
surrogate needs a trailing one right behind it. -/
def combinePieces (ending : Option ReadFault) : List StringPiece → Except ReadFault (List Char)
  | [] => match ending with
    | none => .ok []
    | some fault => .error fault
  | .char c :: rest => (combinePieces ending rest).map (c :: ·)
  | .unit code :: rest =>
      if 0xDC00 ≤ code ∧ code ≤ 0xDFFF then .error .malformed
      else if code < 0xD800 ∨ 0xDFFF < code then
        (combinePieces ending rest).map (Char.ofNat code :: ·)
      else
        match rest with
        | [] => .error (if ending = some .truncated then .truncated else .malformed)
        | .char _ :: _ => .error .malformed
        | .unit low :: rest =>
            if 0xDC00 ≤ low ∧ low ≤ 0xDFFF then
              (combinePieces ending rest).map
                (Char.ofNat (0x10000 + (code - 0xD800) * 0x400 + (low - 0xDC00)) :: ·)
            else .error .malformed

def StringDraft.text (draft : StringDraft) : Except ReadFault String :=
  (combinePieces draft.ending draft.pieces).map String.ofList

def checkEnding : Option ReadFault → Except ReadFault Unit
  | none => .ok ()
  | some fault => .error fault

mutual

/-- Passes over a value of any kind. Surrogates and the range of numbers are not looked at. -/
def Draft.skip : Draft → Except ReadFault Unit
  | .string draft => checkEnding draft.ending
  | .array items ending => do
      skipItems items
      checkEnding ending
  | .object members ending => do
      skipMembers members
      checkEnding ending
  | .fault _ skipped => .error skipped
  | _ => .ok ()

def skipItems : List Draft → Except ReadFault Unit
  | [] => .ok ()
  | item :: rest => do
      item.skip
      skipItems rest

def skipMembers : List (StringDraft × Draft) → Except ReadFault Unit
  | [] => .ok ()
  | (key, value) :: rest => do
      checkEnding key.ending
      value.skip
      skipMembers rest

end

variable [Library]

/-- The fault of a value that is not of the wanted kind. -/
def Draft.mismatch : Draft → ReadFault
  | .number numeral => if (Library.number? numeral).isSome then .mismatched else .malformed
  | .string draft => match draft.text with
    | .ok _ => .mismatched
    | .error reason => reason
  | .fault wanted _ => wanted
  | _ => .mismatched

/-- Any number, as long as it is within the range of binary64. -/
def readFloat : Draft → Except ReadFault Float
  | .number numeral => match Library.number? numeral with
    | some value => .ok value
    | none => .error .malformed
  | draft => .error draft.mismatch

def readBool : Draft → Except ReadFault Bool
  | .bool value => .ok value
  | draft => .error draft.mismatch

/-- An integer of at most 64 bits without a sign. -/
def readNat (draft : Draft) : Except ReadFault Nat :=
  match draft with
  | .number numeral =>
      if numeral.isInteger && !numeral.negative && numeral.whole < Nat.pow 2 64 then
        .ok numeral.whole
      else .error draft.mismatch
  | _ => .error draft.mismatch

/-- An integer of 32 bits. A zero with a minus sign is no integer. -/
def readInt32 (draft : Draft) : Except ReadFault Int32 :=
  match draft with
  | .number numeral =>
      let value : Int := if numeral.negative then -(numeral.whole : Int) else numeral.whole
      if numeral.isInteger && !(numeral.negative && numeral.whole == 0)
          && decide (-2147483648 ≤ value) && decide (value ≤ 2147483647) then
        .ok (Int32.ofInt value)
      else .error draft.mismatch
  | _ => .error draft.mismatch

def readNull : Draft → Except ReadFault Unit
  | .null => .ok ()
  | draft => .error draft.mismatch

def readString : Draft → Except ReadFault String
  | .string draft => draft.text
  | draft => .error draft.mismatch

/-! ## Records -/

/-- A field of a record: its name, and how its value changes the record. -/
structure Field (σ : Type) where
  name : String
  read : Draft → Except ReadFault (σ → σ)

def Field.of {σ α : Type} (name : String) (read : Draft → Except ReadFault α)
    (set : α → σ → σ) : Field σ :=
  ⟨name, fun draft => (read draft).map set⟩

/-- The fields of a record in order, and whether all of them must be there. -/
structure RecordFormat (σ : Type) where
  fields : List (Field σ)
  required : Bool

namespace RecordFormat

variable {σ : Type}

/-- The items of an array are the fields in order. -/
def readItems (required : Bool) (ending : Option ReadFault) :
    List (Field σ) → List Draft → σ → Except ReadFault σ
  | [], [], record => do
      checkEnding ending
      return record
  | [], _ :: _, _ => .error .malformed
  | _ :: _, [], record => do
      checkEnding ending
      if required then .error .mismatched else return record
  | field :: fields, item :: items, record => do
      let set ← field.read item
      readItems required ending fields items (set record)

/-- The members of an object in the order of the text. `seen` holds the known names so far. -/
def readMembers (format : RecordFormat σ) (ending : Option ReadFault) :
    List (StringDraft × Draft) → List String → σ → Except ReadFault σ
  | [], seen, record => do
      checkEnding ending
      if format.required && !format.fields.all fun field => seen.contains field.name then
        .error .mismatched
      else return record
  | (key, value) :: rest, seen, record => do
      let name ← key.text
      match format.fields.find? fun field => field.name == name with
      | none =>
          value.skip
          readMembers format ending rest seen record
      | some field =>
          if seen.contains name then .error .mismatched
          else
            let set ← field.read value
            readMembers format ending rest (name :: seen) (set record)

/-- Reads a record, starting from one with the values of absent fields. -/
def read (format : RecordFormat σ) (start : σ) : Draft → Except ReadFault σ
  | .array items ending => readItems format.required ending format.fields items start
  | .object members ending => readMembers format ending members [] start
  | draft => .error draft.mismatch

end RecordFormat

/-- Reads a whole text: a value, and nothing but blanks behind it. -/
def readText {α : Type} (read : Draft → Except ReadFault α) (text : String) :
    Except ReadFault α := do
  let (draft, rest) := Library.scanValue text.toList
  let value ← read draft
  match rest with
  | none => .error .malformed
  | some rest => if (skipBlanks rest).isEmpty then return value else .error .malformed

mutual

def Draft.toJson : Draft → Except ReadFault Json
  | .null => .ok .null
  | .bool value => .ok (.bool value)
  | .number numeral => .ok (.number numeral)
  | .string draft => draft.text.map .string
  | .array items ending => do
      let values ← itemsToJson items
      checkEnding ending
      return .array values
  | .object members ending => do
      let values ← membersToJson members
      checkEnding ending
      return .object values
  | .fault wanted _ => .error wanted

def itemsToJson : List Draft → Except ReadFault (List Json)
  | [] => .ok []
  | item :: rest => do
      let value ← item.toJson
      let values ← itemsToJson rest
      return value :: values

def membersToJson : List (StringDraft × Draft) → Except ReadFault (List (String × Json))
  | [] => .ok []
  | (key, value) :: rest => do
      let name ← key.text
      let json ← value.toJson
      let values ← membersToJson rest
      return (name, json) :: values

end

def parse (text : String) : Except ReadFault Json :=
  readText Draft.toJson text

end Json

end CoordinateConformance
