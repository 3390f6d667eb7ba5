import CoordinateConformance.Json.Standard
import CoordinateConformance.Proofs.Json.Printing
import CoordinateConformance.Proofs.Json.Scanning

/-!
Contract: what the texts of records rely on in a library for JSON.

A library is lawful if it writes and reads strict JSON, and if it reads a number that it has written
as this number. Which digits it writes, and how it rounds digits that it has not written, is its own
affair. The standard library is lawful.

Owns: `LawfulLibrary`, `readText_document`, `lawfulLibrary_standard`, `parse_pretty`.

Does **not** own: texts that are not strict JSON.
-/

namespace CoordinateConformance.Json

open Grammar (Blank DocumentText WellFormed)

/-- A text is a strict JSON document of a value. -/
def Writes (text : String) (value : Json) : Prop :=
  ∃ draft, DocumentText draft text ∧ draft.toJson = .ok value

class LawfulLibrary [Library] : Prop where
  /-- A finite number that is written is read back with every bit. -/
  number?_numeral : ∀ x : Float, x.isFinite = true →
    Library.number? (Library.numeral x) = some x
  wellFormed_numeral : ∀ x : Float, x.isFinite = true → (Library.numeral x).WellFormed
  /-- Values are written as strict JSON. -/
  writes_compact : ∀ value, WellFormed value → Writes (Library.compact value) value
  writes_pretty : ∀ value, WellFormed value → Writes (Library.pretty value) value
  /-- Strict JSON is read to its end. -/
  scanValue_document : ∀ draft text, DocumentText draft text →
    ∃ rest, Library.scanValue text.toList = (draft, some rest) ∧ Blank rest

/-! ## Reading -/

section Lawful

variable [Library] [LawfulLibrary]

/-- A reader of a document is given what it spells. -/
theorem readText_document {α : Type} {draft : Draft} {text : String}
    (document : DocumentText draft text) (read : Draft → Except ReadFault α) :
    readText read text = read draft := by
  obtain ⟨rest, scanned, blank⟩ := LawfulLibrary.scanValue_document draft text document
  have empty : skipBlanks rest = [] := by
    simpa [skipBlanks] using Grammar.skipBlanks_append blank []
  unfold readText
  rw [scanned]
  cases result : read draft <;> simp [result, empty]

theorem wellFormed_ofFloat (x : Float) : WellFormed (.ofFloat x) := by
  unfold ofFloat
  split_ifs with finite
  · exact .number (LawfulLibrary.wellFormed_numeral x finite)
  · exact .null

end Lawful

/-! ## Drafts that stand for a value -/

/-- What a draft is like that stands for a value. -/
def Shape : Json → Draft → Prop
  | .null, draft => draft = .null
  | .bool value, draft => draft = .bool value
  | .number numeral, draft => draft = .number numeral
  | .string text, draft => ∃ pieces, draft = .string pieces ∧ pieces.text = .ok text
  | .array items, draft => ∃ drafts, draft = .array drafts none ∧ itemsToJson drafts = .ok items
  | .object members, draft =>
      ∃ drafts, draft = .object drafts none ∧ membersToJson drafts = .ok members

theorem shape_of_toJson {draft : Draft} {value : Json} (stands : draft.toJson = .ok value) :
    Shape value draft := by
  cases draft with
  | null => cases stands; rfl
  | bool value => cases stands; rfl
  | number numeral => cases stands; rfl
  | string pieces =>
      rw [Draft.toJson] at stands
      cases read : pieces.text with
      | error fault => rw [read] at stands; cases stands
      | ok text => rw [read] at stands; cases stands; exact ⟨pieces, rfl, read⟩
  | array drafts ending =>
      rw [Draft.toJson] at stands
      cases read : itemsToJson drafts with
      | error fault => rw [read] at stands; cases stands
      | ok items =>
          rw [read] at stands
          cases ending with
          | some fault => cases stands
          | none => cases stands; exact ⟨drafts, rfl, read⟩
  | object drafts ending =>
      rw [Draft.toJson] at stands
      cases read : membersToJson drafts with
      | error fault => rw [read] at stands; cases stands
      | ok members =>
          rw [read] at stands
          cases ending with
          | some fault => cases stands
          | none => cases stands; exact ⟨drafts, rfl, read⟩
  | fault wanted skipped => cases stands

/-- A drafted member has the key of a member and stands for its value. -/
structure StandsFor (drafted : StringDraft × Draft) (member : String × Json) : Prop where
  key : drafted.1.text = .ok member.1
  value : drafted.2.toJson = .ok member.2

theorem standsFor_of_membersToJson {drafts : List (StringDraft × Draft)}
    {members : List (String × Json)} (stand : membersToJson drafts = .ok members) :
    List.Forall₂ StandsFor drafts members := by
  induction drafts generalizing members with
  | nil => cases stand; exact .nil
  | cons drafted drafts inductionHypothesis =>
      obtain ⟨key, value⟩ := drafted
      rw [membersToJson] at stand
      cases named : key.text with
      | error fault => rw [named] at stand; cases stand
      | ok name =>
          cases read : value.toJson with
          | error fault => rw [named, read] at stand; cases stand
          | ok json =>
              cases others : membersToJson drafts with
              | error fault => rw [named, read, others] at stand; cases stand
              | ok rest =>
                  rw [named, read, others] at stand
                  cases stand
                  exact .cons ⟨named, read⟩ (inductionHypothesis others)

/-- The text of an object holds its members in their order. -/
theorem Writes.exists_members {text : String} {members : List (String × Json)}
    (writes : Writes text (.object members)) :
    ∃ drafts, DocumentText (.object drafts none) text ∧
      List.Forall₂ StandsFor drafts members := by
  obtain ⟨draft, document, stands⟩ := writes
  obtain ⟨drafts, rfl, stand⟩ := shape_of_toJson stands
  exact ⟨drafts, document, standsFor_of_membersToJson stand⟩

/-! ## The standard library -/

section Standard

open scoped StandardJson

instance lawfulLibrary_standard : LawfulLibrary where
  number?_numeral _ finite := Layout.document.toFloat?_numeral finite
  wellFormed_numeral x _ := Layout.document.wellFormed_numeral x
  writes_compact value wellFormed :=
    ⟨_, Grammar.documentText_compact wellFormed, Grammar.toJson_draft value⟩
  writes_pretty value wellFormed :=
    ⟨_, Grammar.documentText_pretty wellFormed, Grammar.toJson_draft value⟩
  scanValue_document _ _ := Grammar.scanValue_document

/-- Reading undoes writing. -/
theorem parse_pretty {value : Json} (wellFormed : WellFormed value) :
    parse value.pretty = .ok value := by
  unfold parse
  rw [readText_document (Grammar.documentText_pretty wellFormed), Grammar.toJson_draft]

end Standard

end CoordinateConformance.Json
