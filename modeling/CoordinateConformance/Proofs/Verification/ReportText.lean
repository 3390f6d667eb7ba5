import CoordinateConformance.Proofs.Json.Library
import CoordinateConformance.Verification.Report

/-!
Contract: what the text of a report preserves.

The text is a JSON document, whatever characters the names and reasons in it hold. Its entries are
read back in their order with the target, the factory, the kind of outcome, every string, every
index and every finite number; NaN and the infinities are written as null, and a null is read as
NaN. Reports without such numbers are therefore determined by their texts.

Owns: `ReportEntry.ofJson?`, `ReportEntry.ofJson?_toJson`, `readBack_report`.

Does **not** own: how a report comes about.
-/

namespace CoordinateConformance

open Json.Grammar (DocumentText WellFormed)
open scoped StandardJson

/-! ## Reading values -/

namespace Json

def member? (name : String) : Json → Option Json
  | .object members => members.lookup name
  | _ => none

/-- A variant stands alone, or is the key of its content. -/
def variant? : Json → Option (String × Json)
  | .string name => some (name, .null)
  | .object [(name, content)] => some (name, content)
  | _ => none

def int? : Json → Option Int
  | .number numeral =>
      if numeral.isInteger then
        some (if numeral.negative then -(numeral.whole : Int) else numeral.whole)
      else none
  | _ => none

def nat? (value : Json) : Option Nat :=
  value.int?.bind Int.toNat?

def text? : Json → Option String
  | .string text => some text
  | _ => none

/-- A string, or null for none. -/
def textOrNull? : Json → Option (Option String)
  | .null => some none
  | .string text => some (some text)
  | _ => none

/-- A number, or null for one that JSON has no numeral for. -/
def float? : Json → Option Float
  | .null => some Float.nan
  | .number numeral => numeral.toFloat?
  | _ => none

def items? : Json → Option (List Json)
  | .array items => some items
  | _ => none

end Json

namespace ComparisonFailure

def ofJson? (value : Json) : Option ComparisonFailure := do
  let point ← (← value.member? "point").nat?
  let axis ← (← value.member? "axis").nat?
  let expected ← (← value.member? "expected").float?
  let actual ← (← value.member? "actual").float?
  let deviation ← (← value.member? "deviation").float?
  let tolerance ← (← value.member? "tolerance").float?
  let calculation ← (Calculation.ofVariant (← (← value.member? "mode").text?)).toOption
  return ⟨point, axis, expected, actual, deviation, tolerance, calculation⟩

end ComparisonFailure

namespace Failure

def ofJson? (value : Json) : Option Failure := do
  let (name, content) ← value.variant?
  if name = "Tolerance" then
    return .tolerance (← ComparisonFailure.ofJson? content)
  else if name = "Transform" then
    let operation ← (← content.member? "operation").text?
    let items ← (← content.member? "coordinates").items?
    return .transform operation (← items.mapM Json.float?)
  else none

end Failure

namespace Outcome

def ofJson? (value : Json) : Option Outcome := do
  let (name, content) ← value.variant?
  if name = "Passed" then return .passed
  else if name = "Failed" then return .failed (← Failure.ofJson? content)
  else if name = "Skipped" then return .skipped (← content.text?)
  else none

end Outcome

namespace ReportEntry

def ofJson? (value : Json) : Option ReportEntry := do
  let target ← (← value.member? "target_crs").int?
  let factory ← (← value.member? "factory").textOrNull?
  let outcome ← Outcome.ofJson? (← value.member? "outcome")
  return ⟨target, factory, outcome⟩

end ReportEntry

/-! ## Numbers that are not finite -/

/-- The number that is read for a written one. -/
def finiteOrNaN (x : Float) : Float :=
  if x.isFinite then x else Float.nan

theorem finiteOrNaN_of_isFinite {x : Float} (finite : x.isFinite = true) : finiteOrNaN x = x :=
  if_pos finite

namespace ComparisonFailure

def floats (failure : ComparisonFailure) : List Float :=
  [failure.expected, failure.actual, failure.deviation, failure.tolerance]

def mapFloats (f : Float → Float) (failure : ComparisonFailure) : ComparisonFailure :=
  { failure with
    expected := f failure.expected
    actual := f failure.actual
    deviation := f failure.deviation
    tolerance := f failure.tolerance }

end ComparisonFailure

namespace Failure

def floats : Failure → List Float
  | tolerance failure => failure.floats
  | transform _ coordinates => coordinates

def mapFloats (f : Float → Float) : Failure → Failure
  | tolerance failure => tolerance (failure.mapFloats f)
  | transform operation coordinates => transform operation (coordinates.map f)

end Failure

namespace Outcome

def floats : Outcome → List Float
  | failed failure => failure.floats
  | _ => []

def mapFloats (f : Float → Float) : Outcome → Outcome
  | failed failure => failed (failure.mapFloats f)
  | other => other

end Outcome

namespace ReportEntry

def mapFloats (f : Float → Float) (entry : ReportEntry) : ReportEntry :=
  { entry with outcome := entry.outcome.mapFloats f }

end ReportEntry

/-! ## Reading what is written -/

namespace Json

@[simp]
theorem int?_ofInt (value : Int) : (ofInt value).int? = some value := by
  have read : (ofInt value).int? =
      some (if decide (value < 0) = true then -(value.natAbs : Int) else value.natAbs) := rfl
  rw [read]
  split_ifs with negative
  · rw [decide_eq_true_eq] at negative
    rw [Int.ofNat_natAbs_of_nonpos negative.le, neg_neg]
  · rw [decide_eq_true_eq, not_lt] at negative
    rw [Int.natAbs_of_nonneg negative]

@[simp]
theorem nat?_ofNat (value : Nat) : (ofNat value).nat? = some value := rfl

theorem textOrNull?_ofString? (text : Option String) :
    (ofString? text).textOrNull? = some text := by
  cases text <;> rfl

@[simp]
theorem float?_ofFloat (x : Float) : (ofFloat x).float? = some (finiteOrNaN x) := by
  unfold ofFloat finiteOrNaN
  split_ifs with finite
  · exact Layout.document.toFloat?_numeral finite
  · rfl

/-- A reader of items that undoes their writer undoes it for a list of them. -/
theorem mapM_map {α β : Type} {read : Json → Option β} {write : α → Json} {result : α → β}
    (each : ∀ item, read (write item) = some (result item)) (items : List α) :
    (items.map write).mapM read = some (items.map result) := by
  induction items with
  | nil => rfl
  | cons item items inductionHypothesis =>
      rw [List.map_cons, List.mapM_cons, each item, inductionHypothesis]
      rfl

/-- Null is what the numbers are written as that are not finite. -/
theorem isFinite_of_float? {value : Json} {x : Float} (read : value.float? = some x) :
    x.isFinite = false ↔ value = .null := by
  cases value with
  | null =>
      cases read
      exact iff_of_true rfl rfl
  | number numeral =>
      refine iff_of_false ?_ nofun
      unfold float? Numeral.toFloat? at read
      dsimp only at read
      split_ifs at read with finite
      cases read
      simp [finite]
  | _ => cases read

end Json

theorem Calculation.ofVariant_variant (calculation : Calculation) :
    Calculation.ofVariant calculation.variant = .ok calculation := by
  cases calculation <;> rfl

theorem ComparisonFailure.ofJson?_toJson (failure : ComparisonFailure) :
    ofJson? failure.toJson = some (failure.mapFloats finiteOrNaN) := by
  unfold ofJson? toJson
  simp [Json.member?, List.lookup, Calculation.toJson, Json.text?, Calculation.ofVariant_variant,
    mapFloats]
  rfl

theorem Failure.ofJson?_toJson (failure : Failure) :
    ofJson? failure.toJson = some (failure.mapFloats finiteOrNaN) := by
  cases failure with
  | tolerance failure =>
      simp [ofJson?, toJson, Json.variant?, ComparisonFailure.ofJson?_toJson, mapFloats]
  | transform operation coordinates =>
      simp [ofJson?, toJson, Json.variant?, Json.member?, List.lookup, Json.text?, Json.items?,
        Json.mapM_map Json.float?_ofFloat, mapFloats, -List.mapM_map]

theorem Outcome.ofJson?_toJson (outcome : Outcome) :
    ofJson? outcome.toJson = some (outcome.mapFloats finiteOrNaN) := by
  cases outcome with
  | passed => rfl
  | failed failure => simp [ofJson?, toJson, Json.variant?, Failure.ofJson?_toJson, mapFloats]
  | skipped reason => simp [ofJson?, toJson, Json.variant?, Json.text?, mapFloats]

theorem ReportEntry.ofJson?_toJson (entry : ReportEntry) :
    ofJson? entry.toJson = some (entry.mapFloats finiteOrNaN) := by
  simp [ofJson?, toJson, Json.member?, List.lookup, Json.textOrNull?_ofString?,
    Outcome.ofJson?_toJson, mapFloats]

/-! ## Well-formed values -/

theorem ComparisonFailure.wellFormed_toJson (failure : ComparisonFailure) :
    WellFormed failure.toJson := by
  refine .object ?_
  simp only [List.forall_mem_cons]
  exact ⟨Json.Grammar.wellFormed_integer _ _, Json.Grammar.wellFormed_integer _ _,
    Json.wellFormed_ofFloat _, Json.wellFormed_ofFloat _,
    Json.wellFormed_ofFloat _, Json.wellFormed_ofFloat _, .string _, nofun⟩

theorem Failure.wellFormed_toJson (failure : Failure) : WellFormed failure.toJson := by
  cases failure with
  | tolerance failure => exact .object (List.forall_mem_singleton.mpr failure.wellFormed_toJson)
  | transform operation coordinates =>
      have numbers : WellFormed (.array (coordinates.map Json.ofFloat)) := by
        refine .array ?_
        rw [List.forall_mem_map]
        intro x mem
        exact Json.wellFormed_ofFloat x
      refine .object (List.forall_mem_singleton.mpr (.object ?_))
      simp only [List.forall_mem_cons]
      exact ⟨.string _, numbers, nofun⟩

theorem Outcome.wellFormed_toJson (outcome : Outcome) : WellFormed outcome.toJson := by
  cases outcome with
  | passed => exact .string _
  | failed failure => exact .object (List.forall_mem_singleton.mpr failure.wellFormed_toJson)
  | skipped reason => exact .object (List.forall_mem_singleton.mpr (.string reason))

theorem ReportEntry.wellFormed_toJson (entry : ReportEntry) : WellFormed entry.toJson := by
  have factory : WellFormed (.ofString? entry.factory) := by
    cases entry.factory with
    | none => exact .null
    | some text => exact .string text
  refine .object ?_
  simp only [List.forall_mem_cons]
  exact ⟨Json.Grammar.wellFormed_integer _ _, factory, entry.outcome.wellFormed_toJson, nofun⟩

/-! ## Reports -/

namespace Report

/-- The report of a sequence of outcomes. -/
def ofPushes (pushes : List ReportEntry) : Report :=
  pushes.foldl (fun report entry => report.push entry.target entry.factory entry.outcome) .empty

theorem entries_foldl_push (pushes : List ReportEntry) (report : Report) :
    (pushes.foldl (fun report entry => report.push entry.target entry.factory entry.outcome)
      report).entries = report.entries ++ pushes := by
  induction pushes generalizing report with
  | nil => exact (List.append_nil report.entries).symm
  | cons entry pushes inductionHypothesis =>
      rw [List.foldl_cons, inductionHypothesis, push, List.append_assoc]
      rfl

@[simp]
theorem entries_ofPushes (pushes : List ReportEntry) : (ofPushes pushes).entries = pushes :=
  entries_foldl_push pushes .empty

theorem wellFormed_toJson (report : Report) : WellFormed report.toJson := by
  refine .object (List.forall_mem_singleton.mpr (.array ?_))
  rw [List.forall_mem_map]
  intro entry mem
  exact entry.wellFormed_toJson

theorem parse_pretty (report : Report) : Json.parse report.toJson.pretty = .ok report.toJson :=
  Json.parse_pretty report.wellFormed_toJson

theorem mapM_ofJson? (report : Report) :
    (report.entries.map ReportEntry.toJson).mapM ReportEntry.ofJson? =
      some (report.entries.map (ReportEntry.mapFloats finiteOrNaN)) :=
  Json.mapM_map ReportEntry.ofJson?_toJson report.entries

end Report

/-! ## Reports with finite numbers only -/

theorem Outcome.mapFloats_finiteOrNaN {outcome : Outcome}
    (finite : ∀ x ∈ outcome.floats, x.isFinite = true) :
    outcome.mapFloats finiteOrNaN = outcome := by
  have kept : ∀ x ∈ outcome.floats, finiteOrNaN x = x :=
    fun x mem => finiteOrNaN_of_isFinite (finite x mem)
  cases outcome with
  | failed failure =>
      cases failure with
      | tolerance failure =>
          simp only [floats, Failure.floats, ComparisonFailure.floats, List.forall_mem_cons] at kept
          simp [mapFloats, Failure.mapFloats, ComparisonFailure.mapFloats, kept]
      | transform operation coordinates =>
          have same : coordinates.map finiteOrNaN = coordinates :=
            (List.map_congr_left kept).trans (List.map_id' coordinates)
          simp [mapFloats, Failure.mapFloats, same]
  | _ => rfl

/-- No number in a list of entries is NaN or infinite. -/
def AllFinite (entries : List ReportEntry) : Prop :=
  ∀ entry ∈ entries, ∀ x ∈ entry.outcome.floats, x.isFinite = true

instance (entries : List ReportEntry) : Decidable (AllFinite entries) :=
  inferInstanceAs (Decidable (∀ entry ∈ entries, ∀ x ∈ entry.outcome.floats, x.isFinite = true))

theorem AllFinite.map_mapFloats {entries : List ReportEntry} (finite : AllFinite entries) :
    entries.map (ReportEntry.mapFloats finiteOrNaN) = entries := by
  have kept : ∀ entry ∈ entries, entry.mapFloats finiteOrNaN = entry := by
    intro entry mem
    unfold ReportEntry.mapFloats
    rw [Outcome.mapFloats_finiteOrNaN (finite entry mem)]
  exact (List.map_congr_left kept).trans (List.map_id' entries)

/-- Entries without NaN and infinities are determined by the text of their report. -/
theorem Report.eq_of_pretty_eq {left right : Report} (finiteLeft : AllFinite left.entries)
    (finiteRight : AllFinite right.entries) (same : left.toJson.pretty = right.toJson.pretty) :
    left = right := by
  have parsed := left.parse_pretty
  rw [same, right.parse_pretty] at parsed
  injection parsed with values
  injection values with members
  have items : right.entries.map ReportEntry.toJson = left.entries.map ReportEntry.toJson := by
    simpa using members
  have entries := left.mapM_ofJson?
  rw [← items, right.mapM_ofJson?, finiteLeft.map_mapFloats, finiteRight.map_mapFloats] at entries
  exact congrArg Report.mk (Option.some.inj entries).symm

/-- The text of a report is a document, from which the pushed entries are read back in their order,
with every finite number; a null stands for each other number, and for no finite one. -/
theorem readBack_report (pushes : List ReportEntry) :
    (∃ draft items, DocumentText draft (Report.ofPushes pushes).toJson.pretty ∧
      Json.parse (Report.ofPushes pushes).toJson.pretty = draft.toJson ∧
      draft.toJson = .ok (.object [("entries", .array items)]) ∧
      items.mapM ReportEntry.ofJson? =
        some (pushes.map (ReportEntry.mapFloats finiteOrNaN))) ∧
    (∀ (value : Json) (x : Float), value.float? = some x → (x.isFinite = false ↔ value = .null)) ∧
    ∀ others : List ReportEntry, AllFinite pushes → AllFinite others →
      (Report.ofPushes pushes).toJson.pretty = (Report.ofPushes others).toJson.pretty →
      Report.ofPushes pushes = Report.ofPushes others := by
  have entries := Report.entries_ofPushes
  have wellFormed := (Report.ofPushes pushes).wellFormed_toJson
  have items := (Report.ofPushes pushes).mapM_ofJson?
  have stands := Json.Grammar.toJson_draft (Report.ofPushes pushes).toJson
  refine ⟨⟨_, _, Json.Grammar.documentText_pretty wellFormed, ?_, stands, ?_⟩, ?_, ?_⟩
  · exact (Report.ofPushes pushes).parse_pretty.trans stands.symm
  · rw [entries] at items
    rw [entries]
    exact items
  · intro value x read
    exact Json.isFinite_of_float? read
  · intro others finite finiteOthers same
    rw [← entries pushes] at finite
    rw [← entries others] at finiteOthers
    exact Report.eq_of_pretty_eq finite finiteOthers same

/-- Strings of characters that are escaped, no factory, and coordinates of which one is read as NaN;
and two reports that differ in the sign of a zero have different texts. -/
theorem readBack_report_escapes :
    (∃ items, Json.parse (Report.ofPushes [⟨-1, none, .skipped "\"\\\n\x01é"⟩,
        ⟨3395, some "", .failed (.transform "\t" [Float.inf, -0.0, 5e-324])⟩]).toJson.pretty =
          .ok (.object [("entries", .array items)]) ∧
      items.mapM ReportEntry.ofJson? = some [⟨-1, none, .skipped "\"\\\n\x01é"⟩,
        ⟨3395, some "", .failed (.transform "\t" [Float.nan, -0.0, 5e-324])⟩]) ∧
    (Report.ofPushes [⟨1, none, .failed (.transform "" [0.0])⟩]).toJson.pretty ≠
      (Report.ofPushes [⟨1, none, .failed (.transform "" [-0.0])⟩]).toJson.pretty := by
  constructor
  · obtain ⟨⟨draft, items, _, parsed, value, read⟩, _⟩ :=
      readBack_report [⟨-1, none, .skipped "\"\\\n\x01é"⟩,
        ⟨3395, some "", .failed (.transform "\t" [Float.inf, -0.0, 5e-324])⟩]
    refine ⟨items, parsed.trans value, read.trans ?_⟩
    decide +kernel
  · intro same
    obtain ⟨_, _, determined⟩ := readBack_report [⟨1, none, .failed (.transform "" [0.0])⟩]
    have equal := determined [⟨1, none, .failed (.transform "" [-0.0])⟩] (by decide) (by decide)
      same
    revert equal
    decide +kernel

end CoordinateConformance
