import CoordinateConformance.Proofs.Json.Library
import CoordinateConformance.Proofs.Json.Records

/-!
Contract: a record of numbers is read back from every shape of its text.

A `NumberRecord` lists the fields of a record in the order of their declaration, and a `NumberCodec`
says how a number is written and which values of a document denote it. From the laws of both it
follows that the written text, every object that describes the record and the array of its numbers
are read as the record, and that no other number takes the place of one that is missing.

The texts are those of any lawful library.

Owns: `NumberCodec`, `NumberRecord`, `NumberRecord.TextsReadBack`, `NumberRecord.textsReadBack`.

Does **not** own: records whose fields are of several kinds.
-/

namespace CoordinateConformance.Json

open Grammar (DocumentText WellFormed)

/-! ## Numbers -/

/-- How numbers of one kind stand in documents. Only admissible numbers have a text of their own;
all others are written as null. -/
structure NumberCodec (α : Type) where
  write : α → Json
  read : Draft → Except ReadFault α
  Admissible : α → Prop
  Denotes : Draft → α → Prop
  wellFormed_write : ∀ number, WellFormed (write number)
  denotes_write : ∀ number draft, Admissible number → draft.toJson = .ok (write number) →
    Denotes draft number
  write_eq_null : ∀ number, ¬Admissible number → write number = .null
  read_of_denotes : ∀ value number, Denotes value number → read value = .ok number
  read_null : ∀ number, read .null ≠ .ok number

namespace NumberCodec

/-- Any number of a document denotes the number that the library reads it as. -/
inductive DenotesFloat [Library] : Draft → Float → Prop where
  | numeral {numeral : Numeral} {number : Float} (denotes : Library.number? numeral = some number) :
      DenotesFloat (.number numeral) number

/-- An integer is denoted by its digits, with a minus if it is negative. -/
inductive DenotesInt32 : Draft → Int32 → Prop where
  | digits (number : Int32) :
      DenotesInt32
        (.number ⟨decide (number.toInt < 0), number.toInt.natAbs, 0, 0, none⟩) number

/-- Finite numbers in the digits that the library chooses. -/
def float [Library] [LawfulLibrary] : NumberCodec Float where
  write := .ofFloat
  read := readFloat
  Admissible number := number.isFinite = true
  Denotes := DenotesFloat
  wellFormed_write := wellFormed_ofFloat
  denotes_write number draft finite stands := by
    rw [Json.ofFloat, if_pos finite] at stands
    obtain rfl : draft = _ := shape_of_toJson stands
    exact .numeral (LawfulLibrary.number?_numeral number finite)
  write_eq_null number notFinite := if_neg notFinite
  read_of_denotes value number denoted := by
    obtain ⟨denotes⟩ := denoted
    simp [readFloat, denotes]
  read_null number := nofun

theorem readInt32_digits [Library] (number : Int32) :
    readInt32 (.number ⟨decide (number.toInt < 0), number.toInt.natAbs, 0, 0, none⟩) =
      .ok number := by
  have least : -2147483648 ≤ number.toInt := number.le_toInt
  have greatest : number.toInt ≤ 2147483647 := Int.le_of_lt_add_one number.toInt_lt
  have value : (if decide (number.toInt < 0) = true then -(number.toInt.natAbs : Int)
      else number.toInt.natAbs) = number.toInt := by
    split_ifs with negative <;> simp only [decide_eq_true_eq] at negative <;> omega
  have notNegativeZero :
      (decide (number.toInt < 0) && number.toInt.natAbs == 0) = false := by
    rw [Bool.and_eq_false_iff, decide_eq_false_iff_not, beq_eq_false_iff_ne]
    omega
  unfold readInt32
  dsimp only
  rw [value, notNegativeZero]
  simp [Numeral.isInteger, least, greatest]

/-- Integers of 32 bits, all of which have a text. -/
def int32 [Library] : NumberCodec Int32 where
  write number := .ofInt number.toInt
  read := readInt32
  Admissible _ := True
  Denotes := DenotesInt32
  wellFormed_write number := Grammar.wellFormed_integer _ _
  denotes_write number draft _ stands := by
    obtain rfl : draft = _ := shape_of_toJson stands
    exact .digits number
  write_eq_null number notAdmissible := absurd trivial notAdmissible
  read_of_denotes value number denoted := by
    obtain ⟨⟩ := denoted
    exact readInt32_digits number
  read_null number := nofun

end NumberCodec

/-! ## Records -/

/-- A record whose fields are numbers of one kind. A field is set without any influence on the
others, and the numbers of its fields make the record. -/
structure NumberRecord (ι σ α : Type) where
  /-- The fields in the order of their declaration. -/
  order : List ι
  name : ι → String
  get : ι → σ → α
  set : ι → α → σ → σ
  mem_order : ∀ field, field ∈ order
  nodup_order : order.Nodup
  name_injective : Function.Injective name
  get_set_self : ∀ field number record, get field (set field number record) = number
  get_set_other : ∀ field other number record, field ≠ other →
    get field (set other number record) = get field record
  eq_of_get_eq : ∀ left right, (∀ field, get field left = get field right) → left = right

namespace NumberRecord

variable {ι σ α : Type} (layout : NumberRecord ι σ α) (codec : NumberCodec α)

/-- What a member says about a record: the number of a field, or nothing, if its key is no field. -/
inductive Describes (record : σ) : StringDraft × Draft → Option ι → Prop where
  | field {key : StringDraft} {value : Draft} {field : ι}
      (named : key.text = .ok (layout.name field))
      (denotes : codec.Denotes value (layout.get field record)) :
      Describes record (key, value) (some field)
  | other {key : StringDraft} {value : Draft} {name : String} (named : key.text = .ok name)
      (unknown : ∀ field, layout.name field ≠ name) : Describes record (key, value) none

/-- What texts are read as, if records are written by `toJson` and read by `fromJson`. -/
structure TextsReadBack [Library] (toJson : σ → Json)
    (fromJson : String → Except ReadFault σ) : Prop where
  /-- Reading undoes writing. -/
  written : ∀ record, (∀ field, codec.Admissible (layout.get field record)) →
    fromJson (Library.compact (toJson record)) = .ok record ∧
      fromJson (Library.pretty (toJson record)) = .ok record
  /-- The members of an object may stand in any order, and other members among them. -/
  object : ∀ record members fields text, DocumentText (.object members none) text →
    List.Forall₂ (layout.Describes codec record) members fields →
    fields.reduceOption.Perm layout.order → fromJson text = .ok record
  /-- The numbers of an array are those of the fields, in the order of their declaration. -/
  array : ∀ record items text, DocumentText (.array items none) text →
    List.Forall₂ (fun field item => codec.Denotes item (layout.get field record)) layout.order
      items → fromJson text = .ok record
  /-- A field that is missing, that stands there twice or that is null is a fault. -/
  missing : ∀ members text field, DocumentText (.object members none) text →
    (∀ member ∈ members, member.1.text ≠ .ok (layout.name field)) →
    ∃ fault, fromJson text = .error fault
  repeated : ∀ members text field first second, DocumentText (.object members none) text →
    [first, second].Sublist members → first.1.text = .ok (layout.name field) →
    second.1.text = .ok (layout.name field) → ∃ fault, fromJson text = .error fault
  null : ∀ members text field key, DocumentText (.object members none) text →
    (key, .null) ∈ members → key.text = .ok (layout.name field) →
    ∃ fault, fromJson text = .error fault
  /-- So is an array with too few or too many items, or with a null. -/
  otherLength : ∀ items text, DocumentText (.array items none) text →
    items.length ≠ layout.order.length → ∃ fault, fromJson text = .error fault
  nullItem : ∀ items text, DocumentText (.array items none) text → .null ∈ items →
    ∃ fault, fromJson text = .error fault
  /-- A number without a text is written as null, so the record is not read back. -/
  notWritten : ∀ record field, ¬codec.Admissible (layout.get field record) →
    codec.write (layout.get field record) = .null ∧
      (∃ fault, fromJson (Library.compact (toJson record)) = .error fault) ∧
      ∃ fault, fromJson (Library.pretty (toJson record)) = .error fault

def toJson (record : σ) : Json :=
  .object (layout.order.map fun field =>
    (layout.name field, codec.write (layout.get field record)))

/-- The field of a format: a number that is set. -/
def fieldOf (field : ι) : Field σ :=
  .of (layout.name field) codec.read (layout.set field)

/-- The format of the record: all fields have to be there. -/
def format : RecordFormat σ :=
  ⟨layout.order.map (layout.fieldOf codec), true⟩

def fromJson [Library] (start : σ) (text : String) : Except ReadFault σ :=
  readText ((layout.format codec).read start) text

/-! ### Fields -/

theorem find?_field (field : ι) :
    ((layout.format codec).fields.find? fun other => other.name == layout.name field) =
      some (layout.fieldOf codec field) := by
  refine find?_eq_some_of_unique (List.mem_map_of_mem (layout.mem_order field))
    (beq_self_eq_true (layout.name field)) ?_
  intro other mem sameName
  obtain ⟨otherField, _, rfl⟩ := List.mem_map.mp mem
  rw [layout.name_injective (beq_iff_eq.mp sameName)]

theorem isSome_find?_field (field : ι) :
    ((layout.format codec).fields.find? fun other => other.name == layout.name field).isSome =
      true := by
  rw [layout.find?_field codec field]
  rfl

theorem find?_unknown {name : String} (unknown : ∀ field, layout.name field ≠ name) :
    ((layout.format codec).fields.find? fun other => other.name == name) = none := by
  rw [List.find?_eq_none]
  intro other mem
  obtain ⟨field, _, rfl⟩ := List.mem_map.mp mem
  rw [beq_iff_eq]
  exact unknown field

theorem read_fieldOf {field : ι} {value : Draft} {number : α}
    (denotes : codec.Denotes value number) :
    (layout.fieldOf codec field).read value = .ok (layout.set field number) := by
  simp only [fieldOf, Field.of]
  rw [codec.read_of_denotes value number denotes]
  rfl

theorem read_fieldOf_null (field : ι) (set : σ → σ) :
    (layout.fieldOf codec field).read .null ≠ .ok set := by
  simp only [fieldOf, Field.of]
  -- Whatever is set, a number has to be read first.
  cases read : codec.read .null with
  | error fault => nofun
  | ok number => exact absurd read (codec.read_null number)

/-- Setting all fields of a record makes the record, whatever was set before. -/
theorem foldl_set {fields : List ι} {record : σ} (all : ∀ field, field ∈ fields) (start : σ) :
    fields.foldl (fun state field => layout.set field (layout.get field record) state) start =
      record := by
  refine layout.eq_of_get_eq _ _ fun field => ?_
  refine foldl_reaches (fun field state => layout.get field state = layout.get field record)
    (fun field state => layout.get_set_self field _ state) ?_ (Or.inl (all field))
  intro field other state reached
  by_cases same : field = other
  · rw [same]
    exact layout.get_set_self other _ state
  · rw [layout.get_set_other field other _ state same]
    exact reached

/-! ### Objects -/

section Objects

variable {codec} {members : List (StringDraft × Draft)} {text : String}
  (document : DocumentText (.object members none) text)

/-- What setting a field does to the record that is read. -/
def stepOf (record : σ) (field : ι) : String × (σ → σ) :=
  (layout.name field, layout.set field (layout.get field record))

variable {layout}

theorem Describes.member {record : σ} {member : StringDraft × Draft} {field : Option ι}
    (described : layout.Describes codec record member field) (skipped : member.2.skip = .ok ()) :
    RecordFormat.Member (layout.format codec) member (field.map (layout.stepOf record)) := by
  cases described with
  | field named denotes =>
      exact .known named (layout.find?_field codec _) (layout.read_fieldOf codec denotes)
  | other named unknown => exact .other named (layout.find?_unknown codec unknown) skipped

theorem members_of_describes {record : σ} {fields : List (Option ι)}
    (described : List.Forall₂ (layout.Describes codec record) members fields)
    (skipped : ∀ member ∈ members, member.2.skip = .ok ()) :
    List.Forall₂ (RecordFormat.Member (layout.format codec)) members
      (fields.map (Option.map (layout.stepOf record))) := by
  induction described with
  | nil => exact .nil
  | cons first _ inductionHypothesis =>
      obtain ⟨skippedFirst, skippedRest⟩ := List.forall_mem_cons.mp skipped
      exact .cons (first.member skippedFirst) (inductionHypothesis skippedRest)

variable [Library]

include document in
theorem read_described {record : σ} {fields : List (Option ι)}
    (described : List.Forall₂ (layout.Describes codec record) members fields)
    (once : fields.reduceOption.Perm layout.order) (start : σ) :
    (layout.format codec).read start (.object members none) = .ok record := by
  have all := members_of_describes described fun member mem => Grammar.skip_of_mem document mem
  have names : RecordFormat.namesOf (fields.map (Option.map (layout.stepOf record))) =
      fields.reduceOption.map layout.name := RecordFormat.namesOf_map _ _
  have covered : ∀ field, field ∈ fields.reduceOption := fun field =>
    once.mem_iff.mpr (layout.mem_order field)
  have distinct := (once.nodup_iff.mpr layout.nodup_order).map layout.name_injective
  rw [← names] at distinct
  have complete : (layout.format codec).Complete
      (RecordFormat.namesOf (fields.map (Option.map (layout.stepOf record)))) := by
    intro _ other mem
    obtain ⟨field, _, rfl⟩ := List.mem_map.mp mem
    rw [names]
    exact List.mem_map_of_mem (covered field)
  rw [RecordFormat.read_object all distinct complete start, RecordFormat.applyAll_map]
  exact congrArg Except.ok (layout.foldl_set covered start)

/-- What is read of a required field stands under its name. -/
theorem exists_member_of_read {start found : σ}
    (read : (layout.format codec).read start (.object members none) = .ok found) (field : ι) :
    ∃ member ∈ members, member.1.text = .ok (layout.name field) := by
  obtain ⟨steps, described, _, complete, _⟩ := RecordFormat.read_object_iff.mp read
  refine RecordFormat.text_of_mem_namesOf described ?_
  exact complete rfl (layout.fieldOf codec field) (List.mem_map_of_mem (layout.mem_order field))

theorem not_repeated_of_read {start found : σ}
    (read : (layout.format codec).read start (.object members none) = .ok found) {field : ι}
    {first second : StringDraft × Draft} (twice : [first, second].Sublist members)
    (firstNamed : first.1.text = .ok (layout.name field)) :
    second.1.text ≠ .ok (layout.name field) := by
  intro secondNamed
  obtain ⟨steps, described, distinct, _, _⟩ := RecordFormat.read_object_iff.mp read
  have named : ∀ member ∈ [first, second], member.1.text = .ok (layout.name field) := by
    simp [firstNamed, secondNamed]
  exact List.nodup_iff_sublist.mp distinct (layout.name field)
    (RecordFormat.sublist_namesOf (layout.isSome_find?_field codec field) described twice named)

theorem not_null_of_read {start found : σ}
    (read : (layout.format codec).read start (.object members none) = .ok found) {field : ι}
    {key : StringDraft} (mem : (key, .null) ∈ members) :
    key.text ≠ .ok (layout.name field) := by
  intro named
  obtain ⟨steps, described, _, _, _⟩ := RecordFormat.read_object_iff.mp read
  obtain ⟨step, _, member⟩ := exists_related_of_mem_left described mem
  obtain ⟨other, set, found, nullRead, _⟩ :=
    member.exists_field (layout.isSome_find?_field codec field) named
  rw [layout.find?_field codec field] at found
  cases found
  exact layout.read_fieldOf_null codec field set nullRead

end Objects

/-! ### Arrays -/

section Arrays

variable {layout codec} {items : List Draft}

theorem itemSteps_of_denotes {record : σ} {fields : List ι}
    (denoted : List.Forall₂ (fun field item => codec.Denotes item (layout.get field record)) fields
      items) :
    RecordFormat.ItemSteps (fields.map (layout.fieldOf codec)) items
      (fields.map fun field => layout.set field (layout.get field record)) := by
  induction denoted with
  | nil => exact .nil
  | cons denotes _ inductionHypothesis =>
      exact .cons (layout.read_fieldOf codec denotes) inductionHypothesis

variable [Library]

theorem read_items {record : σ}
    (denoted : List.Forall₂ (fun field item => codec.Denotes item (layout.get field record))
      layout.order items) (start : σ) :
    (layout.format codec).read start (.array items none) = .ok record := by
  refine (RecordFormat.read_array_iff rfl).mpr ⟨_, itemSteps_of_denotes denoted, ?_⟩
  rw [List.foldl_map]
  exact layout.foldl_set layout.mem_order start

theorem length_of_read {start found : σ}
    (read : (layout.format codec).read start (.array items none) = .ok found) :
    items.length = layout.order.length := by
  obtain ⟨sets, steps, _⟩ := (RecordFormat.read_array_iff rfl).mp read
  rw [steps.length_eq, format, List.length_map]

theorem no_null_of_read {start found : σ}
    (read : (layout.format codec).read start (.array items none) = .ok found) :
    .null ∉ items := by
  intro mem
  obtain ⟨sets, steps, _⟩ := (RecordFormat.read_array_iff rfl).mp read
  obtain ⟨field, fieldMem, set, nullRead⟩ := steps.exists_field mem
  obtain ⟨index, _, rfl⟩ := List.mem_map.mp fieldMem
  exact layout.read_fieldOf_null codec index set nullRead

end Arrays

/-! ### Written records -/

section Written

theorem wellFormed_toJson (record : σ) : WellFormed (layout.toJson codec record) := by
  refine .object fun member mem => ?_
  obtain ⟨field, _, rfl⟩ := List.mem_map.mp mem
  exact codec.wellFormed_write _

variable {layout codec} {record : σ} {members : List (StringDraft × Draft)}
  (stand : List.Forall₂ StandsFor members (layout.order.map fun field =>
    (layout.name field, codec.write (layout.get field record))))
include stand

/-- A written record holds all fields in their order. -/
theorem describes_of_standsFor (admissible : ∀ field, codec.Admissible (layout.get field record)) :
    List.Forall₂ (layout.Describes codec record) members (layout.order.map some) := by
  rw [List.forall₂_map_right_iff] at stand ⊢
  refine stand.imp fun drafted field stands => ?_
  exact .field stands.key (codec.denotes_write _ _ (admissible field) stands.value)

theorem mem_null_of_standsFor {field : ι}
    (notWritten : codec.write (layout.get field record) = .null) :
    ∃ key, (key, .null) ∈ members ∧ key.text = .ok (layout.name field) := by
  have mem : (layout.name field, .null) ∈ layout.order.map fun other =>
      (layout.name other, codec.write (layout.get other record)) :=
    List.mem_map.mpr ⟨field, layout.mem_order field, by rw [notWritten]⟩
  obtain ⟨⟨key, value⟩, drafted, stands⟩ := exists_related_of_mem_right stand mem
  obtain rfl : value = .null := shape_of_toJson stands.value
  exact ⟨key, drafted, stands.key⟩

end Written

/-! ### Texts -/

section Texts

variable [Library] [LawfulLibrary] {layout codec} {start : σ} {text : String}

theorem fromJson_document {value : Draft} (document : DocumentText value text) :
    layout.fromJson codec start text = (layout.format codec).read start value :=
  readText_document document _

theorem exists_fault {value : Draft} (document : DocumentText value text)
    (unread : ∀ found, (layout.format codec).read start value ≠ .ok found) :
    ∃ fault, layout.fromJson codec start text = .error fault := by
  rw [fromJson_document document]
  cases read : (layout.format codec).read start value with
  | error fault => exact ⟨fault, rfl⟩
  | ok found => exact absurd read (unread found)

variable {record : σ} (writes : Writes text (layout.toJson codec record))
include writes

theorem fromJson_written (admissible : ∀ field, codec.Admissible (layout.get field record)) :
    layout.fromJson codec start text = .ok record := by
  have all : (layout.order.map some).reduceOption = layout.order := by
    rw [List.reduceOption, List.filterMap_map]
    exact List.filterMap_some
  obtain ⟨members, document, stand⟩ := writes.exists_members
  rw [fromJson_document document]
  exact read_described document (describes_of_standsFor stand admissible) (.of_eq all) start

theorem exists_fault_of_null {field : ι}
    (notWritten : codec.write (layout.get field record) = .null) :
    ∃ fault, layout.fromJson codec start text = .error fault := by
  obtain ⟨members, document, stand⟩ := writes.exists_members
  obtain ⟨key, mem, named⟩ := mem_null_of_standsFor stand notWritten
  exact exists_fault document fun found read => not_null_of_read read mem named

end Texts

/-- The texts of records of numbers are read back, whatever the record is before it is read. -/
theorem textsReadBack [Library] [LawfulLibrary] (start : σ) :
    layout.TextsReadBack codec (layout.toJson codec) (layout.fromJson codec start) where
  written record admissible := by
    have wellFormed := layout.wellFormed_toJson codec record
    exact ⟨fromJson_written (LawfulLibrary.writes_compact _ wellFormed) admissible,
      fromJson_written (LawfulLibrary.writes_pretty _ wellFormed) admissible⟩
  object record members fields text document described once := by
    rw [fromJson_document document]
    exact read_described document described once start
  array record items text document denoted := by
    rw [fromJson_document document]
    exact read_items denoted start
  missing members text field document absent := by
    refine exists_fault document fun found read => ?_
    obtain ⟨member, mem, named⟩ := exists_member_of_read read field
    exact absent member mem named
  repeated members text field first second document twice firstNamed secondNamed :=
    exists_fault document fun _ read => not_repeated_of_read read twice firstNamed secondNamed
  null members text field key document mem named :=
    exists_fault document fun _ read => not_null_of_read read mem named
  otherLength items text document length :=
    exists_fault document fun _ read => length (length_of_read read)
  nullItem items text document mem :=
    exists_fault document fun _ read => no_null_of_read read mem
  notWritten record field notAdmissible := by
    have wellFormed := layout.wellFormed_toJson codec record
    have null := codec.write_eq_null _ notAdmissible
    exact ⟨null, exists_fault_of_null (LawfulLibrary.writes_compact _ wellFormed) null,
      exists_fault_of_null (LawfulLibrary.writes_pretty _ wellFormed) null⟩

end NumberRecord

end CoordinateConformance.Json
