import CoordinateConformance.Proofs.Json.Library
import CoordinateConformance.Proofs.Json.Records
import CoordinateConformance.Verification.TestCase

/-!
Contract: a valid configuration survives its JSON text.

An object describes a configuration if it holds the options in which the configuration differs from
the standard one, each once and with its value. The order of the options, any further ones, members
under other keys and the blanks between them have no influence on what is read. What the
configuration is written as is such an object, so it is read back with every field; and no text at
all is read as a configuration that a test refuses. The texts are those of any lawful library for
JSON.

Owns: `Setting`, `Describes`, `fromJson_described`, `validate_of_fromJson`.

Does **not** own: the faults of other texts.
-/

namespace CoordinateConformance

open Json (Draft StringDraft RecordFormat)
open Json.Grammar (DocumentText)

/-! ## Options -/

/-- The options of a configuration. -/
inductive Setting where
  | tolerance
  | testsInverse
  | checksConsistency
  | checksDomain
  | gridSize
deriving DecidableEq

namespace Setting

instance : Fintype Setting :=
  ⟨{tolerance, testsInverse, checksConsistency, checksDomain, gridSize},
    fun setting => by cases setting <;> decide⟩

/-- The key of an option. -/
def name : Setting → String
  | tolerance => "tolerance"
  | testsInverse => "is_inverse_transform_supported"
  | checksConsistency => "is_consistency_check_enabled"
  | checksDomain => "is_domain_check_enabled"
  | gridSize => "domain_grid_size"

/-- Two configurations have the same value of an option. -/
def Agrees : Setting → Configuration → Configuration → Prop
  | tolerance, left, right => left.tolerance = right.tolerance
  | testsInverse, left, right => left.testsInverse = right.testsInverse
  | checksConsistency, left, right => left.checksConsistency = right.checksConsistency
  | checksDomain, left, right => left.checksDomain = right.checksDomain
  | gridSize, left, right => left.gridSize = right.gridSize

instance (setting : Setting) (left right : Configuration) :
    Decidable (setting.Agrees left right) :=
  match setting with
  | tolerance => inferInstanceAs (Decidable (left.tolerance = right.tolerance))
  | testsInverse => inferInstanceAs (Decidable (left.testsInverse = right.testsInverse))
  | checksConsistency =>
      inferInstanceAs (Decidable (left.checksConsistency = right.checksConsistency))
  | checksDomain => inferInstanceAs (Decidable (left.checksDomain = right.checksDomain))
  | gridSize => inferInstanceAs (Decidable (left.gridSize = right.gridSize))

/-- The value of an option is taken over from another configuration. -/
def copy (source : Configuration) : Setting → Configuration → Configuration
  | tolerance, target => { target with tolerance := source.tolerance }
  | testsInverse, target => { target with testsInverse := source.testsInverse }
  | checksConsistency, target => { target with checksConsistency := source.checksConsistency }
  | checksDomain, target => { target with checksDomain := source.checksDomain }
  | gridSize, target => { target with gridSize := source.gridSize }

/-- A value that an option of the configuration may be written as: for the tolerance any number that
the library reads as it, for the size of the grid its digits. -/
inductive Holds [Json.Library] (configuration : Configuration) : Setting → Draft → Prop where
  | tolerance {numeral : Numeral}
      (denotes : Json.Library.number? numeral = some configuration.tolerance) :
      Holds configuration .tolerance (.number numeral)
  | testsInverse : Holds configuration .testsInverse (.bool configuration.testsInverse)
  | checksConsistency :
      Holds configuration .checksConsistency (.bool configuration.checksConsistency)
  | checksDomain : Holds configuration .checksDomain (.bool configuration.checksDomain)
  | gridSize : Holds configuration .gridSize (.number ⟨false, configuration.gridSize, 0, 0, none⟩)

/-- The options in the order in which they are written. -/
def order : List Setting :=
  [tolerance, testsInverse, checksConsistency, checksDomain, gridSize]

/-- What the value of an option is written as. -/
def written [Json.Library] (configuration : Configuration) : Setting → Json
  | tolerance => .ofFloat configuration.tolerance
  | testsInverse => .bool configuration.testsInverse
  | checksConsistency => .bool configuration.checksConsistency
  | checksDomain => .bool configuration.checksDomain
  | gridSize => .ofNat configuration.gridSize

theorem name_injective : Function.Injective name := by
  intro left right same
  cases left <;> cases right <;> first | rfl | exact absurd same (by decide)

section Copying

variable {source target : Configuration}

theorem agrees_copy_self (setting : Setting) :
    setting.Agrees (setting.copy source target) source := by
  cases setting <;> rfl

theorem agrees_copy_of_agrees {setting : Setting} (other : Setting)
    (agrees : setting.Agrees target source) : setting.Agrees (other.copy source target) source := by
  by_cases same : setting = other
  · rw [same]
    exact agrees_copy_self other
  · cases setting <;> cases other <;> first | exact agrees | exact absurd rfl same

theorem eq_of_agrees (agrees : ∀ setting : Setting, setting.Agrees target source) :
    target = source := by
  obtain ⟨tolerance, testsInverse, checksConsistency, checksDomain, gridSize⟩ := target
  obtain ⟨_, _, _, _, _⟩ := source
  congr
  · exact agrees .tolerance
  · exact agrees .testsInverse
  · exact agrees .checksConsistency
  · exact agrees .checksDomain
  · exact agrees .gridSize

/-- Copying all options in which two configurations differ makes them equal. -/
theorem foldl_copy {settings : List Setting}
    (covered : ∀ setting : Setting, setting ∈ settings ∨ setting.Agrees target source) :
    settings.foldl (fun record setting => setting.copy source record) target = source := by
  refine eq_of_agrees fun setting => ?_
  exact Json.foldl_reaches (fun setting record => setting.Agrees record source)
    (fun setting _ => agrees_copy_self setting)
    (fun _ other _ agrees => agrees_copy_of_agrees other agrees) (covered setting)

end Copying

end Setting

/-! ## Descriptions -/

section Texts

variable [Json.Library]

/-- What a member says about a configuration: the value of an option, or nothing, if its key is no
option. -/
inductive Describes (configuration : Configuration) :
    StringDraft × Draft → Option Setting → Prop where
  | option {key : StringDraft} {value : Draft} {setting : Setting}
      (named : key.text = .ok setting.name) (holds : setting.Holds configuration value) :
      Describes configuration (key, value) (some setting)
  | other {key : StringDraft} {value : Draft} {name : String} (named : key.text = .ok name)
      (unknown : ∀ setting : Setting, setting.name ≠ name) :
      Describes configuration (key, value) none

namespace Configuration

/-- What setting an option does to the record that is read. -/
def stepOf (configuration : Configuration) (setting : Setting) :
    String × (Configuration → Configuration) :=
  (setting.name, setting.copy configuration)

/-- A key that is no option is no field of the record. -/
theorem find?_unknown {name : String} (unknown : ∀ setting : Setting, setting.name ≠ name) :
    (format.fields.find? fun field => field.name == name) = none := by
  have options : ∀ field ∈ format.fields, ∃ setting : Setting, setting.name = field.name := by
    simp only [format, List.forall_mem_cons]
    exact ⟨⟨.tolerance, rfl⟩, ⟨.testsInverse, rfl⟩, ⟨.checksConsistency, rfl⟩,
      ⟨.checksDomain, rfl⟩, ⟨.gridSize, rfl⟩, nofun⟩
  rw [List.find?_eq_none]
  intro field mem
  obtain ⟨setting, named⟩ := options field mem
  rw [beq_iff_eq, ← named]
  exact unknown setting

section Members

variable {configuration : Configuration} (word : configuration.gridSize < 2 ^ 64)
include word

theorem readNat_gridSize :
    Json.readNat (.number ⟨false, configuration.gridSize, 0, 0, none⟩) =
      .ok configuration.gridSize := by
  have small : configuration.gridSize < Nat.pow 2 64 := word
  simp [Json.readNat, Numeral.isInteger, small]

theorem member_option {key : StringDraft} {value : Draft} {setting : Setting}
    (named : key.text = .ok setting.name) (holds : setting.Holds configuration value) :
    RecordFormat.Member format (key, value) (some (configuration.stepOf setting)) := by
  cases holds with
  | tolerance denotes =>
      refine .known named rfl ?_
      simp only [Json.Field.of, Json.readFloat, denotes]
      rfl
  | testsInverse => exact .known named rfl rfl
  | checksConsistency => exact .known named rfl rfl
  | checksDomain => exact .known named rfl rfl
  | gridSize =>
      refine .known named rfl ?_
      simp only [Json.Field.of]
      rw [readNat_gridSize word]
      rfl

theorem members_of_describes {members : List (StringDraft × Draft)}
    {settings : List (Option Setting)}
    (described : List.Forall₂ (Describes configuration) members settings)
    (skipped : ∀ member ∈ members, member.2.skip = .ok ()) :
    List.Forall₂ (RecordFormat.Member format) members
      (settings.map (Option.map configuration.stepOf)) := by
  induction described with
  | nil => exact .nil
  | @cons member setting members settings first _ inductionHypothesis =>
      obtain ⟨skippedFirst, skippedRest⟩ := List.forall_mem_cons.mp skipped
      refine .cons ?_ (inductionHypothesis skippedRest)
      cases first with
      | option named holds => exact member_option word named holds
      | other named unknown => exact .other named (find?_unknown unknown) skippedFirst

/-- The settings of a description are copied one after the other. -/
theorem read_described {members : List (StringDraft × Draft)} {settings : List (Option Setting)}
    {text : String} (document : DocumentText (.object members none) text)
    (described : List.Forall₂ (Describes configuration) members settings)
    (distinct : settings.reduceOption.Nodup)
    (covered : ∀ setting : Setting,
      some setting ∈ settings ∨ setting.Agrees standard configuration) :
    format.read standard (.object members none) = .ok configuration := by
  have all := members_of_describes word described fun member mem =>
    Json.Grammar.skip_of_mem document mem
  have names : RecordFormat.namesOf (settings.map (Option.map configuration.stepOf)) =
      settings.reduceOption.map Setting.name := RecordFormat.namesOf_map _ _
  have copied : RecordFormat.applyAll (settings.map (Option.map configuration.stepOf)) standard =
      settings.reduceOption.foldl (fun record setting => setting.copy configuration record)
        standard := RecordFormat.applyAll_map _ _ _
  have read := RecordFormat.read_object all
    (names ▸ distinct.map Setting.name_injective) nofun standard
  rw [copied, Setting.foldl_copy fun setting => by
    rw [List.reduceOption_mem_iff]
    exact covered setting] at read
  exact read

end Members

/-! ## Written configurations -/

omit [Json.Library] in
theorem isFinite_of_validate {configuration : Configuration}
    (valid : configuration.validate = .ok ()) : configuration.tolerance.isFinite = true := by
  unfold validate at valid
  split_ifs at valid with outOfRange
  simp only [Bool.not_eq_true, Bool.not_eq_false', Bool.and_eq_true] at outOfRange
  exact outOfRange.1

theorem wellFormed_toJson [Json.LawfulLibrary] (configuration : Configuration) :
    Json.Grammar.WellFormed configuration.toJson := by
  refine .object ?_
  simp only [List.forall_mem_cons]
  exact ⟨Json.wellFormed_ofFloat _, .bool _, .bool _, .bool _,
    Json.Grammar.wellFormed_integer _ _, nofun⟩

theorem holds_of_toJson [Json.LawfulLibrary] {configuration : Configuration}
    (finite : configuration.tolerance.isFinite = true) {setting : Setting} {draft : Draft}
    (stands : draft.toJson = .ok (setting.written configuration)) :
    setting.Holds configuration draft := by
  cases setting with
  | tolerance =>
      rw [Setting.written, Json.ofFloat, if_pos finite] at stands
      obtain rfl : draft = _ := Json.shape_of_toJson stands
      exact .tolerance (Json.LawfulLibrary.number?_numeral _ finite)
  | testsInverse =>
      obtain rfl : draft = _ := Json.shape_of_toJson stands
      exact .testsInverse
  | checksConsistency =>
      obtain rfl : draft = _ := Json.shape_of_toJson stands
      exact .checksConsistency
  | checksDomain =>
      obtain rfl : draft = _ := Json.shape_of_toJson stands
      exact .checksDomain
  | gridSize =>
      obtain rfl : draft = _ := Json.shape_of_toJson stands
      exact .gridSize

/-- A written configuration holds all options in their order. -/
theorem describes_of_standsFor [Json.LawfulLibrary] {configuration : Configuration}
    (valid : configuration.validate = .ok ()) {members : List (StringDraft × Draft)}
    (stand : List.Forall₂ Json.StandsFor members
      (Setting.order.map fun setting => (setting.name, setting.written configuration))) :
    List.Forall₂ (Describes configuration) members (Setting.order.map some) := by
  rw [List.forall₂_map_right_iff] at stand ⊢
  refine stand.imp fun member setting stands => ?_
  exact .option stands.key (holds_of_toJson (isFinite_of_validate valid) stands.value)

theorem fromJson_of_read [Json.LawfulLibrary] {configuration : Configuration} {draft : Draft}
    {text : String} (valid : configuration.validate = .ok ())
    (document : DocumentText draft text)
    (read : format.read standard draft = .ok configuration) :
    fromJson text = .ok configuration := by
  unfold fromJson
  rw [Json.readText_document document, read]
  simp only [Except.mapError, bind, Except.bind, valid]
  rfl

/-- What is read has been found valid. -/
theorem validate_of_fromJson {configuration : Configuration} {text : String}
    (read : fromJson text = .ok configuration) : configuration.validate = .ok () := by
  unfold fromJson at read
  cases parsed : (Json.readText (format.read standard) text).mapError ConformanceError.json with
  | error error =>
      rw [parsed] at read
      cases read
  | ok found =>
      rw [parsed] at read
      cases validated : found.validate with
      | error error =>
          simp only [bind, Except.bind, validated] at read
          cases read
      | ok accepted =>
          simp only [bind, Except.bind, validated] at read
          injection read with same
          rw [← same]
          exact validated

omit [Json.Library] in
theorem ofConfiguration_of_valid {configuration : Configuration}
    (valid : configuration.validate = .ok ()) (functions : ElementaryFunctions Float) :
    ∃ test, TestCase.ofConfiguration functions configuration = .ok test ∧
      test.configuration = configuration := by
  unfold TestCase.ofConfiguration
  split
  next => exact ⟨_, rfl, rfl⟩
  next error invalid =>
    rw [valid] at invalid
    cases invalid

end Configuration

end Texts

/-- A valid configuration is read back from what is written for it, and from every document that
describes it; and what is read from any text makes a test. -/
theorem fromJson_described [Json.Library] [Json.LawfulLibrary] {configuration : Configuration}
    (valid : configuration.validate = .ok ()) (word : configuration.gridSize < 2 ^ 64) :
    (Configuration.fromJson (Json.Library.compact configuration.toJson) = .ok configuration ∧
      Configuration.fromJson (Json.Library.pretty configuration.toJson) = .ok configuration) ∧
    (∀ (members : List (StringDraft × Draft)) (settings : List (Option Setting)) (text : String),
      DocumentText (.object members none) text →
      List.Forall₂ (Describes configuration) members settings →
      settings.reduceOption.Nodup →
      (∀ setting : Setting,
        some setting ∈ settings ∨ setting.Agrees Configuration.standard configuration) →
      Configuration.fromJson text = .ok configuration) ∧
    ∀ (text : String) (found : Configuration), Configuration.fromJson text = .ok found →
      found.validate = .ok () ∧ ∀ functions : ElementaryFunctions Float,
        ∃ test, TestCase.ofConfiguration functions found = .ok test ∧
          test.configuration = found := by
  have wellFormed := Configuration.wellFormed_toJson configuration
  have written : ∀ {text : String}, Json.Writes text configuration.toJson →
      Configuration.fromJson text = .ok configuration := by
    intro text writes
    obtain ⟨members, document, stand⟩ := writes.exists_members
    have all := Configuration.describes_of_standsFor valid stand
    refine Configuration.fromJson_of_read valid document
      (Configuration.read_described word document all (by decide) ?_)
    intro setting
    cases setting <;> simp [Setting.order]
  refine ⟨⟨written ?_, written ?_⟩, ?_, ?_⟩
  · exact Json.LawfulLibrary.writes_compact _ wellFormed
  · exact Json.LawfulLibrary.writes_pretty _ wellFormed
  · intro members settings text document described distinct covered
    exact Configuration.fromJson_of_read valid document
      (Configuration.read_described word document described distinct covered)
  · intro text found read
    have validFound := Configuration.validate_of_fromJson read
    exact ⟨validFound, Configuration.ofConfiguration_of_valid validFound⟩

/-- Two options in another order than that of the record, one of them written with a power of ten,
and a member between them that is no option although a key inside of it is one. -/
def notedConfiguration : Json :=
  .object [("is_domain_check_enabled", .bool false),
    ("note", .array [.null, .object [("tolerance", .number ⟨true, 1, 0, 0, none⟩)]]),
    ("tolerance", .number ⟨false, 1, 0, 0, some (-3)⟩)]

theorem wellFormed_notedConfiguration : Json.Grammar.WellFormed notedConfiguration := by
  refine .object ?_
  simp only [List.forall_mem_cons]
  refine ⟨.bool _, .array ?_, .number (by decide), nofun⟩
  simp only [List.forall_mem_cons]
  exact ⟨.null, .object (List.forall_mem_singleton.mpr (.number (by decide))), nofun⟩

open scoped StandardJson in
/-- The options that are not mentioned keep their values. -/
theorem fromJson_described_noted :
    Configuration.fromJson
        ("\x7b\"is_domain_check_enabled\":false," ++
          "\"note\":[null,\x7b\"tolerance\":-1\x7d],\"tolerance\":1e-3\x7d") =
      .ok ⟨0.001, true, true, false, 8⟩ := by
  obtain ⟨_, described, _⟩ := @fromJson_described _ _ ⟨0.001, true, true, false, 8⟩
    (by decide +kernel) (by decide)
  have denotes : Numeral.toFloat? ⟨false, 1, 0, 0, some (-3)⟩ = some 0.001 := by decide +kernel
  have named := Json.Grammar.text_stringDraft
  have read := described _ [some .checksDomain, none, some .tolerance] notedConfiguration.compact
    (Json.Grammar.documentText_compact wellFormed_notedConfiguration)
    (.cons (.option (named _) .checksDomain) (.cons (.other (named _) (by decide))
      (.cons (.option (named _) (.tolerance denotes)) .nil))) (by decide) (by decide +kernel)
  refine Eq.trans (congrArg Configuration.fromJson ?_) read
  decide +kernel

end CoordinateConformance
