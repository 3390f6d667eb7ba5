import Mathlib.Data.List.Forall2
import Mathlib.Data.List.ReduceOption
import CoordinateConformance.Json.Reader
import CoordinateConformance.Proofs.Json.Grammar

/-!
Contract: reading a record from an object.

Members of an object either set a known field, each field at most once, or are passed over. Which
members are passed over, and where they stand, has no influence: the record that is read has the
values of the known members set in the order of the text. Nothing else is read from an object: a
field that is missing or repeated, and a value that is none of the field's, is a fault. The items of
an array set the fields in order, one for each.

Owns: `skip_spelled`, `Member`, `read_object_iff`, `ItemSteps`, `read_array_iff`.

Does **not** own: which of several faults is reported.
-/

namespace CoordinateConformance.Json

/-! ## Values that are passed over -/

namespace Grammar

theorem skipItems_of_all {drafts : List Draft} (all : ∀ draft ∈ drafts, draft.skip = .ok ()) :
    skipItems drafts = .ok () := by
  induction drafts with
  | nil => rfl
  | cons draft drafts inductionHypothesis =>
      rw [skipItems, all draft (.head drafts)]
      exact inductionHypothesis fun other mem => all other (.tail draft mem)

theorem skipMembers_of_all {drafts : List (StringDraft × Draft)}
    (all : ∀ member ∈ drafts, member.1.ending = none ∧ member.2.skip = .ok ()) :
    skipMembers drafts = .ok () := by
  induction drafts with
  | nil => rfl
  | cons member drafts inductionHypothesis =>
      obtain ⟨closed, skipped⟩ := all member (.head drafts)
      rw [skipMembers, closed, skipped]
      exact inductionHypothesis fun other mem => all other (.tail member mem)

/-- Nothing in a phrase hinders passing over it. -/
def Skipped : Phrase → Prop
  | .value draft => draft.skip = .ok ()
  | .element draft => draft.skip = .ok ()
  | .items drafts => ∀ draft ∈ drafts, draft.skip = .ok ()
  | .member key draft => key.ending = none ∧ draft.skip = .ok ()
  | .members drafts => ∀ member ∈ drafts, member.1.ending = none ∧ member.2.skip = .ok ()

/-- A spelled value is passed over, whatever its strings and numbers stand for. -/
theorem skip_spelled {phrase : Phrase} {text : List Char} (spelled : Spells phrase text) :
    Skipped phrase := by
  induction spelled with
  | string quoted =>
      cases quoted
      rfl
  | array _ all =>
      show (do skipItems _; checkEnding none) = _
      rw [skipItems_of_all all]
      rfl
  | object _ all =>
      show (do skipMembers _; checkEnding none) = _
      rw [skipMembers_of_all all]
      rfl
  | element _ _ _ value => exact value
  | lastItem _ item => exact List.forall_mem_singleton.mpr item
  | nextItem _ _ item rest => exact List.forall_mem_cons.mpr ⟨item, rest⟩
  | member _ quoted _ _ value =>
      cases quoted
      exact ⟨rfl, value⟩
  | lastMember _ member => exact List.forall_mem_singleton.mpr member
  | nextMember _ _ member rest => exact List.forall_mem_cons.mpr ⟨member, rest⟩
  | _ => rfl

theorem skip_of_mem {members : List (StringDraft × Draft)} {text : String}
    (document : DocumentText (.object members none) text) {member : StringDraft × Draft}
    (mem : member ∈ members) : member.2.skip = .ok () := by
  unfold DocumentText at document
  generalize text.toList = characters at document
  cases document with
  | element _ value _ =>
      cases value with
      | emptyObject => cases mem
      | object spelled => exact (skip_spelled spelled member mem).2

end Grammar

/-! ## Looking up a name -/

theorem find?_eq_some_of_unique {α : Type} {holds : α → Bool} {list : List α} {element : α}
    (mem : element ∈ list) (found : holds element = true)
    (unique : ∀ other ∈ list, holds other = true → other = element) :
    list.find? holds = some element := by
  have isSome : (list.find? holds).isSome = true := List.find?_isSome.mpr ⟨element, mem, found⟩
  obtain ⟨other, equal⟩ := Option.isSome_iff_exists.mp isSome
  rw [equal, unique other (List.mem_of_find?_eq_some equal) (List.find?_some equal)]

/-- Steps that each reach a goal of their own and keep what is reached before reach all of their
goals. -/
theorem foldl_reaches {ι σ : Type} {step : ι → σ → σ} (Goal : ι → σ → Prop)
    (own : ∀ index state, Goal index (step index state))
    (kept : ∀ index other state, Goal index state → Goal index (step other state))
    {steps : List ι} {start : σ} {index : ι} (covered : index ∈ steps ∨ Goal index start) :
    Goal index (steps.foldl (fun state other => step other state) start) := by
  induction steps generalizing start with
  | nil => exact covered.resolve_left List.not_mem_nil
  | cons first steps inductionHypothesis =>
      refine inductionHypothesis ?_
      rcases covered with mem | reached
      · rcases List.mem_cons.mp mem with rfl | mem
        · exact Or.inr (own index start)
        · exact Or.inl mem
      · exact Or.inr (kept index first start reached)

section Related

variable {α β : Type} {related : α → β → Prop} {left : List α} {right : List β}
  (all : List.Forall₂ related left right)
include all

/-- What stands in one of two lists of related elements has its partner in the other. -/
theorem exists_related_of_mem_left {element : α} (mem : element ∈ left) :
    ∃ partner ∈ right, related element partner := by
  induction all with
  | nil => cases mem
  | @cons first partner _ _ holds _ inductionHypothesis =>
      rcases List.mem_cons.mp mem with rfl | mem
      · exact ⟨partner, .head _, holds⟩
      · obtain ⟨partner, partnerMem, holds⟩ := inductionHypothesis mem
        exact ⟨partner, .tail _ partnerMem, holds⟩

theorem exists_related_of_mem_right {element : β} (mem : element ∈ right) :
    ∃ partner ∈ left, related partner element :=
  exists_related_of_mem_left (List.Forall₂.flip all) mem

end Related

/-! ## Members of a record -/

namespace RecordFormat

variable {σ : Type} {format : RecordFormat σ}

/-- What a member does to a record: a known one sets its field, any other one does nothing. -/
inductive Member (format : RecordFormat σ) :
    StringDraft × Draft → Option (String × (σ → σ)) → Prop where
  | known {key : StringDraft} {value : Draft} {name : String} {field : Field σ} {set : σ → σ}
      (named : key.text = .ok name)
      (found : (format.fields.find? fun field => field.name == name) = some field)
      (read : field.read value = .ok set) : Member format (key, value) (some (name, set))
  | other {key : StringDraft} {value : Draft} {name : String} (named : key.text = .ok name)
      (unknown : (format.fields.find? fun field => field.name == name) = none)
      (skipped : value.skip = .ok ()) : Member format (key, value) none

/-- The names that are set, in the order of the text. -/
def namesOf (steps : List (Option (String × (σ → σ)))) : List String :=
  steps.reduceOption.map Prod.fst

/-- Sets one field after the other. -/
def applyAll (steps : List (Option (String × (σ → σ)))) (record : σ) : σ :=
  steps.reduceOption.foldl (fun record step => step.2 record) record

section Steps

variable {ι : Type} (stepOf : ι → String × (σ → σ)) (fields : List (Option ι))

theorem namesOf_map : namesOf (fields.map (Option.map stepOf)) =
    fields.reduceOption.map fun field => (stepOf field).1 := by
  rw [namesOf, List.reduceOption_map, List.map_map]
  rfl

theorem applyAll_map (record : σ) : applyAll (fields.map (Option.map stepOf)) record =
    fields.reduceOption.foldl (fun record field => (stepOf field).2 record) record := by
  rw [applyAll, List.reduceOption_map, List.foldl_map]

end Steps

/-- The record is complete, if it has to be. -/
def Complete (format : RecordFormat σ) (names : List String) : Prop :=
  format.required = true → ∀ field ∈ format.fields, field.name ∈ names

theorem readMembers_nil {seen : List String} (complete : format.Complete seen) (record : σ) :
    readMembers format none [] seen record = .ok record := by
  have nothingMissing : (format.required &&
      !format.fields.all fun field => seen.contains field.name) = false := by
    rw [Bool.and_eq_false_iff, or_iff_not_imp_left, Bool.not_eq_false]
    intro required
    simpa using complete required
  unfold readMembers
  simp only [nothingMissing]
  rfl

section Step

variable {key : StringDraft} {value : Draft} {name : String} (named : key.text = .ok name)
  (ending : Option ReadFault) (rest : List (StringDraft × Draft)) (seen : List String) (record : σ)
include named

theorem readMembers_known {field : Field σ} {set : σ → σ}
    (found : (format.fields.find? fun field => field.name == name) = some field)
    (fresh : name ∉ seen) (read : field.read value = .ok set) :
    readMembers format ending ((key, value) :: rest) seen record =
      readMembers format ending rest (name :: seen) (set record) := by
  have notSeen : seen.contains name = false := by simpa using fresh
  rw [readMembers, named]
  simp only [bind, Except.bind, found, notSeen, read]
  rfl

theorem readMembers_other
    (unknown : (format.fields.find? fun field => field.name == name) = none)
    (skipped : value.skip = .ok ()) :
    readMembers format ending ((key, value) :: rest) seen record =
      readMembers format ending rest seen record := by
  rw [readMembers, named]
  simp only [bind, Except.bind, unknown, skipped]

end Step

/-- The names that are seen so far grow by those that are set. -/
theorem readMembers_eq {members : List (StringDraft × Draft)}
    {steps : List (Option (String × (σ → σ)))} {seen : List String}
    (described : List.Forall₂ (Member format) members steps)
    (distinct : (namesOf steps ++ seen).Nodup) (complete : format.Complete (namesOf steps ++ seen))
    (record : σ) :
    readMembers format none members seen record = .ok (applyAll steps record) := by
  induction described generalizing seen record with
  | nil => exact readMembers_nil complete record
  | @cons member step members steps first _ inductionHypothesis =>
      cases first with
      | @known key value name field set named found read =>
          have moved : (namesOf (some (name, set) :: steps) ++ seen).Perm
              (namesOf steps ++ name :: seen) := List.perm_middle.symm
          have fresh : name ∉ seen := fun mem =>
            (List.nodup_cons.mp distinct).1 (List.mem_append_right _ mem)
          rw [readMembers_known named none members seen record found fresh read]
          exact inductionHypothesis (moved.nodup_iff.mp distinct)
            (fun required field mem => moved.mem_iff.mp (complete required field mem)) (set record)
      | @other key value name named unknown skipped =>
          rw [readMembers_other named none members seen record unknown skipped]
          exact inductionHypothesis distinct complete record

/-- An object of described members is read as the record with their values. -/
theorem read_object [Library] {members : List (StringDraft × Draft)}
    {steps : List (Option (String × (σ → σ)))}
    (described : List.Forall₂ (Member format) members steps) (distinct : (namesOf steps).Nodup)
    (complete : format.Complete (namesOf steps)) (start : σ) :
    format.read start (.object members none) = .ok (applyAll steps start) := by
  rw [← List.append_nil (namesOf steps)] at distinct complete
  exact readMembers_eq described distinct complete start

/-! ## What is read from an object -/

theorem complete_of_readMembers_nil {seen : List String} {record found : σ}
    (read : readMembers format none [] seen record = .ok found) :
    format.Complete seen ∧ record = found := by
  rw [readMembers] at read
  simp only [checkEnding, bind, Except.bind, pure, Except.pure] at read
  split_ifs at read with missing
  refine ⟨fun required field mem => ?_, Except.ok.inj read⟩
  simp only [required, Bool.true_and, Bool.not_eq_true', Bool.not_eq_false] at missing
  simpa using List.all_eq_true.mp missing field mem

/-- The first member that is read sets a field that is new, or it is passed over. -/
theorem member_of_readMembers_cons {member : StringDraft × Draft}
    {rest : List (StringDraft × Draft)} {seen : List String} {record found : σ}
    (read : readMembers format none (member :: rest) seen record = .ok found) :
    (∃ name set, Member format member (some (name, set)) ∧ name ∉ seen ∧
      readMembers format none rest (name :: seen) (set record) = .ok found) ∨
    (Member format member none ∧ readMembers format none rest seen record = .ok found) := by
  obtain ⟨key, value⟩ := member
  rw [readMembers] at read
  cases named : key.text with
  | error fault =>
      rw [named] at read
      cases read
  | ok name =>
      rw [named] at read
      simp only [bind, Except.bind] at read
      cases known : format.fields.find? fun field => field.name == name with
      | none =>
          rw [known] at read
          cases skipped : value.skip with
          | error fault =>
              simp only [skipped] at read
              cases read
          | ok _ =>
              simp only [skipped] at read
              exact Or.inr ⟨.other named known skipped, read⟩
      | some field =>
          simp only [known] at read
          split_ifs at read with repeated
          cases valueRead : field.read value with
          | error fault =>
              simp only [valueRead] at read
              cases read
          | ok set =>
              simp only [valueRead] at read
              exact Or.inl ⟨name, set, .known named known valueRead, by simpa using repeated, read⟩

theorem exists_steps_of_readMembers {members : List (StringDraft × Draft)} {seen : List String}
    {record found : σ} (distinct : seen.Nodup)
    (read : readMembers format none members seen record = .ok found) :
    ∃ steps, List.Forall₂ (Member format) members steps ∧ (namesOf steps ++ seen).Nodup ∧
      format.Complete (namesOf steps ++ seen) ∧ applyAll steps record = found := by
  -- A name that is set goes from `seen` of the rest to the steps: both together keep their names.
  induction members generalizing seen record with
  | nil =>
      obtain ⟨complete, rfl⟩ := complete_of_readMembers_nil read
      exact ⟨[], .nil, distinct, complete, rfl⟩
  | cons member members inductionHypothesis =>
      rcases member_of_readMembers_cons read with ⟨name, set, known, fresh, rest⟩ | ⟨other, rest⟩
      · obtain ⟨steps, described, stepsDistinct, complete, applied⟩ :=
          inductionHypothesis (List.nodup_cons.mpr ⟨fresh, distinct⟩) rest
        have moved : (namesOf (some (name, set) :: steps) ++ seen).Perm
            (namesOf steps ++ name :: seen) := List.perm_middle.symm
        exact ⟨some (name, set) :: steps, .cons known described, moved.nodup_iff.mpr stepsDistinct,
          fun required field mem => moved.mem_iff.mpr (complete required field mem), applied⟩
      · obtain ⟨steps, described, stepsDistinct, complete, applied⟩ :=
          inductionHypothesis distinct rest
        exact ⟨none :: steps, .cons other described, stepsDistinct, complete, applied⟩

/-- A record is read from an object exactly if its members can be read, no field is repeated and no
field is missing that has to be there. -/
theorem read_object_iff [Library] {members : List (StringDraft × Draft)} {start found : σ} :
    format.read start (.object members none) = .ok found ↔
      ∃ steps, List.Forall₂ (Member format) members steps ∧ (namesOf steps).Nodup ∧
        format.Complete (namesOf steps) ∧ applyAll steps start = found := by
  constructor
  · intro read
    obtain ⟨steps, described, distinct, complete, applied⟩ :=
      exists_steps_of_readMembers List.nodup_nil read
    rw [List.append_nil] at distinct complete
    exact ⟨steps, described, distinct, complete, applied⟩
  · rintro ⟨steps, described, distinct, complete, rfl⟩
    exact read_object described distinct complete start

/-- The name that a member sets is its key. -/
theorem text_of_mem_namesOf {members : List (StringDraft × Draft)}
    {steps : List (Option (String × (σ → σ)))}
    (described : List.Forall₂ (Member format) members steps) {name : String}
    (mem : name ∈ namesOf steps) : ∃ member ∈ members, member.1.text = .ok name := by
  induction described with
  | nil => cases mem
  | cons first _ inductionHypothesis =>
      cases first with
      | @known key value _ _ _ named found read =>
          rcases List.mem_cons.mp mem with rfl | later
          · exact ⟨(key, value), .head _, named⟩
          · obtain ⟨member, memberMem, memberNamed⟩ := inductionHypothesis later
            exact ⟨member, .tail _ memberMem, memberNamed⟩
      | other named unknown skipped =>
          obtain ⟨member, memberMem, memberNamed⟩ := inductionHypothesis mem
          exact ⟨member, .tail _ memberMem, memberNamed⟩

section Known

variable {name : String}
  (known : (format.fields.find? fun field => field.name == name).isSome = true)
include known

/-- A member under the name of a field sets this field. -/
theorem Member.exists_field {member : StringDraft × Draft} {step : Option (String × (σ → σ))}
    (described : Member format member step) (named : member.1.text = .ok name) :
    ∃ field set, (format.fields.find? fun field => field.name == name) = some field ∧
      field.read member.2 = .ok set ∧ step = some (name, set) := by
  cases described with
  | @known key value otherName field set otherNamed found read =>
      have same : name = otherName := Except.ok.inj (named.symm.trans otherNamed)
      subst same
      exact ⟨field, set, found, read, rfl⟩
  | @other key value otherName otherNamed unknown skipped =>
      have same : name = otherName := Except.ok.inj (named.symm.trans otherNamed)
      subst same
      rw [unknown] at known
      cases known

/-- Members under the name of one field set it as often as there are such members. -/
theorem sublist_namesOf {members named : List (StringDraft × Draft)}
    {steps : List (Option (String × (σ → σ)))}
    (described : List.Forall₂ (Member format) members steps) (sublist : named.Sublist members)
    (all : ∀ member ∈ named, member.1.text = .ok name) :
    (named.map fun _ => name).Sublist (namesOf steps) := by
  induction sublist generalizing steps with
  | slnil => exact List.nil_sublist _
  | @cons named members member _ inductionHypothesis =>
      cases described with
      | @cons _ step _ steps _ rest =>
          have later := inductionHypothesis rest all
          cases step with
          | none => exact later
          | some step => exact later.cons step.1
  | @cons_cons named members member _ inductionHypothesis =>
      cases described with
      | @cons _ step _ steps first rest =>
          obtain ⟨field, set, _, _, rfl⟩ := first.exists_field known (all member (.head named))
          exact (inductionHypothesis rest fun other mem => all other (.tail member mem)).cons_cons
            name

end Known

/-! ## Arrays -/

/-- The items are values of the fields, one for each and in their order. -/
inductive ItemSteps : List (Field σ) → List Draft → List (σ → σ) → Prop where
  | nil : ItemSteps [] [] []
  | cons {field : Field σ} {item : Draft} {set : σ → σ} {fields : List (Field σ)}
      {items : List Draft} {sets : List (σ → σ)} (read : field.read item = .ok set)
      (rest : ItemSteps fields items sets) :
      ItemSteps (field :: fields) (item :: items) (set :: sets)

theorem readItems_iff {fields : List (Field σ)} {items : List Draft} {record found : σ} :
    readItems true none fields items record = .ok found ↔
      ∃ sets, ItemSteps fields items sets ∧
        sets.foldl (fun record set => set record) record = found := by
  constructor
  · intro read
    induction fields generalizing items record with
    | nil =>
        cases items with
        | nil => exact ⟨[], .nil, Except.ok.inj read⟩
        | cons item items => cases read
    | cons field fields inductionHypothesis =>
        cases items with
        | nil => cases read
        | cons item items =>
            rw [readItems] at read
            cases itemRead : field.read item with
            | error fault =>
                rw [itemRead] at read
                cases read
            | ok set =>
                rw [itemRead] at read
                obtain ⟨sets, steps, applied⟩ := inductionHypothesis read
                exact ⟨set :: sets, .cons itemRead steps, applied⟩
  · rintro ⟨sets, steps, rfl⟩
    induction steps generalizing record with
    | nil => rfl
    | cons read _ inductionHypothesis =>
        rw [readItems, read]
        exact inductionHypothesis

/-- A record that has to be complete is read from an array exactly if there is one item for each
field, in the order of the fields. -/
theorem read_array_iff [Library] {items : List Draft} {start found : σ}
    (required : format.required = true) :
    format.read start (.array items none) = .ok found ↔
      ∃ sets, ItemSteps format.fields items sets ∧
        sets.foldl (fun record set => set record) start = found := by
  rw [RecordFormat.read, required]
  exact readItems_iff

theorem ItemSteps.length_eq {fields : List (Field σ)} {items : List Draft} {sets : List (σ → σ)}
    (steps : ItemSteps fields items sets) : items.length = fields.length := by
  induction steps with
  | nil => rfl
  | cons _ _ inductionHypothesis => rw [List.length_cons, List.length_cons, inductionHypothesis]

theorem ItemSteps.exists_field {fields : List (Field σ)} {items : List Draft}
    {sets : List (σ → σ)} (steps : ItemSteps fields items sets) {item : Draft}
    (mem : item ∈ items) : ∃ field ∈ fields, ∃ set, field.read item = .ok set := by
  induction steps with
  | nil => cases mem
  | @cons field first set fields items sets read _ inductionHypothesis =>
      rcases List.mem_cons.mp mem with rfl | mem
      · exact ⟨field, .head fields, set, read⟩
      · obtain ⟨other, otherMem, found⟩ := inductionHypothesis mem
        exact ⟨other, .tail field otherMem, found⟩

end RecordFormat

end CoordinateConformance.Json
