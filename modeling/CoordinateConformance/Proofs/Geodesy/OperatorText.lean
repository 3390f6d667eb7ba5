import CoordinateConformance.Geodesy.ReferenceSystem
import CoordinateConformance.Geodesy.StandardOperators
import CoordinateConformance.Proofs.Decimal.PlainText
import CoordinateConformance.Proofs.Json.Records

/-!
Contract: the line of a Lambert projection holds every parameter, bit for bit.

A line is read back word by word. The words are an operator and tokens `key=numbers`; numbers are
prose between commas, so no number holds a blank, an equals sign or a comma, and each is read as the
number that was written. Keys that differ cannot be confused, and no default is used.

Owns: `parse?_render`, `SpellsLine`, `spellsLine_ofNumbers`, `lambertLines_loseNoParameter`.

Does **not** own: which parameters an operator admits, and what it does with them.
-/

namespace CoordinateConformance

namespace OperatorDefinition

/-! ## Words -/

/-- A text that no blank takes apart. -/
structure IsWord (text : List Char) : Prop where
  nonempty : text ≠ []
  visible : ∀ c ∈ text, c.isWhitespace = false

theorem wordsFrom_append {word : List Char} (visible : ∀ c ∈ word, c.isWhitespace = false)
    (seen rest : List Char) : wordsFrom seen (word ++ rest) = wordsFrom (seen ++ word) rest := by
  induction word generalizing seen with
  | nil => rw [List.nil_append, List.append_nil]
  | cons c word inductionHypothesis =>
      have shown : ¬c.isWhitespace = true := by simp [visible c (.head word)]
      rw [List.cons_append, wordsFrom, if_neg shown,
        inductionHypothesis fun d mem => visible d (.tail c mem), List.append_assoc]
      rfl

theorem wordsFrom_word {word : List Char} (isWord : IsWord word) (rest : List Char) :
    wordsFrom [] (word ++ ' ' :: rest) = word :: wordsFrom [] rest := by
  have nonempty : ¬word.isEmpty = true := by simp [isWord.nonempty]
  rw [wordsFrom_append isWord.visible, List.nil_append, wordsFrom, if_pos (by decide),
    if_neg nonempty]

theorem wordsFrom_lastWord {word : List Char} (isWord : IsWord word) :
    wordsFrom [] word = [word] := by
  have nonempty : ¬word.isEmpty = true := by simp [isWord.nonempty]
  have read := wordsFrom_append isWord.visible [] []
  rwa [List.append_nil, List.nil_append, wordsFrom, if_neg nonempty] at read

theorem wordsFrom_intercalate {words : List (List Char)} (all : ∀ word ∈ words, IsWord word) :
    wordsFrom [] ([' '].intercalate words) = words := by
  induction words with
  | nil => rfl
  | cons word rest inductionHypothesis =>
      have isWord := all word (.head rest)
      cases rest with
      | nil => rw [List.intercalate_singleton, wordsFrom_lastWord isWord]
      | cons next rest =>
          rw [List.intercalate_cons_cons, List.append_assoc, List.singleton_append,
            wordsFrom_word isWord, inductionHypothesis fun other mem => all other (.tail word mem)]

/-! ## Lines -/

/-- A key ends at the first equals sign. -/
def IsKey (key : String) : Prop :=
  ∀ c ∈ key.toList, c.isWhitespace = false ∧ c ≠ '='

def token (parameter : String × String) : List Char :=
  parameter.1.toList ++ '=' :: parameter.2.toList

theorem splitParameter_token {key : String} (isKey : IsKey key) (text : String) :
    splitParameter (token (key, text)) = (key, text) := by
  have notEquals : ∀ c ∈ key.toList, (c != '=') = true := fun c mem => by simp [(isKey c mem).2]
  unfold splitParameter token
  rw [List.takeWhile_append_of_pos notEquals, List.dropWhile_append_of_pos notEquals]
  simp

theorem isWord_token {key text : String} (isKey : IsKey key)
    (visible : ∀ c ∈ text.toList, c.isWhitespace = false) : IsWord (token (key, text)) := by
  refine ⟨by simp [token], ?_⟩
  intro c mem
  rcases List.mem_append.mp mem with inKey | behind
  · exact (isKey c inKey).1
  · rcases List.mem_cons.mp behind with rfl | inText
    · decide
    · exact visible c inText

theorem toList_render (definition : OperatorDefinition) :
    definition.render.toList =
      [' '].intercalate (definition.operator.toList :: definition.parameters.map token) := by
  have separator : (" " : String).toList = [' '] := rfl
  rw [render, String.toList_intercalate, separator, List.map_cons, List.map_map]
  congr 2
  refine List.map_congr_left fun parameter _ => ?_
  simp [token, Function.comp_apply]

/-- The words of the line are those that were written. -/
structure Writable (definition : OperatorDefinition) : Prop where
  operator : IsWord definition.operator.toList
  key : ∀ parameter ∈ definition.parameters, IsKey parameter.1
  text : ∀ parameter ∈ definition.parameters, ∀ c ∈ parameter.2.toList, c.isWhitespace = false

section Line

variable {definition : OperatorDefinition} (writable : Writable definition)
include writable

theorem Writable.isWord_token {word : List Char} (mem : word ∈ definition.parameters.map token) :
    IsWord word := by
  obtain ⟨parameter, parameterMem, rfl⟩ := List.mem_map.mp mem
  exact OperatorDefinition.isWord_token (writable.key parameter parameterMem)
    (writable.text parameter parameterMem)

theorem Writable.isWord {word : List Char}
    (mem : word ∈ definition.operator.toList :: definition.parameters.map token) :
    IsWord word := by
  rcases List.mem_cons.mp mem with rfl | isToken
  · exact writable.operator
  · exact writable.isWord_token isToken

/-- Reading undoes writing. -/
theorem parse?_render : parse? definition.render = some definition := by
  have parameters : (definition.parameters.map token).map splitParameter =
      definition.parameters := by
    rw [List.map_map]
    conv => rhs; rw [← List.map_id definition.parameters]
    exact List.map_congr_left fun parameter mem =>
      splitParameter_token (writable.key parameter mem) parameter.2
  unfold parse?
  rw [toList_render, wordsFrom_intercalate fun _ mem => writable.isWord mem]
  dsimp only
  rw [parameters, String.ofList_toList]

theorem splitOn_render : definition.render.toList.splitOn ' ' =
    definition.operator.toList :: definition.parameters.map token := by
  rw [toList_render]
  refine List.splitOn_intercalate ' ' ?_ (List.cons_ne_nil _ _)
  intro word mem blank
  exact absurd ((writable.isWord mem).visible ' ' blank) (by decide)

end Line

/-! ## Looking up a parameter -/

section LookUp

variable {definition : OperatorDefinition} {key text : String}

/-- With distinct keys it does not matter that the last of several parameters counts. -/
theorem text?_of_mem (distinct : (definition.parameters.map Prod.fst).Nodup)
    (mem : (key, text) ∈ definition.parameters) : definition.text? key = some text := by
  unfold text?
  rw [Json.find?_eq_some_of_unique (List.mem_reverse.mpr mem) (beq_self_eq_true key)]
  · rfl
  · intro parameter parameterMem sameKey
    exact List.inj_on_of_nodup_map distinct (List.mem_reverse.mp parameterMem) mem
      (beq_iff_eq.mp sameKey)

end LookUp

/-! ## Numbers as parameters -/

/-- Numbers in prose, between commas. -/
def numbersText (numbers : List Float) : String :=
  String.intercalate "," (numbers.map Layout.prose.write)

/-- The definition with these numbers as parameters. -/
def ofNumbers (operator : String) (parameters : List (String × List Float)) : OperatorDefinition :=
  ⟨operator, parameters.map fun parameter => (parameter.1, numbersText parameter.2)⟩

/-- The text is a list of plain decimals between commas, one for each of the numbers. -/
def SpellsNumbers (numbers : List Float) (text : List Char) : Prop :=
  List.Forall₂ PlainDecimal numbers (text.splitOn ',')

/-- The token is a key and numbers, with one equals sign between them. -/
def SpellsParameter (parameter : String × List Float) (token : List Char) : Prop :=
  ∃ text, token.splitOn '=' = [parameter.1.toList, text] ∧ SpellsNumbers parameter.2 text

/-- Between its spaces stand the operator and one token for each of the parameters, in their order
and with a key of its own. -/
structure SpellsLine (operator : String) (parameters : List (String × List Float))
    (line : String) : Prop where
  tokens : ∃ tokens, line.toList.splitOn ' ' = operator.toList :: tokens ∧
    List.Forall₂ SpellsParameter parameters tokens
  distinct : (parameters.map Prod.fst).Nodup

/-- Parameters that can be told apart, each with at least one number, all of them finite. -/
structure Listed (operator : String) (parameters : List (String × List Float)) : Prop where
  operator : IsWord operator.toList
  key : ∀ key ∈ parameters.map Prod.fst, IsKey key
  distinct : (parameters.map Prod.fst).Nodup
  nonempty : ∀ numbers ∈ parameters.map Prod.snd, numbers ≠ []
  finite : ∀ numbers ∈ parameters.map Prod.snd, ∀ value ∈ numbers, value.isFinite = true

section Numbers

variable {numbers : List Float} (finite : ∀ value ∈ numbers, value.isFinite = true)

theorem not_isPlain : ∀ c ∈ [' ', '\t', '\r', '\n', ',', '='], ¬IsPlain c := by
  simp [IsPlain]

theorem toList_numbersText (numbers : List Float) : (numbersText numbers).toList =
    [','].intercalate (numbers.map fun value => (Layout.prose.write value).toList) := by
  have separator : ("," : String).toList = [','] := rfl
  rw [numbersText, String.toList_intercalate, separator, List.map_map]
  rfl

@[simp]
theorem numbersText_single (value : Float) : numbersText [value] = Layout.prose.write value := by
  rw [← String.toList_inj, toList_numbersText, List.map_singleton, List.intercalate_singleton]

@[simp]
theorem numbersText_pair (first second : Float) : numbersText [first, second] =
    Layout.prose.write first ++ "," ++ Layout.prose.write second := by
  rw [← String.toList_inj, toList_numbersText, List.map_cons, List.map_singleton,
    List.intercalate_cons_cons, List.intercalate_singleton, String.toList_append,
    String.toList_append]
  rfl

include finite

theorem isPlain_of_mem_numbersText {c : Char} (mem : c ∈ (numbersText numbers).toList) :
    IsPlain c ∨ c = ',' := by
  rw [toList_numbersText] at mem
  induction numbers with
  | nil => cases mem
  | cons value rest inductionHypothesis =>
      have plain := (Layout.plainDecimal_write (finite value (.head rest))).isPlain
      have restFinite := fun other mem => finite other (.tail value mem)
      cases rest with
      | nil =>
          rw [List.map_singleton, List.intercalate_singleton] at mem
          exact Or.inl (plain c mem)
      | cons next rest =>
          rw [List.map_cons, List.map_cons, List.intercalate_cons_cons, List.append_assoc] at mem
          rcases List.mem_append.mp mem with first | behind
          · exact Or.inl (plain c first)
          · rcases List.mem_append.mp behind with comma | later
            · exact Or.inr (List.mem_singleton.mp comma)
            · exact inductionHypothesis restFinite later

theorem visible_numbersText {c : Char} (mem : c ∈ (numbersText numbers).toList) :
    c.isWhitespace = false ∧ c ≠ '=' := by
  rcases isPlain_of_mem_numbersText finite mem with plain | rfl
  · have other : ∀ d ∈ [' ', '\t', '\r', '\n', ',', '='], c ≠ d := by
      rintro d among rfl
      exact not_isPlain c among plain
    simp only [List.mem_cons, List.not_mem_nil, or_false, forall_eq_or_imp, forall_eq] at other
    simp [Char.isWhitespace, other]
  · decide

theorem spellsNumbers_numbersText (nonempty : numbers ≠ []) :
    SpellsNumbers numbers (numbersText numbers).toList := by
  have split : (numbersText numbers).toList.splitOn ',' =
      numbers.map fun value => (Layout.prose.write value).toList := by
    rw [toList_numbersText]
    refine List.splitOn_intercalate ',' ?_ (by simpa using nonempty)
    intro text mem comma
    obtain ⟨value, valueMem, rfl⟩ := List.mem_map.mp mem
    exact not_isPlain ',' (by decide)
      ((Layout.plainDecimal_write (finite value valueMem)).isPlain ',' comma)
  unfold SpellsNumbers
  rw [split, List.forall₂_map_right_iff, List.forall₂_same]
  exact fun value mem => Layout.plainDecimal_write (finite value mem)

theorem spellsParameter_token (nonempty : numbers ≠ []) {key : String} (isKey : IsKey key) :
    SpellsParameter (key, numbers) (token (key, numbersText numbers)) := by
  refine ⟨(numbersText numbers).toList, ?_, spellsNumbers_numbersText finite nonempty⟩
  have keyEnds : '=' ∉ key.toList := fun mem => (isKey '=' mem).2 rfl
  have textEnds : '=' ∉ (numbersText numbers).toList := fun mem =>
    (visible_numbersText finite mem).2 rfl
  rw [token, List.splitOn_append_cons_self_of_not_mem keyEnds, List.splitOn_eq_singleton textEnds]

end Numbers

section Listed

variable {operator : String} {parameters : List (String × List Float)}
  (listed : Listed operator parameters)
include listed

theorem Listed.writable : Writable (ofNumbers operator parameters) := by
  refine ⟨listed.operator, ?_, ?_⟩
  · intro parameter mem
    obtain ⟨original, originalMem, rfl⟩ := List.mem_map.mp mem
    exact listed.key original.1 (List.mem_map_of_mem originalMem)
  · intro parameter mem c inText
    obtain ⟨original, originalMem, rfl⟩ := List.mem_map.mp mem
    exact (visible_numbersText (listed.finite original.2 (List.mem_map_of_mem originalMem))
      inText).1

theorem Listed.parse?_render : parse? (ofNumbers operator parameters).render =
    some (ofNumbers operator parameters) :=
  OperatorDefinition.parse?_render listed.writable

theorem spellsLine_ofNumbers :
    SpellsLine operator parameters (ofNumbers operator parameters).render := by
  refine ⟨⟨_, splitOn_render listed.writable, ?_⟩, listed.distinct⟩
  rw [ofNumbers, List.map_map, List.forall₂_map_right_iff, List.forall₂_same]
  intro parameter mem
  exact spellsParameter_token (listed.finite parameter.2 (List.mem_map_of_mem mem))
    (listed.nonempty parameter.2 (List.mem_map_of_mem mem))
    (listed.key parameter.1 (List.mem_map_of_mem mem))

theorem Listed.text? {key : String} {numbers : List Float} (mem : (key, numbers) ∈ parameters) :
    (ofNumbers operator parameters).text? key = some (numbersText numbers) := by
  refine text?_of_mem ?_ (List.mem_map_of_mem mem)
  rw [ofNumbers, List.map_map]
  exact listed.distinct

theorem Listed.number? {key : String} {value : Float} (mem : (key, [value]) ∈ parameters)
    (default : Float) : (ofNumbers operator parameters).number? key default = some value := by
  have finite := listed.finite [value] (List.mem_map_of_mem mem) value (.head [])
  unfold OperatorDefinition.number?
  rw [listed.text? mem, numbersText_single]
  exact Layout.readFloat?_write finite

/-- The semi-major axis ends at the comma. -/
theorem Listed.ellipsoid? {ellipsoid : Ellipsoid Float}
    (mem : ("ellps", [ellipsoid.semimajor, ellipsoid.inverseFlattening]) ∈ parameters) :
    (ofNumbers operator parameters).ellipsoid? = some ellipsoid := by
  have finite := listed.finite _ (List.mem_map_of_mem mem)
  have axis := finite ellipsoid.semimajor (by simp)
  have flattening := finite ellipsoid.inverseFlattening (by simp)
  have notComma : ∀ c ∈ (Layout.prose.write ellipsoid.semimajor).toList, (c != ',') = true := by
    intro c inAxis
    rw [bne_iff_ne]
    rintro rfl
    exact not_isPlain ',' (by decide) ((Layout.plainDecimal_write axis).isPlain ',' inAxis)
  unfold OperatorDefinition.ellipsoid?
  rw [listed.text? mem, numbersText_pair]
  simp [List.takeWhile_append_of_pos notComma, List.dropWhile_append_of_pos notComma,
    Layout.readFloat?_write axis, Layout.readFloat?_write flattening]

end Listed

end OperatorDefinition

/-! ## Lambert projections -/

open OperatorDefinition

namespace LambertAzimuthal

/-- The numbers of each parameter, in the order of the line. -/
def parameters (projection : LambertAzimuthal) : List (String × List Float) :=
  [("lat_0", [projection.latitudeOfOrigin]), ("lon_0", [projection.centralMeridian]),
    ("x_0", [projection.falseEasting]), ("y_0", [projection.falseNorthing]),
    ("ellps", [projection.ellipsoid.semimajor, projection.ellipsoid.inverseFlattening])]

def IsFinite (projection : LambertAzimuthal) : Prop :=
  ∀ numbers ∈ projection.parameters.map Prod.snd, ∀ value ∈ numbers, value.isFinite = true

instance (projection : LambertAzimuthal) : Decidable projection.IsFinite :=
  inferInstanceAs (Decidable (∀ numbers ∈ projection.parameters.map Prod.snd, _))

theorem definition_eq (projection : LambertAzimuthal) :
    projection.definition = ofNumbers "laea" projection.parameters := by
  simp [definition, ofNumbers, parameters]

variable {projection : LambertAzimuthal} (finite : projection.IsFinite)
include finite

theorem listed : Listed "laea" projection.parameters where
  operator := ⟨by simp, by simp [Char.isWhitespace]⟩
  key := by simp [parameters, IsKey, Char.isWhitespace]
  distinct := by simp [parameters]
  nonempty := by simp [parameters]
  finite := finite

/-- No parameter is read as its default. -/
theorem ofDefinition?_ofNumbers :
    ofDefinition? (ofNumbers "laea" projection.parameters) = some projection := by
  have listed := listed finite
  have ellipsoid : (ofNumbers "laea" projection.parameters).ellipsoid? =
      some projection.ellipsoid := listed.ellipsoid? (by simp [parameters])
  have number : ∀ {key : String} {value : Float}, (key, [value]) ∈ projection.parameters →
      ∀ default, (ofNumbers "laea" projection.parameters).number? key default = some value :=
    fun mem => listed.number? mem
  unfold ofDefinition?
  rw [ellipsoid,
    number (show ("lat_0", [projection.latitudeOfOrigin]) ∈ _ by simp [parameters]),
    number (show ("lon_0", [projection.centralMeridian]) ∈ _ by simp [parameters]),
    number (show ("x_0", [projection.falseEasting]) ∈ _ by simp [parameters]),
    number (show ("y_0", [projection.falseNorthing]) ∈ _ by simp [parameters])]
  rfl

end LambertAzimuthal

namespace LambertConic

/-- The numbers of each parameter, in the order of the line. -/
def parameters (projection : LambertConic) : List (String × List Float) :=
  [("lat_1", [projection.standardParallel1]), ("lat_2", [projection.standardParallel2]),
    ("lat_0", [projection.latitudeOfOrigin]), ("lon_0", [projection.centralMeridian]),
    ("k_0", [projection.scaleFactor]), ("x_0", [projection.falseEasting]),
    ("y_0", [projection.falseNorthing]),
    ("ellps", [projection.ellipsoid.semimajor, projection.ellipsoid.inverseFlattening])]

def IsFinite (projection : LambertConic) : Prop :=
  ∀ numbers ∈ projection.parameters.map Prod.snd, ∀ value ∈ numbers, value.isFinite = true

instance (projection : LambertConic) : Decidable projection.IsFinite :=
  inferInstanceAs (Decidable (∀ numbers ∈ projection.parameters.map Prod.snd, _))

theorem definition_eq (projection : LambertConic) :
    projection.definition = ofNumbers "lcc" projection.parameters := by
  simp [definition, ofNumbers, parameters]

variable {projection : LambertConic} (finite : projection.IsFinite)
include finite

theorem listed : Listed "lcc" projection.parameters where
  operator := ⟨by simp, by simp [Char.isWhitespace]⟩
  key := by simp [parameters, IsKey, Char.isWhitespace]
  distinct := by simp [parameters]
  nonempty := by simp [parameters]
  finite := finite

/-- No parameter is read as its default. -/
theorem ofDefinition?_ofNumbers :
    ofDefinition? (ofNumbers "lcc" projection.parameters) = some projection := by
  have listed := listed finite
  have ellipsoid : (ofNumbers "lcc" projection.parameters).ellipsoid? =
      some projection.ellipsoid := listed.ellipsoid? (by simp [parameters])
  have number : ∀ {key : String} {value : Float}, (key, [value]) ∈ projection.parameters →
      ∀ default, (ofNumbers "lcc" projection.parameters).number? key default = some value :=
    fun mem => listed.number? mem
  -- The defaults are made of numbers that are read before, so they are not known to `number` yet.
  simp [ofDefinition?, ellipsoid,
    number (show ("lat_1", [projection.standardParallel1]) ∈ _ by simp [parameters]),
    number (show ("lat_2", [projection.standardParallel2]) ∈ _ by simp [parameters]),
    number (show ("lat_0", [projection.latitudeOfOrigin]) ∈ _ by simp [parameters]),
    number (show ("lon_0", [projection.centralMeridian]) ∈ _ by simp [parameters]),
    number (show ("k_0", [projection.scaleFactor]) ∈ _ by simp [parameters]),
    number (show ("x_0", [projection.falseEasting]) ∈ _ by simp [parameters]),
    number (show ("y_0", [projection.falseNorthing]) ∈ _ by simp [parameters])]

end LambertConic

/-- The conversions that are carried out by an operator. -/
def Conversion.isLambert : Conversion → Bool
  | .lambertAzimuthal .. | .lambertConic .. => true
  | _ => false

/-- A Lambert projection with finite parameters has a line that spells each of them and is read as
the same projection. Other conversions have no line. -/
theorem lambertLines_loseNoParameter (code : Int) :
    (∀ projection : LambertAzimuthal, projection.IsFinite →
      ∃ definition,
        ReferenceSystem.definition? ⟨code, projection.ellipsoid,
          .lambertAzimuthal projection.latitudeOfOrigin projection.centralMeridian
            projection.falseEasting projection.falseNorthing⟩ = some definition ∧
        SpellsLine "laea" projection.parameters definition.render ∧
        (parse? definition.render).bind LambertAzimuthal.ofDefinition? = some projection) ∧
    (∀ projection : LambertConic, projection.IsFinite →
      ∃ definition,
        ReferenceSystem.definition? ⟨code, projection.ellipsoid,
          .lambertConic projection.standardParallel1 projection.standardParallel2
            projection.latitudeOfOrigin projection.centralMeridian projection.scaleFactor
            projection.falseEasting projection.falseNorthing⟩ = some definition ∧
        SpellsLine "lcc" projection.parameters definition.render ∧
        (parse? definition.render).bind LambertConic.ofDefinition? = some projection) ∧
    ∀ (ellipsoid : Ellipsoid Float) (conversion : Conversion), conversion.isLambert = false →
      ReferenceSystem.definition? ⟨code, ellipsoid, conversion⟩ = none := by
  refine ⟨?azimuthal, ?conic, ?others⟩
  case azimuthal =>
    intro projection finite
    have listed := LambertAzimuthal.listed finite
    refine ⟨projection.definition, rfl, ?_, ?_⟩
    · rw [projection.definition_eq]
      exact spellsLine_ofNumbers listed
    · rw [projection.definition_eq, listed.parse?_render, Option.bind_some,
        LambertAzimuthal.ofDefinition?_ofNumbers finite]
  case conic =>
    intro projection finite
    have listed := LambertConic.listed finite
    refine ⟨projection.definition, rfl, ?_, ?_⟩
    · rw [projection.definition_eq]
      exact spellsLine_ofNumbers listed
    · rw [projection.definition_eq, listed.parse?_render, Option.bind_some,
        LambertConic.ofDefinition?_ofNumbers finite]
  case others =>
    intro ellipsoid conversion other
    -- The two Lambert conversions contradict the assumption.
    cases conversion <;> first | rfl | cases other

/-- Signed zeros, and the least and the greatest of the numbers, are kept. -/
theorem lambertLines_loseNoParameter_extremes :
    (∃ definition,
      ReferenceSystem.definition? ⟨3035, ⟨6378137.0, 1.7976931348623157e308⟩,
        .lambertAzimuthal (-0.0) 5e-324 (-1.7976931348623157e308) 0.1⟩ = some definition ∧
      SpellsLine "laea"
        [("lat_0", [-0.0]), ("lon_0", [5e-324]), ("x_0", [-1.7976931348623157e308]),
          ("y_0", [0.1]), ("ellps", [6378137.0, 1.7976931348623157e308])] definition.render ∧
      (parse? definition.render).bind LambertAzimuthal.ofDefinition? =
        some ⟨⟨6378137.0, 1.7976931348623157e308⟩, -0.0, 5e-324, -1.7976931348623157e308, 0.1⟩) ∧
    (∃ definition,
      ReferenceSystem.definition? ⟨3035, .clarke1866,
        .lambertConic (28.0 + 23.0 / 60.0) 5e-324 (-0.0) (-99.0) 1.0 (2000000.0 * usSurveyFoot)
          1.7976931348623157e308⟩ = some definition ∧
      SpellsLine "lcc"
        [("lat_1", [28.0 + 23.0 / 60.0]), ("lat_2", [5e-324]), ("lat_0", [-0.0]),
          ("lon_0", [-99.0]), ("k_0", [1.0]), ("x_0", [2000000.0 * usSurveyFoot]),
          ("y_0", [1.7976931348623157e308]), ("ellps", [6378206.4, 294.978698213898])]
        definition.render ∧
      (parse? definition.render).bind LambertConic.ofDefinition? =
        some ⟨.clarke1866, 28.0 + 23.0 / 60.0, 5e-324, -0.0, -99.0, 1.0,
          2000000.0 * usSurveyFoot, 1.7976931348623157e308⟩) ∧
    ReferenceSystem.definition? .pseudoMercator = none := by
  obtain ⟨azimuthal, conic, others⟩ := lambertLines_loseNoParameter 3035
  refine ⟨azimuthal ⟨⟨6378137.0, 1.7976931348623157e308⟩, -0.0, 5e-324, -1.7976931348623157e308,
    0.1⟩ (by decide +kernel), conic ⟨.clarke1866, 28.0 + 23.0 / 60.0, 5e-324, -0.0, -99.0, 1.0,
    2000000.0 * usSurveyFoot, 1.7976931348623157e308⟩ (by decide +kernel), ?_⟩
  exact (lambertLines_loseNoParameter 3857).2.2 .wgs84 .webMercator rfl

end CoordinateConformance
