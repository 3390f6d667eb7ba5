import CoordinateConformance.Decimal.Reader
import CoordinateConformance.Proofs.Json.Printing
import CoordinateConformance.Proofs.Json.Scanning

/-!
Contract: prose is read as the number that it was written for.

Every numeral of the grammar of numbers is read as its decimal, so the reader of plain text and the
reader of documents agree on the texts that both take. Prose never writes a power of ten: the text
of a finite number consists of digits, a point and a minus, and denotes the number bit for bit.

Owns: `read?_numberText`, `PlainDecimal`, `plainDecimal_write`.

Does **not** own: that no shorter text denotes the number.
-/

namespace CoordinateConformance

theorem digitsValue_append (left right : List Char) :
    digitsValue (left ++ right) =
      digitsValue left * Nat.pow 10 right.length + digitsValue right := by
  unfold digitsValue
  rw [Nat.ofDigitChars_append, Nat.ofDigitChars_eq_ofDigitChars_zero, Nat.pow_eq, mul_comm]

/-! ## Reading a numeral -/

namespace Json.Grammar

theorem PowerText.ends {exponent : Option Int} {power : List Char}
    (powerText : PowerText exponent power) : EndsDigits power := by
  have noRest : EndsNumber [] := by
    intro c mem
    cases mem
  simpa using powerText.endsDigits noRest

theorem readPower_powerText {exponent : Option Int} {power : List Char}
    (powerText : PowerText exponent power) : readPower power = some (exponent.getD 0) := by
  cases powerText with
  | absent => rfl
  | @present mark below sign digits marked signed run =>
      have split : splitSign (sign ++ digits) = (below, digits) := by
        simpa using splitSign_append signed run []
      have all : digits.all Char.isDigit = true := List.all_eq_true.mpr run.digit
      rw [readPower, if_pos marked, split]
      dsimp only
      rw [run.isEmpty, all]
      rfl

/-- Digits behind a point end before the power of ten. -/
theorem splitFraction_fractionText {places value : Nat} {fraction power : List Char}
    {exponent : Option Int} (fractionText : FractionText places value fraction)
    (powerText : PowerText exponent power) :
    ∃ digits, splitFraction (fraction ++ power) = (digits, power) ∧ digits.length = places ∧
      digitsValue digits = value := by
  cases fractionText with
  | absent =>
      refine ⟨[], ?_, rfl, rfl⟩
      cases powerText with
      | absent => rfl
      | present marked _ _ => rcases marked with rfl | rfl <;> rfl
  | @present digits run =>
      refine ⟨digits, ?_, rfl, rfl⟩
      rw [List.cons_append, splitFraction, run.takeWhile_append powerText.ends,
        run.dropWhile_append powerText.ends]

theorem FractionText.endsDigits {places value : Nat} {fraction power : List Char}
    {exponent : Option Int} (fractionText : FractionText places value fraction)
    (powerText : PowerText exponent power) : EndsDigits (fraction ++ power) := by
  cases fractionText with
  | absent => exact powerText.ends
  | present _ => exact endsDigits_cons (by decide) _

end Json.Grammar

open Json.Grammar

/-- What the grammar calls a number is read as the decimal of its numeral. -/
theorem Decimal.read?_numberText {numeral : Numeral} {text : List Char}
    (spelled : NumberText numeral text) :
    Decimal.read? (String.ofList text) = some numeral.toDecimal := by
  cases spelled with
  | @number whole fraction power places value exponent negative wholeText fractionText powerText =>
      have ends := fractionText.endsDigits powerText
      obtain ⟨digits, split, length, fractionValue⟩ :=
        splitFraction_fractionText fractionText powerText
      have signed : SignText negative (if negative then ['-'] else []) := by
        cases negative
        · exact .absent
        · exact .minus
      unfold Decimal.read?
      rw [String.toList_ofList, splitSign_append signed wholeText.toDigitRun]
      dsimp only
      rw [wholeText.takeWhile_append ends, wholeText.dropWhile_append ends, split,
        wholeText.isEmpty, readPower_powerText powerText, digitsValue_append, fractionValue, length]
      rfl

/-! ## The characters of prose -/

/-- Digits, a point and a minus. -/
def IsPlain (c : Char) : Prop :=
  c.isDigit = true ∨ c = '.' ∨ c = '-'

theorem isPlain_of_numberText {numeral : Numeral} {text : List Char}
    (spelled : NumberText numeral text) (noPower : numeral.exponent = none) :
    ∀ c ∈ text, IsPlain c := by
  cases spelled with
  | @number whole fraction power places value exponent negative wholeText fractionText powerText =>
      cases noPower
      cases powerText
      intro c mem
      simp only [List.append_nil, List.mem_append] at mem
      rcases mem with sign | whole | fraction
      · cases negative with
        | false => cases sign
        | true => exact Or.inr (Or.inr (List.mem_singleton.mp sign))
      · exact Or.inl (wholeText.digit c whole)
      · cases fractionText with
        | absent => cases fraction
        | present run =>
            rcases List.mem_cons.mp fraction with point | digit
            · exact Or.inr (Or.inl point)
            · exact Or.inl (run.digit c digit)

/-- The names of NaN and the infinities hold letters. -/
theorem readFloat?_of_isPlain {text : List Char} (plain : ∀ c ∈ text, IsPlain c) :
    readFloat? (String.ofList text) = (Decimal.read? (String.ofList text)).map Decimal.toFloat := by
  have noName : ∀ {name : String} (letter : Char), letter ∈ name.toList → ¬IsPlain letter →
      String.ofList text ≠ name := by
    rintro name letter mem notPlain rfl
    rw [String.toList_ofList] at mem
    exact notPlain (plain letter mem)
  unfold readFloat?
  rw [if_neg (noName 'N' (by decide) (by simp [IsPlain])),
    if_neg (noName 'n' (by decide) (by simp [IsPlain])),
    if_neg (noName 'n' (by decide) (by simp [IsPlain]))]

/-! ## Prose -/

/-- The text is a numeral without a power of ten, and it is read as the number. -/
structure PlainDecimal (value : Float) (text : List Char) : Prop where
  positional : ∃ numeral : Numeral, NumberText numeral text ∧ numeral.exponent = none
  read : readFloat? (String.ofList text) = some value

theorem PlainDecimal.isPlain {value : Float} {text : List Char}
    (plain : PlainDecimal value text) : ∀ c ∈ text, IsPlain c := by
  obtain ⟨numeral, spelled, noPower⟩ := plain.positional
  exact isPlain_of_numberText spelled noPower

theorem exponent_positional (d : Decimal) : (Numeral.positional d).exponent = none := by
  unfold Numeral.positional
  split <;> rfl

namespace Layout

/-- Prose has no range of exponents to leave, and no point to add. -/
theorem exponent_prose (x : Float) : (prose.numeral x).exponent = none :=
  exponent_positional _

/-- The text of a finite number has no power of ten, however large or small the number is. -/
theorem plainDecimal_write {x : Float} (finite : x.isFinite = true) :
    PlainDecimal x (prose.write x).toList := by
  have spelled := numberText_text (prose.wellFormed_numeral x) false
  have noPower := exponent_prose x
  have written : (prose.write x).toList = (prose.numeral x).text false := by
    unfold write
    rw [if_pos finite, Numeral.render, String.toList_ofList]
    rfl
  rw [written]
  refine ⟨⟨_, spelled, noPower⟩, ?_⟩
  rw [readFloat?_of_isPlain (isPlain_of_numberText spelled noPower),
    Decimal.read?_numberText spelled, Option.map_some, prose.toFloat_numeral finite]

theorem readFloat?_write {x : Float} (finite : x.isFinite = true) :
    readFloat? (prose.write x) = some x := by
  simpa using (plainDecimal_write finite).read

end Layout

end CoordinateConformance
