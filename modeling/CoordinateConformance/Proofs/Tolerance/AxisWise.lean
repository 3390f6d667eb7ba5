import CoordinateConformance.Proofs.Tolerance.Undefined

/-!
Contract: what a modifier does to the tolerance of a single axis.

Modifiers change lists of tolerances at fixed positions, and one of them looks at the coordinate
at another fixed position. All the same each axis is adjusted on its own: its new tolerance is a
function of the old one, which `onAxis` gives without any list. A modifier of the catalogue reads no
more of the coordinate than its first two values, so it cannot carry anything from one axis
to another.

Positions are only in range because `adjust` compares the lengths before it applies a modifier.
`applyInRange` has no result where a position is out of range; behind that comparison it always has
one.

Owns: `CatalogueModifier.onAxis`, `getElem?_apply`, `CatalogueModifier.adjustInRange`,
`adjust_axisWise`.

Does **not** own: the order of tolerances, and when one is not a number.
-/

namespace CoordinateConformance

/-! ## One axis -/

/-- What a conversion to degrees does to the tolerance of an axis, one of so many. -/
def MetresToDegrees.onAxis (functions : ElementaryFunctions Float) (conversion : MetresToDegrees)
    (count : Nat) (coordinate : List Float) (calculation : Calculation) (axis : Nat)
    (tolerance : Float) : Float :=
  if conversion.inverseOnly ∧ calculation ≠ .inverse then tolerance
  else
    match coordinate[conversion.latitudeAxis]? with
    | none => tolerance
    | some latitude =>
        if count ≤ conversion.longitudeAxis then tolerance
        else
          let degrees :=
            if conversion.latitudeAxis = axis then tolerance / metresPerDegree else tolerance
          if conversion.longitudeAxis = axis then
            degrees / metresPerLongitudeDegree functions latitude
          else degrees

/-- What a scale does to the tolerance of an axis. -/
def Scale.onAxis (scale : Scale) (calculation : Calculation) (axis : Nat) (tolerance : Float) :
    Float :=
  if scale.appliesTo.contains calculation then
    match scale.factors[axis]? with
    | none => tolerance
    | some factor => tolerance * factor
  else tolerance

/-- What a modifier does to the tolerance of an axis, one of so many. -/
def CatalogueModifier.onAxis (functions : ElementaryFunctions Float) (count : Nat)
    (coordinate : List Float) (calculation : Calculation) (axis : Nat) :
    CatalogueModifier → Float → Float
  | .identity, tolerance => tolerance
  | .metresToDegrees conversion, tolerance =>
      conversion.onAxis functions count coordinate calculation axis tolerance
  | .scale factors, tolerance => factors.onAxis calculation axis tolerance
  | .maximum first second, tolerance =>
      greaterNumber (first.onAxis functions count coordinate calculation axis tolerance)
        (second.onAxis functions count coordinate calculation axis tolerance)
  | .concatenate first second, tolerance =>
      second.onAxis functions count coordinate calculation axis
        (first.onAxis functions count coordinate calculation axis tolerance)

section OneAxis

variable {functions : ElementaryFunctions Float} {coordinate : List Float}
  {calculation : Calculation}

theorem MetresToDegrees.getElem?_apply (conversion : MetresToDegrees) (tolerances : List Float)
    (axis : Nat) :
    (conversion.apply functions tolerances coordinate calculation)[axis]? =
      tolerances[axis]?.map
        (conversion.onAxis functions tolerances.length coordinate calculation axis) := by
  have unchanged : tolerances[axis]? = tolerances[axis]?.map fun tolerance => tolerance := by
    simp
  unfold MetresToDegrees.apply MetresToDegrees.onAxis
  by_cases unaffected : conversion.inverseOnly = true ∧ calculation ≠ .inverse
  · simp only [if_pos unaffected]
    exact unchanged
  · simp only [if_neg unaffected]
    cases coordinate[conversion.latitudeAxis]? with
    | none => exact unchanged
    | some latitude =>
        by_cases missing : tolerances.length ≤ conversion.longitudeAxis
        · simp only [if_pos missing]
          exact unchanged
        · simp only [if_neg missing, List.getElem?_modify]
          cases tolerances[axis]? <;> rfl

theorem Scale.getElem?_apply (factors : Scale) (tolerances : List Float) (axis : Nat) :
    (factors.apply tolerances calculation)[axis]? =
      tolerances[axis]?.map (factors.onAxis calculation axis) := by
  unfold Scale.apply Scale.onAxis
  split_ifs with selected
  · rw [getElem?_multiply]
    cases tolerances[axis]? <;> cases factors.factors[axis]? <;> rfl
  · simp

/-- A modifier adjusts every axis on its own. -/
theorem CatalogueModifier.getElem?_apply (catalogue : CatalogueModifier) (tolerances : List Float)
    (axis : Nat) :
    ((catalogue.toModifier functions).apply tolerances coordinate calculation)[axis]? =
      tolerances[axis]?.map
        (catalogue.onAxis functions tolerances.length coordinate calculation axis) := by
  -- the second of two modifiers meets adjusted tolerances, but as many
  induction catalogue generalizing tolerances with
  | identity => simp [CatalogueModifier.toModifier, CatalogueModifier.onAxis,
      ToleranceModifier.identity]
  | metresToDegrees conversion => exact conversion.getElem?_apply tolerances axis
  | scale factors => exact factors.getElem?_apply tolerances axis
  | maximum first second firstEq secondEq =>
      simp only [CatalogueModifier.toModifier, ToleranceModifier.maximum,
        List.getElem?_zipWith, firstEq, secondEq]
      cases tolerances[axis]? <;> rfl
  | concatenate first second firstEq secondEq =>
      simp only [CatalogueModifier.toModifier, ToleranceModifier.concatenate, secondEq, firstEq,
        ToleranceModifier.length_apply, Option.map_map]
      rfl

end OneAxis

/-! ## What an axis depends on -/

/-- Two inputs that differ at most on other axes and behind the first two values of the
coordinate. -/
structure AlikeOn (axis : Nat) (first firstCoordinate second secondCoordinate : List Float) :
    Prop where
  length_eq : first.length = second.length
  tolerance_eq : first[axis]? = second[axis]?
  angles_eq : firstCoordinate.take 2 = secondCoordinate.take 2

section Dependence

variable {functions : ElementaryFunctions Float} {catalogue : CatalogueModifier}
  (published : catalogue.IsPublished)

include published

/-- A published modifier reads the first two values of a coordinate. -/
theorem onAxis_congr {firstCoordinate secondCoordinate : List Float}
    (angles : firstCoordinate.take 2 = secondCoordinate.take 2) (count : Nat)
    (calculation : Calculation) (axis : Nat) :
    catalogue.onAxis functions count firstCoordinate calculation axis =
      catalogue.onAxis functions count secondCoordinate calculation axis := by
  induction catalogue with
  | identity => rfl
  | metresToDegrees conversion =>
      have inside := latitudeAxis_lt_two published
      have latitude : firstCoordinate[conversion.latitudeAxis]? =
          secondCoordinate[conversion.latitudeAxis]? := by
        rw [← List.getElem?_take_of_lt inside, angles, List.getElem?_take_of_lt inside]
      funext tolerance
      simp only [CatalogueModifier.onAxis, MetresToDegrees.onAxis, latitude]
  | scale factors => rfl
  | maximum first second firstEq secondEq =>
      funext tolerance
      simp only [CatalogueModifier.onAxis, firstEq published.1, secondEq published.2]
  | concatenate first second firstEq secondEq =>
      funext tolerance
      simp only [CatalogueModifier.onAxis, firstEq published.1, secondEq published.2]

theorem AlikeOn.adjusted_eq {axis : Nat}
    {first firstCoordinate second secondCoordinate : List Float}
    (alike : AlikeOn axis first firstCoordinate second secondCoordinate)
    (calculation : Calculation) :
    (Comparison.adjusted (catalogue.toModifier functions) first calculation
        firstCoordinate)[axis]? =
      (Comparison.adjusted (catalogue.toModifier functions) second calculation
        secondCoordinate)[axis]? := by
  cases calculation with
  | strict => exact alike.tolerance_eq
  | _ =>
      simp only [Comparison.adjusted, catalogue.getElem?_apply]
      rw [alike.tolerance_eq, alike.length_eq, onAxis_congr published alike.angles_eq]

end Dependence

/-! ## Positions in range -/

/-- Divides the value at a position. A position out of range has none. -/
def divideAt? (values : List Float) (position : Nat) (divisor : Float) : Option (List Float) :=
  if position < values.length then some (values.modify position (· / divisor)) else none

/-- A conversion to degrees that has no result where a position is out of range. -/
def MetresToDegrees.applyInRange (functions : ElementaryFunctions Float)
    (conversion : MetresToDegrees) (coordinate : List Float) (calculation : Calculation)
    (tolerances : List Float) : Option (List Float) :=
  if conversion.inverseOnly ∧ calculation ≠ .inverse then some tolerances
  else
    match coordinate[conversion.latitudeAxis]? with
    | none => some tolerances
    | some latitude =>
        if tolerances.length ≤ conversion.longitudeAxis then some tolerances
        else do
          let degrees ← divideAt? tolerances conversion.latitudeAxis metresPerDegree
          divideAt? degrees conversion.longitudeAxis
            (metresPerLongitudeDegree functions latitude)

/-- A modifier that has no result where a position is out of range. Scales and maxima go through
lists side by side and use no positions. -/
def CatalogueModifier.applyInRange (functions : ElementaryFunctions Float) (coordinate : List Float)
    (calculation : Calculation) : CatalogueModifier → List Float → Option (List Float)
  | .identity, tolerances => some tolerances
  | .metresToDegrees conversion, tolerances =>
      conversion.applyInRange functions coordinate calculation tolerances
  | .scale factors, tolerances => some (factors.apply tolerances calculation)
  | .maximum first second, tolerances => do
      let left ← first.applyInRange functions coordinate calculation tolerances
      let right ← second.applyInRange functions coordinate calculation tolerances
      return List.zipWith greaterNumber left right
  | .concatenate first second, tolerances => do
      let middle ← first.applyInRange functions coordinate calculation tolerances
      second.applyInRange functions coordinate calculation middle

/-- An adjustment that has no result where a position is out of range. -/
def CatalogueModifier.adjustInRange (functions : ElementaryFunctions Float)
    (catalogue : CatalogueModifier) (tolerances coordinate : List Float)
    (calculation : Calculation) : Option (Except ConformanceError (List Float)) :=
  match checkDimension "tolerances and coordinate" coordinate.length tolerances.length with
  | .error mismatch => some (.error mismatch)
  | .ok () =>
      match calculation with
      | .strict => some (.ok tolerances)
      | _ => (catalogue.applyInRange functions coordinate calculation tolerances).map .ok

section Positions

variable {functions : ElementaryFunctions Float} {coordinate : List Float}
  {calculation : Calculation}

theorem divideAt?_of_lt {values : List Float} {position : Nat} (inRange : position < values.length)
    (divisor : Float) :
    divideAt? values position divisor = some (values.modify position (· / divisor)) :=
  if_pos inRange

/-- A latitude that the coordinate has stands at a position that the tolerances have. -/
theorem MetresToDegrees.applyInRange_eq (conversion : MetresToDegrees) {tolerances : List Float}
    (lengths : coordinate.length = tolerances.length) :
    conversion.applyInRange functions coordinate calculation tolerances =
      some (conversion.apply functions tolerances coordinate calculation) := by
  unfold MetresToDegrees.applyInRange MetresToDegrees.apply
  by_cases unaffected : conversion.inverseOnly = true ∧ calculation ≠ .inverse
  · simp only [if_pos unaffected]
  · simp only [if_neg unaffected]
    cases latitudeEq : coordinate[conversion.latitudeAxis]? with
    | none => rfl
    | some latitude =>
        by_cases missing : tolerances.length ≤ conversion.longitudeAxis
        · simp only [if_pos missing]
        · have latitudeInRange : conversion.latitudeAxis < tolerances.length := by
            rw [← lengths]
            exact (List.getElem?_eq_some_iff.mp latitudeEq).1
          have longitudeInRange : conversion.longitudeAxis <
              (tolerances.modify conversion.latitudeAxis (· / metresPerDegree)).length := by
            rw [List.length_modify]
            exact not_le.mp missing
          simp only [if_neg missing, divideAt?_of_lt latitudeInRange, Option.bind_eq_bind,
            Option.bind_some, divideAt?_of_lt longitudeInRange]

/-- The lengths stay the same within a tree of modifiers, so all of its positions are in range. -/
theorem CatalogueModifier.applyInRange_eq (catalogue : CatalogueModifier) {tolerances : List Float}
    (lengths : coordinate.length = tolerances.length) :
    catalogue.applyInRange functions coordinate calculation tolerances =
      some ((catalogue.toModifier functions).apply tolerances coordinate calculation) := by
  induction catalogue generalizing tolerances with
  | identity => rfl
  | metresToDegrees conversion => exact conversion.applyInRange_eq lengths
  | scale factors => rfl
  | maximum first second firstEq secondEq =>
      simp only [CatalogueModifier.applyInRange, firstEq lengths, secondEq lengths]
      rfl
  | concatenate first second firstEq secondEq =>
      have kept := (first.toModifier functions).length_apply tolerances coordinate calculation
      simp only [CatalogueModifier.applyInRange, firstEq lengths, Option.bind_eq_bind,
        Option.bind_some]
      exact secondEq (lengths.trans kept.symm)

theorem CatalogueModifier.adjustInRange_eq (catalogue : CatalogueModifier)
    (tolerances : List Float) :
    catalogue.adjustInRange functions tolerances coordinate calculation =
      some ((catalogue.toModifier functions).adjust tolerances coordinate calculation) := by
  unfold CatalogueModifier.adjustInRange
  by_cases lengths : coordinate.length = tolerances.length
  · rw [Comparison.adjust_eq lengths]
    simp only [checkDimension, if_pos lengths, catalogue.applyInRange_eq lengths]
    cases calculation <;> rfl
  · rw [Comparison.adjust_of_length_ne lengths]
    simp only [checkDimension, if_neg lengths]

end Positions

/-! ## Result -/

/-- An adjustment by a published modifier never leaves the range of a list. It fails exactly if the
lengths differ; otherwise there are as many adjusted tolerances, which a strict calculation leaves
alone, so that all modifiers compare strictly alike. The adjusted tolerance of an axis depends on
nothing but its own tolerance, the calculation and the first two values of the coordinate. -/
theorem adjust_axisWise (functions : ElementaryFunctions Float) {catalogue : CatalogueModifier}
    (published : catalogue.IsPublished) (calculation : Calculation) :
    (∀ tolerances coordinate,
      catalogue.adjustInRange functions tolerances coordinate calculation =
          some ((catalogue.toModifier functions).adjust tolerances coordinate calculation) ∧
        ((catalogue.toModifier functions).adjust tolerances coordinate calculation =
            .error (.dimensionMismatch "tolerances and coordinate" coordinate.length
              tolerances.length) ↔
          coordinate.length ≠ tolerances.length) ∧
        (coordinate.length = tolerances.length → ∃ adjusted,
          (catalogue.toModifier functions).adjust tolerances coordinate calculation =
              .ok adjusted ∧
            adjusted.length = tolerances.length ∧
            (calculation = .strict → adjusted = tolerances))) ∧
    (∀ (other : ToleranceModifier) (expected actual tolerances : List Float) (dimension : Nat),
      compareWithModifier expected actual tolerances dimension (catalogue.toModifier functions)
          .strict =
        compareWithModifier expected actual tolerances dimension other .strict) ∧
    (∀ axis first firstCoordinate second secondCoordinate firstAdjusted secondAdjusted,
      AlikeOn axis first firstCoordinate second secondCoordinate →
      (catalogue.toModifier functions).adjust first firstCoordinate calculation =
        .ok firstAdjusted →
      (catalogue.toModifier functions).adjust second secondCoordinate calculation =
        .ok secondAdjusted →
      firstAdjusted[axis]? = secondAdjusted[axis]?) := by
  refine ⟨fun tolerances coordinate => ⟨catalogue.adjustInRange_eq tolerances, ?_, ?_⟩, ?_, ?_⟩
  · constructor
    · intro mismatch same
      rw [Comparison.adjust_eq same] at mismatch
      cases mismatch
    · exact Comparison.adjust_of_length_ne
  · intro same
    refine ⟨_, Comparison.adjust_eq same, Comparison.length_adjusted _ _ _ _, ?_⟩
    intro strict
    rw [strict]
    rfl
  · intro other expected actual tolerances dimension
    apply Comparison.compareWithModifier_congr
    intro tolerances coordinate
    rfl
  · intro axis first firstCoordinate second secondCoordinate firstAdjusted secondAdjusted alike
      firstEq secondEq
    rw [← (Comparison.adjust_eq_ok_iff.mp firstEq).2, ← (Comparison.adjust_eq_ok_iff.mp secondEq).2]
    exact alike.adjusted_eq published calculation

/-- The greater of two conversions to degrees, of which the first one is scaled on two axes. -/
def scaledOrLatitudeFirst : CatalogueModifier :=
  .maximum
    (.concatenate (.metresToDegrees .geographic) (.scale ⟨Calculation.all, [2.0, 3.0], by decide⟩))
    (.metresToDegrees .projectionFromLatitudeFirst)

/-- Points in space with other latitude tolerances and heights, but the same longitude tolerance. -/
theorem adjust_axisWise_inSpace :
    scaledOrLatitudeFirst.IsPublished ∧
      AlikeOn 0 [0.5, 1.0, 2.0] [10.0, 60.0, 5.0] [0.5, 7.0, 9.0] [10.0, 60.0, 100.0] ∧
      ∃ first second,
        scaledOrLatitudeFirst.adjustInRange .platform [0.5, 1.0, 2.0] [10.0, 60.0, 5.0] .inverse =
            some (.ok first) ∧
          scaledOrLatitudeFirst.adjustInRange .platform [0.5, 7.0, 9.0] [10.0, 60.0, 100.0]
            .inverse = some (.ok second) ∧
          first.length = 3 ∧ second.length = 3 ∧ first[0]? = second[0]? := by
  have published : scaledOrLatitudeFirst.IsPublished := by
    simp [CatalogueModifier.IsPublished, scaledOrLatitudeFirst]
  have alike : AlikeOn 0 [0.5, 1.0, 2.0] [10.0, 60.0, 5.0] [0.5, 7.0, 9.0] [10.0, 60.0, 100.0] :=
    ⟨by simp, by simp, by simp⟩
  obtain ⟨adjusts, _, axisWise⟩ := adjust_axisWise .platform published .inverse
  obtain ⟨firstChecked, _, firstAdjusts⟩ := adjusts [0.5, 1.0, 2.0] [10.0, 60.0, 5.0]
  obtain ⟨secondChecked, _, secondAdjusts⟩ := adjusts [0.5, 7.0, 9.0] [10.0, 60.0, 100.0]
  obtain ⟨first, firstEq, firstLength, _⟩ := firstAdjusts (by simp)
  obtain ⟨second, secondEq, secondLength, _⟩ := secondAdjusts (by simp)
  rw [firstEq] at firstChecked
  rw [secondEq] at secondChecked
  exact ⟨published, alike, first, second, firstChecked, secondChecked, firstLength, secondLength,
    axisWise 0 _ _ _ _ _ _ alike firstEq secondEq⟩

end CoordinateConformance
