import CoordinateConformance.Proofs.Tolerance.Order

/-!
Contract: what a maximum of two modifiers accepts.

A difference lies within the greater of two tolerances exactly if it lies within one of them. That
also holds where one of them is not a number, because the greater number ignores it, and where both
are not, because nothing lies within such a tolerance. Both modifiers start from the same
tolerances, so on each axis the maximum accepts the union of what the two accept. Nothing is asked
of the modifiers for it.

Points are another matter: a maximum may take one axis from either modifier, and so accept points
that neither accepts.

Owns: `Accepts`, `le_greaterNumber_iff`, `axisPasses_maximum_iff`, `accepts_maximum_iff`.

Does **not** own: modifiers in sequence.
-/

namespace CoordinateConformance

open Binary64 Comparison

/-! ## Two tolerances -/

theorem greaterNumber_self (tolerance : Float) : greaterNumber tolerance tolerance = tolerance := by
  rcases greaterNumber_eq_or tolerance tolerance with equal | equal <;> exact equal

theorem le_greaterNumber_iff {deviation first second : Float} :
    deviation ≤ greaterNumber first second ↔ deviation ≤ first ∨ deviation ≤ second := by
  unfold greaterNumber
  split_ifs with undefined less
  · -- nothing lies within a tolerance that is not a number
    have beyond : ¬deviation ≤ first := by
      intro within
      rw [(le_iff.mp within).2.1] at undefined
      exact Bool.false_ne_true undefined
    simp only [beyond, false_or]
  · have looser : deviation ≤ first → deviation ≤ second := by
      intro within
      obtain ⟨number, _, valueLe⟩ := le_iff.mp within
      obtain ⟨_, numberToo, valueLt⟩ := lt_iff.mp less
      exact le_iff.mpr ⟨number, numberToo, valueLe.trans valueLt.le⟩
    exact ⟨Or.inr, fun within => within.elim looser id⟩
  · have tighter : deviation ≤ second → deviation ≤ first := by
      intro within
      obtain ⟨number, numberToo, valueLe⟩ := le_iff.mp within
      rw [Bool.not_eq_true] at undefined
      have notLess : ¬value first < value second := fun valueLt =>
        less (lt_iff.mpr ⟨undefined, numberToo, valueLt⟩)
      exact le_iff.mpr ⟨number, undefined, valueLe.trans (not_lt.mp notLess)⟩
    exact ⟨Or.inl, fun within => within.elim id tighter⟩

theorem passes_greaterNumber_iff {expected actual first second : Float} :
    Passes expected actual (greaterNumber first second) ↔
      Passes expected actual first ∨ Passes expected actual second := by
  unfold Passes
  rw [le_greaterNumber_iff]
  tauto

/-! ## Two lists of tolerances -/

/-- A pair of values lies within the tolerance of an axis. -/
def WithinOn (tolerances : List Float) (axis : Nat) (expected actual : Float) : Prop :=
  ∃ tolerance, tolerances[axis]? = some tolerance ∧ Passes expected actual tolerance

theorem withinOn_zipWith_iff {first second : List Float} (lengths : first.length = second.length)
    {axis : Nat} {expected actual : Float} :
    WithinOn (List.zipWith greaterNumber first second) axis expected actual ↔
      WithinOn first axis expected actual ∨ WithinOn second axis expected actual := by
  by_cases inRange : axis < first.length
  · have firstEq := List.getElem?_eq_getElem inRange
    have secondEq := List.getElem?_eq_getElem (lengths ▸ inRange)
    simp [WithinOn, List.getElem?_zipWith, firstEq, secondEq, passes_greaterNumber_iff]
  · have firstEq := List.getElem?_eq_none (not_lt.mp inRange)
    have secondEq := List.getElem?_eq_none (lengths ▸ not_lt.mp inRange)
    simp [WithinOn, List.getElem?_zipWith, firstEq, secondEq]

/-! ## Two modifiers -/

section Modifiers

variable (first second : ToleranceModifier)

/-- Both modifiers start from the same tolerances. A strict calculation leaves these alone. -/
theorem adjusted_maximum (tolerances : List Float) (calculation : Calculation)
    (coordinate : List Float) :
    adjusted (.maximum first second) tolerances calculation coordinate =
      List.zipWith greaterNumber (adjusted first tolerances calculation coordinate)
        (adjusted second tolerances calculation coordinate) := by
  cases calculation with
  | strict => simp [adjusted, List.zipWith_self, greaterNumber_self]
  | _ => rfl

theorem withinOn_maximum_iff {tolerances coordinate : List Float} {calculation : Calculation}
    {axis : Nat} {expected actual : Float} :
    WithinOn (adjusted (.maximum first second) tolerances calculation coordinate) axis expected
        actual ↔
      WithinOn (adjusted first tolerances calculation coordinate) axis expected actual ∨
        WithinOn (adjusted second tolerances calculation coordinate) axis expected actual := by
  rw [adjusted_maximum, withinOn_zipWith_iff]
  rw [length_adjusted, length_adjusted]

/-- The modifier adjusts the tolerance of an axis so that a pair of values lies within it. -/
def Accepts (modifier : ToleranceModifier) (tolerances coordinate : List Float)
    (calculation : Calculation) (axis : Nat) (expected actual : Float) : Prop :=
  ∃ adjusted, modifier.adjust tolerances coordinate calculation = .ok adjusted ∧
    WithinOn adjusted axis expected actual

theorem accepts_iff {modifier : ToleranceModifier} {tolerances coordinate : List Float}
    {calculation : Calculation} {axis : Nat} {expected actual : Float} :
    Accepts modifier tolerances coordinate calculation axis expected actual ↔
      coordinate.length = tolerances.length ∧
        WithinOn (adjusted modifier tolerances calculation coordinate) axis expected actual := by
  unfold Accepts
  constructor
  · rintro ⟨result, adjustEq, within⟩
    obtain ⟨lengths, rfl⟩ := adjust_eq_ok_iff.mp adjustEq
    exact ⟨lengths, within⟩
  · rintro ⟨lengths, within⟩
    exact ⟨_, adjust_eq lengths, within⟩

end Modifiers

/-! ## Comparisons -/

section Comparisons

variable {expected actual tolerances : List Float} {dimension : Nat} {calculation : Calculation}

theorem axisPasses_iff {modifier : ToleranceModifier} {point axis : Nat} :
    AxisPasses expected actual tolerances dimension modifier calculation point axis ↔
      ∃ expectedValue actualValue, expected[point * dimension + axis]? = some expectedValue ∧
        actual[point * dimension + axis]? = some actualValue ∧
        WithinOn (adjusted modifier tolerances calculation (coordinate dimension actual point)) axis
          expectedValue actualValue := by
  constructor
  · rintro ⟨e, a, t, has, passes⟩
    exact ⟨e, a, has.expected_eq, has.actual_eq, t, has.tolerance_eq, passes⟩
  · rintro ⟨e, a, expectedEq, actualEq, t, toleranceEq, passes⟩
    exact ⟨e, a, t, ⟨expectedEq, actualEq, toleranceEq⟩, passes⟩

variable (first second : ToleranceModifier)

theorem axisPasses_maximum_iff {point axis : Nat} :
    AxisPasses expected actual tolerances dimension (.maximum first second) calculation point
        axis ↔
      AxisPasses expected actual tolerances dimension first calculation point axis ∨
        AxisPasses expected actual tolerances dimension second calculation point axis := by
  simp only [axisPasses_iff, withinOn_maximum_iff, and_or_left, exists_or]

/-- Each axis of each point may pass under either modifier. -/
theorem compareWithModifier_maximum_eq_ok_iff :
    compareWithModifier expected actual tolerances dimension (.maximum first second)
        calculation = .ok () ↔
      Shaped expected actual tolerances dimension ∧
        ∀ point < expected.length / dimension, ∀ axis < dimension,
          AxisPasses expected actual tolerances dimension first calculation point axis ∨
            AxisPasses expected actual tolerances dimension second calculation point axis := by
  rw [agree_iff]
  constructor
  · intro agree
    refine ⟨agree.shaped, fun point whole axis less => ?_⟩
    exact (axisPasses_maximum_iff first second).mp (agree.passes point whole axis less)
  · rintro ⟨shaped, passes⟩
    refine ⟨shaped, fun point whole axis less => ?_⟩
    exact (axisPasses_maximum_iff first second).mpr (passes point whole axis less)

end Comparisons

/-! ## Result -/

/-- On each axis a maximum accepts what one of the two modifiers accepts. So it accepts points
exactly if each of their axes is accepted by one of the two; in particular it accepts all points
that either accepts, and the order of the two does not matter. -/
theorem accepts_maximum_iff (first second : ToleranceModifier) (calculation : Calculation) :
    (∀ tolerances coordinate axis expected actual,
      Accepts (.maximum first second) tolerances coordinate calculation axis expected actual ↔
        Accepts first tolerances coordinate calculation axis expected actual ∨
          Accepts second tolerances coordinate calculation axis expected actual) ∧
    ∀ expected actual tolerances dimension,
      (compareWithModifier expected actual tolerances dimension (.maximum first second)
          calculation = .ok () ↔
        Shaped expected actual tolerances dimension ∧
          ∀ point < expected.length / dimension, ∀ axis < dimension,
            AxisPasses expected actual tolerances dimension first calculation point axis ∨
              AxisPasses expected actual tolerances dimension second calculation point axis) ∧
      (compareWithModifier expected actual tolerances dimension first calculation = .ok () ∨
          compareWithModifier expected actual tolerances dimension second calculation = .ok () →
        compareWithModifier expected actual tolerances dimension (.maximum first second)
          calculation = .ok ()) ∧
      (compareWithModifier expected actual tolerances dimension (.maximum first second)
          calculation = .ok () ↔
        compareWithModifier expected actual tolerances dimension (.maximum second first)
          calculation = .ok ()) := by
  constructor
  · intro tolerances coordinate axis expected actual
    rw [accepts_iff, accepts_iff, accepts_iff, withinOn_maximum_iff, and_or_left]
  · intro expected actual tolerances dimension
    refine ⟨compareWithModifier_maximum_eq_ok_iff first second, ?_, ?_⟩
    · intro accepted
      apply (compareWithModifier_maximum_eq_ok_iff first second).mpr
      rcases accepted with accepted | accepted
      · obtain ⟨shaped, passes⟩ := agree_iff.mp accepted
        exact ⟨shaped, fun point whole axis less => Or.inl (passes point whole axis less)⟩
      · obtain ⟨shaped, passes⟩ := agree_iff.mp accepted
        exact ⟨shaped, fun point whole axis less => Or.inr (passes point whole axis less)⟩
    · simp only [compareWithModifier_maximum_eq_ok_iff, or_comm]

/-- Tolerances that are not numbers. -/
def undefinedTolerances : ToleranceModifier :=
  .constant Calculation.all (0.0 / 0.0)

/-- Twice the tolerances. -/
def doubledTolerances : ToleranceModifier :=
  .scale ⟨Calculation.all, [2.0, 2.0], by decide⟩

/-- A point that is accepted at the limit of one tolerance, whatever the other modifier does. -/
theorem accepts_maximum_undefined :
    compareWithModifier [0.0, 0.0] [2.0, 1.5] [1.0, 1.0] 2 doubledTolerances .direct = .ok () ∧
      compareWithModifier [0.0, 0.0] [2.0, 1.5] [1.0, 1.0] 2
        (.maximum undefinedTolerances doubledTolerances) .direct = .ok () ∧
      compareWithModifier [0.0, 0.0] [2.0, 1.5] [1.0, 1.0] 2
        (.maximum doubledTolerances undefinedTolerances) .direct = .ok () := by
  have accepted : compareWithModifier [0.0, 0.0] [2.0, 1.5] [1.0, 1.0] 2 doubledTolerances
      .direct = .ok () := by rfl
  obtain ⟨_, union⟩ := accepts_maximum_iff undefinedTolerances doubledTolerances .direct
  obtain ⟨_, either, exchanged⟩ := union [0.0, 0.0] [2.0, 1.5] [1.0, 1.0] 2
  exact ⟨accepted, either (Or.inr accepted), exchanged.mp (either (Or.inr accepted))⟩

end CoordinateConformance
