import CoordinateConformance.Comparison
import CoordinateConformance.Proofs.Binary64.Value

/-!
Contract: what a comparison of two flat lists of points returns.

`Result` says it without the loops: by the element at `point * dimension + axis` and the
tolerance of that axis, adjusted with the actual coordinate of the same point. The shapes are
checked in a fixed order; then the lexicographically first pair of point and axis that does not
pass decides.

Owns: `Result`, `Result.unique`, `agree_iff`, `error_iff`, `reports_iff`.

Does **not** own: what a modifier does to a tolerance.
-/

namespace CoordinateConformance.Comparison

/-! ## What is compared -/

/-- The coordinate of a point. -/
def coordinate (dimension : Nat) (values : List Float) (point : Nat) : List Float :=
  (values.drop (point * dimension)).take dimension

/-- The tolerances of a point; a strict comparison leaves them alone. -/
def adjusted (modifier : ToleranceModifier) (tolerances : List Float) (calculation : Calculation)
    (coordinate : List Float) : List Float :=
  match calculation with
  | .strict => tolerances
  | _ => modifier.apply tolerances coordinate calculation

/-- Equal, both NaN, or not further apart than the tolerance. -/
def Passes (expectedValue actualValue tolerance : Float) : Prop :=
  (expectedValue == actualValue) = true ∨
    (expectedValue.isNaN = true ∧ actualValue.isNaN = true) ∨
    (expectedValue - actualValue).abs ≤ tolerance

section Definitions

variable (expected actual tolerances : List Float) (dimension : Nat)
  (modifier : ToleranceModifier) (calculation : Calculation)

/-- An axis of a point has these two values and this tolerance. -/
structure AxisHas (point axis : Nat) (expectedValue actualValue tolerance : Float) : Prop where
  expected_eq : expected[point * dimension + axis]? = some expectedValue
  actual_eq : actual[point * dimension + axis]? = some actualValue
  tolerance_eq :
    (adjusted modifier tolerances calculation (coordinate dimension actual point))[axis]? =
      some tolerance

def AxisPasses (point axis : Nat) : Prop :=
  ∃ expectedValue actualValue tolerance,
    AxisHas expected actual tolerances dimension modifier calculation point axis expectedValue
      actualValue tolerance ∧
    Passes expectedValue actualValue tolerance

/-- The shapes that a comparison asks for. -/
structure Shaped : Prop where
  axes : dimension ≠ 0
  tolerances_length : tolerances.length = dimension
  lengths : expected.length = actual.length
  wholePoints : dimension ∣ expected.length

/-- Every axis of every point passes. -/
structure Agree : Prop where
  shaped : Shaped expected actual tolerances dimension
  passes : ∀ point < expected.length / dimension, ∀ axis < dimension,
    AxisPasses expected actual tolerances dimension modifier calculation point axis

/-- The failure describes the first axis that does not pass. -/
structure Reports (failure : ComparisonFailure) : Prop where
  shaped : Shaped expected actual tolerances dimension
  point_lt : failure.point < expected.length / dimension
  axis_lt : failure.axis < dimension
  has : AxisHas expected actual tolerances dimension modifier calculation failure.point
    failure.axis failure.expected failure.actual failure.tolerance
  fails : ¬Passes failure.expected failure.actual failure.tolerance
  deviation_eq : failure.deviation = (failure.expected - failure.actual).abs
  calculation_eq : failure.calculation = calculation
  first : ∀ point axis, axis < dimension →
    (point < failure.point ∨ point = failure.point ∧ axis < failure.axis) →
    AxisPasses expected actual tolerances dimension modifier calculation point axis

/-- The result of a comparison. -/
inductive Result : Except ConformanceError Unit → Prop where
  | noAxes (zero : dimension = 0) :
      Result (.error (.dimensionMismatch "point dimension" 1 0))
  | tolerances (axes : dimension ≠ 0) (differ : tolerances.length ≠ dimension) :
      Result (.error (.dimensionMismatch "tolerances" dimension tolerances.length))
  | lengths (axes : dimension ≠ 0) (same : tolerances.length = dimension)
      (differ : expected.length ≠ actual.length) :
      Result (.error (.dimensionMismatch "actual coordinates" expected.length actual.length))
  | partialPoint (axes : dimension ≠ 0) (same : tolerances.length = dimension)
      (lengths : expected.length = actual.length) (rest : ¬dimension ∣ expected.length) :
      Result (.error (.dimensionMismatch "coordinate array is not a whole number of points"
        (expected.length - expected.length % dimension) expected.length))
  | agree (agree : Agree expected actual tolerances dimension modifier calculation) :
      Result (.ok ())
  | reports (failure : ComparisonFailure)
      (reports : Reports expected actual tolerances dimension modifier calculation failure) :
      Result (.error (.toleranceExceeded failure))

end Definitions

/-! ## Points of a flat list -/

theorem isWithinTolerance_iff {expected actual tolerance : Float} :
    isWithinTolerance expected actual tolerance = true ↔ Passes expected actual tolerance := by
  unfold isWithinTolerance Passes
  rw [Bool.or_eq_true, Bool.or_eq_true, Bool.and_eq_true, decide_eq_true_iff, or_assoc]

theorem getElem?_runs {size count : Nat} (values : List Float) {point : Nat}
    (less : point < count) :
    (runs size count values)[point]? = some (coordinate size values point) := by
  induction count generalizing values point with
  | zero => omega
  | succ count inductionHypothesis =>
      cases point with
      | zero => simp [runs, coordinate]
      | succ point =>
          have rest := inductionHypothesis (values.drop size) (Nat.lt_of_succ_lt_succ less)
          simp only [runs, List.getElem?_cons_succ, rest, coordinate, List.drop_drop]
          rw [Nat.succ_mul, Nat.add_comm size]

theorem length_runs (size count : Nat) (values : List Float) :
    (runs size count values).length = count := by
  induction count generalizing values with
  | zero => rfl
  | succ count inductionHypothesis => simp [runs, inductionHypothesis]

/-- Parts of one length are read back from the list that they make up. -/
theorem runs_flatten_append {α : Type} {size : Nat} {parts : List (List α)}
    (uniform : ∀ part ∈ parts, part.length = size) (rest : List α) :
    runs size parts.length (parts.flatten ++ rest) = parts := by
  induction parts with
  | nil => rfl
  | cons part parts inductionHypothesis =>
      rw [List.forall_mem_cons] at uniform
      simp only [List.flatten_cons, List.append_assoc, List.length_cons, runs]
      rw [List.take_left' uniform.1, List.drop_left' uniform.1, inductionHypothesis uniform.2]

theorem length_flatten_of_uniform {α : Type} {size : Nat} {parts : List (List α)}
    (uniform : ∀ part ∈ parts, part.length = size) :
    parts.flatten.length = parts.length * size := by
  induction parts with
  | nil => simp
  | cons part parts inductionHypothesis =>
      rw [List.forall_mem_cons] at uniform
      simp only [List.flatten_cons, List.length_append, List.length_cons, uniform.1,
        inductionHypothesis uniform.2]
      ring

/-- An element of a point is found in the flat list. -/
theorem getElem?_coordinate (values : List Float) {dimension point axis : Nat}
    (less : axis < dimension) :
    (coordinate dimension values point)[axis]? = values[point * dimension + axis]? := by
  unfold coordinate
  rw [List.getElem?_take_of_lt less, List.getElem?_drop]

/-- The index of an axis of a whole point is in range. -/
theorem index_lt {length dimension point axis : Nat} (whole : point < length / dimension)
    (less : axis < dimension) : point * dimension + axis < length := by
  have next : (point + 1) * dimension ≤ length :=
    (Nat.mul_le_mul_right dimension whole).trans (Nat.div_mul_le_self length dimension)
  rw [Nat.succ_mul] at next
  omega

theorem length_coordinate {values : List Float} {dimension point : Nat}
    (whole : point < values.length / dimension) :
    (coordinate dimension values point).length = dimension := by
  have next : (point + 1) * dimension ≤ values.length :=
    (Nat.mul_le_mul_right dimension whole).trans (Nat.div_mul_le_self values.length dimension)
  rw [Nat.succ_mul] at next
  unfold coordinate
  rw [List.length_take, List.length_drop]
  omega

/-! ## The loop over the axes of a point -/

/-- The first axes pass, as far as there are values and tolerances. -/
def PassBelow (count : Nat) (expected actual tolerances : List Float) : Prop :=
  ∀ axis < count, ∀ expectedValue actualValue tolerance : Float,
    expected[axis]? = some expectedValue → actual[axis]? = some actualValue →
    tolerances[axis]? = some tolerance → Passes expectedValue actualValue tolerance

theorem passBelow_cons {count : Nat} {expectedValue actualValue tolerance : Float}
    {expected actual tolerances : List Float} (head : Passes expectedValue actualValue tolerance)
    (tail : PassBelow count expected actual tolerances) :
    PassBelow (count + 1) (expectedValue :: expected) (actualValue :: actual)
      (tolerance :: tolerances) := by
  intro axis less e a t expectedEq actualEq toleranceEq
  cases axis with
  | zero =>
      cases expectedEq
      cases actualEq
      cases toleranceEq
      exact head
  | succ axis =>
      exact tail axis (Nat.lt_of_succ_lt_succ less) e a t expectedEq actualEq toleranceEq

/-- Either all axes pass, or the first one that does not is described. -/
theorem failingAxis_spec (calculation : Calculation) (point axis : Nat)
    (expected actual tolerances : List Float) :
    failingAxis calculation point axis expected actual tolerances = none ∧
        PassBelow expected.length expected actual tolerances ∨
      ∃ (count : Nat) (expectedValue actualValue tolerance : Float),
        failingAxis calculation point axis expected actual tolerances =
          some ⟨point, axis + count, expectedValue, actualValue,
            (expectedValue - actualValue).abs, tolerance, calculation⟩ ∧
        expected[count]? = some expectedValue ∧ actual[count]? = some actualValue ∧
        tolerances[count]? = some tolerance ∧
        ¬Passes expectedValue actualValue tolerance ∧
        PassBelow count expected actual tolerances := by
  -- the axes before `count` have passed; a later loop counts from one axis further on
  induction axis, expected, actual, tolerances using failingAxis.induct with
  | case1 axis e expected a actual t tolerances within inductionHypothesis =>
      have head := isWithinTolerance_iff.mp within
      rw [failingAxis, if_pos within]
      rcases inductionHypothesis with ⟨none, tail⟩ | ⟨count, e', a', t', failing⟩
      · exact Or.inl ⟨none, passBelow_cons head tail⟩
      · obtain ⟨some, expectedEq, actualEq, toleranceEq, fails, tail⟩ := failing
        refine Or.inr ⟨count + 1, e', a', t', ?_, expectedEq, actualEq, toleranceEq, fails,
          passBelow_cons head tail⟩
        rw [some, Nat.add_right_comm, Nat.add_assoc]
  | case2 axis e expected a actual t tolerances outside =>
      rw [failingAxis, if_neg outside]
      refine Or.inr ⟨0, e, a, t, rfl, rfl, rfl, rfl, mt isWithinTolerance_iff.mpr outside, ?_⟩
      intro axis less
      omega
  | case3 expected axis actual tolerances exhausted =>
      refine Or.inl ⟨failingAxis.eq_2 _ _ _ _ _ _ exhausted, ?_⟩
      intro index less e a t expectedEq actualEq toleranceEq
      cases expected with
      | nil => simp at expectedEq
      | cons e' expected =>
          cases actual with
          | nil => simp at actualEq
          | cons a' actual =>
              cases tolerances with
              | nil => simp at toleranceEq
              | cons t' tolerances => exact (exhausted _ _ _ _ _ _ rfl rfl rfl).elim

/-! ## The loop over the points -/

theorem adjust_eq {modifier : ToleranceModifier} {tolerances coordinate : List Float}
    {calculation : Calculation} (lengths : coordinate.length = tolerances.length) :
    modifier.adjust tolerances coordinate calculation =
      .ok (adjusted modifier tolerances calculation coordinate) := by
  unfold ToleranceModifier.adjust checkDimension
  rw [if_pos lengths]
  rfl

theorem adjust_of_length_ne {modifier : ToleranceModifier} {tolerances coordinate : List Float}
    {calculation : Calculation} (differ : coordinate.length ≠ tolerances.length) :
    modifier.adjust tolerances coordinate calculation =
      .error (.dimensionMismatch "tolerances and coordinate" coordinate.length
        tolerances.length) := by
  unfold ToleranceModifier.adjust checkDimension
  rw [if_neg differ]
  rfl

/-- An adjustment succeeds if the lengths agree, and then gives the adjusted tolerances. -/
theorem adjust_eq_ok_iff {modifier : ToleranceModifier}
    {tolerances coordinate result : List Float} {calculation : Calculation} :
    modifier.adjust tolerances coordinate calculation = .ok result ↔
      coordinate.length = tolerances.length ∧
        adjusted modifier tolerances calculation coordinate = result := by
  by_cases lengths : coordinate.length = tolerances.length
  · rw [adjust_eq lengths, Except.ok.injEq]
    simp only [lengths, true_and]
  · rw [adjust_of_length_ne lengths]
    simp [lengths]

theorem length_adjusted (modifier : ToleranceModifier) (tolerances : List Float)
    (calculation : Calculation) (coordinate : List Float) :
    (adjusted modifier tolerances calculation coordinate).length = tolerances.length := by
  cases calculation with
  | strict => rfl
  | _ => exact modifier.length_apply tolerances coordinate _

/-- One point: its axes are looked at with the tolerances that its actual coordinate gives. -/
theorem comparePoints_cons (modifier : ToleranceModifier) {tolerances : List Float}
    (calculation : Calculation) (point : Nat) {expected actual : List Float}
    (expectedRest actualRest : List (List Float)) (lengths : actual.length = tolerances.length) :
    comparePoints modifier tolerances calculation point (expected :: expectedRest)
        (actual :: actualRest) =
      match failingAxis calculation point 0 expected actual
        (adjusted modifier tolerances calculation actual) with
      | some failure => .error (.toleranceExceeded failure)
      | none =>
          comparePoints modifier tolerances calculation (point + 1) expectedRest actualRest := by
  rw [comparePoints, adjust_eq lengths]
  rfl

/-- No axis of the first points fails. -/
def PointsPassBelow (modifier : ToleranceModifier) (tolerances : List Float)
    (calculation : Calculation) (count : Nat) (expected actual : List (List Float)) : Prop :=
  ∀ index < count, ∀ expectedPoint actualPoint, expected[index]? = some expectedPoint →
    actual[index]? = some actualPoint →
    PassBelow expectedPoint.length expectedPoint actualPoint
      (adjusted modifier tolerances calculation actualPoint)

theorem pointsPassBelow_cons {modifier : ToleranceModifier} {tolerances : List Float}
    {calculation : Calculation} {count : Nat} {expectedPoint actualPoint : List Float}
    {expected actual : List (List Float)}
    (head : PassBelow expectedPoint.length expectedPoint actualPoint
      (adjusted modifier tolerances calculation actualPoint))
    (tail : PointsPassBelow modifier tolerances calculation count expected actual) :
    PointsPassBelow modifier tolerances calculation (count + 1) (expectedPoint :: expected)
      (actualPoint :: actual) := by
  intro index less p q expectedEq actualEq
  cases index with
  | zero =>
      cases expectedEq
      cases actualEq
      exact head
  | succ index => exact tail index (Nat.lt_of_succ_lt_succ less) p q expectedEq actualEq

/-- Either all points pass, or the first axis that does not is described. -/
theorem comparePoints_spec (modifier : ToleranceModifier) (tolerances : List Float)
    (calculation : Calculation) (point : Nat) (expected actual : List (List Float))
    (lengths : ∀ coordinate ∈ actual, coordinate.length = tolerances.length) :
    comparePoints modifier tolerances calculation point expected actual = .ok () ∧
        PointsPassBelow modifier tolerances calculation expected.length expected actual ∨
      ∃ (count axis : Nat) (expectedPoint actualPoint : List Float)
        (expectedValue actualValue tolerance : Float),
        comparePoints modifier tolerances calculation point expected actual =
          .error (.toleranceExceeded ⟨point + count, axis, expectedValue, actualValue,
            (expectedValue - actualValue).abs, tolerance, calculation⟩) ∧
        expected[count]? = some expectedPoint ∧ actual[count]? = some actualPoint ∧
        expectedPoint[axis]? = some expectedValue ∧ actualPoint[axis]? = some actualValue ∧
        (adjusted modifier tolerances calculation actualPoint)[axis]? = some tolerance ∧
        ¬Passes expectedValue actualValue tolerance ∧
        PassBelow axis expectedPoint actualPoint
          (adjusted modifier tolerances calculation actualPoint) ∧
        PointsPassBelow modifier tolerances calculation count expected actual := by
  -- as for the axes: `count` points have passed before the one that fails
  induction point, expected, actual using comparePoints.induct with
  | case1 point p expected q actual inductionHypothesis =>
      rw [comparePoints_cons modifier calculation point expected actual
        (lengths q List.mem_cons_self)]
      rcases failingAxis_spec calculation point 0 p q
        (adjusted modifier tolerances calculation q) with ⟨none, head⟩ | failing
      · rw [none]
        rcases inductionHypothesis fun coordinate mem =>
          lengths coordinate (List.mem_cons_of_mem q mem) with ⟨ok, tail⟩ | later
        · exact Or.inl ⟨ok, pointsPassBelow_cons head tail⟩
        · obtain ⟨count, axis, p', q', e, a, t, error, expectedEq, actualEq, rest⟩ := later
          obtain ⟨eEq, aEq, tEq, fails, axes, points⟩ := rest
          refine Or.inr ⟨count + 1, axis, p', q', e, a, t, ?_, expectedEq, actualEq, eEq, aEq,
            tEq, fails, axes, pointsPassBelow_cons head points⟩
          rw [Nat.add_assoc, Nat.add_comm 1] at error
          exact error
      · obtain ⟨axis, e, a, t, some, eEq, aEq, tEq, fails, axes⟩ := failing
        rw [some, Nat.zero_add]
        refine Or.inr ⟨0, axis, p, q, e, a, t, rfl, rfl, rfl, eEq, aEq, tEq, fails, axes, ?_⟩
        intro index less
        omega
  | case2 expected point actual exhausted =>
      refine Or.inl ⟨comparePoints.eq_2 _ _ _ _ _ _ exhausted, ?_⟩
      intro index less p q expectedEq actualEq
      cases expected with
      | nil => simp at expectedEq
      | cons p' expected =>
          cases actual with
          | nil => simp at actualEq
          | cons q' actual => exact (exhausted _ _ _ _ rfl rfl).elim

/-! ## Modifiers that adjust alike -/

section AdjustAlike

variable {first second : ToleranceModifier} {calculation : Calculation}
  (alike : ∀ tolerances coordinate, first.adjust tolerances coordinate calculation =
    second.adjust tolerances coordinate calculation)

include alike

theorem comparePoints_congr (tolerances : List Float) (point : Nat)
    (expected actual : List (List Float)) :
    comparePoints first tolerances calculation point expected actual =
      comparePoints second tolerances calculation point expected actual := by
  induction expected generalizing point actual with
  | nil => rfl
  | cons expectedPoint expected inductionHypothesis =>
      cases actual with
      | nil => rfl
      | cons actualPoint actual =>
          simp only [comparePoints, alike tolerances actualPoint, inductionHypothesis]

/-- A comparison knows no more of a modifier than how it adjusts. -/
theorem compareWithModifier_congr (expected actual tolerances : List Float) (dimension : Nat) :
    compareWithModifier expected actual tolerances dimension first calculation =
      compareWithModifier expected actual tolerances dimension second calculation := by
  unfold compareWithModifier
  simp only [comparePoints_congr alike]

end AdjustAlike

/-! ## The whole comparison -/

section Lemmas

variable {expected actual tolerances : List Float} {dimension : Nat}
  {modifier : ToleranceModifier} {calculation : Calculation}

theorem getElem?_points (values : List Float) {point : Nat}
    (whole : point < values.length / dimension) :
    (points dimension values)[point]? = some (coordinate dimension values point) :=
  getElem?_runs values whole

@[simp]
theorem length_points (values : List Float) :
    (points dimension values).length = values.length / dimension :=
  length_runs dimension _ values

/-- The shapes are checked one after another, and behind them the points are compared. -/
theorem compareWithModifier_eq_ite :
    compareWithModifier expected actual tolerances dimension modifier calculation =
      if dimension ≠ 0 then
        if dimension = tolerances.length then
          if expected.length = actual.length then
            if expected.length % dimension = 0 then
              comparePoints modifier tolerances calculation 0 (points dimension expected)
                (points dimension actual)
            else
              .error (.dimensionMismatch "coordinate array is not a whole number of points"
                (expected.length - expected.length % dimension) expected.length)
          else .error (.dimensionMismatch "actual coordinates" expected.length actual.length)
        else .error (.dimensionMismatch "tolerances" dimension tolerances.length)
      else .error (.dimensionMismatch "point dimension" 1 0) := by
  unfold compareWithModifier checkPointDimension checkDimension checkWholePoints
  split_ifs <;> first | rfl | contradiction

/-- Well shaped arguments are compared point by point. -/
theorem compareWithModifier_of_shaped (shaped : Shaped expected actual tolerances dimension) :
    compareWithModifier expected actual tolerances dimension modifier calculation =
      comparePoints modifier tolerances calculation 0 (points dimension expected)
        (points dimension actual) := by
  unfold compareWithModifier checkPointDimension checkDimension checkWholePoints
  rw [if_neg shaped.axes, if_pos shaped.tolerances_length.symm, if_pos shaped.lengths,
    if_pos (Nat.mod_eq_zero_of_dvd shaped.wholePoints)]
  rfl

theorem length_of_mem_points {values point : List Float} (mem : point ∈ points dimension values) :
    point.length = dimension := by
  obtain ⟨index, pointEq⟩ := List.getElem?_of_mem mem
  have less : index < values.length / dimension := by
    rw [← length_points]
    exact (List.getElem?_eq_some_iff.mp pointEq).1
  rw [getElem?_points values less] at pointEq
  cases pointEq
  exact length_coordinate less

/-- Points have as many values as there are tolerances. -/
theorem Shaped.length_of_mem (shaped : Shaped expected actual tolerances dimension)
    {values : List Float} :
    ∀ point ∈ points dimension values, point.length = tolerances.length := by
  intro point mem
  rw [length_of_mem_points mem, shaped.tolerances_length]

/-- The axes of a point have values and a tolerance. -/
theorem exists_axisHas (shaped : Shaped expected actual tolerances dimension) {point axis : Nat}
    (whole : point < expected.length / dimension) (less : axis < dimension) :
    ∃ expectedValue actualValue tolerance,
      AxisHas expected actual tolerances dimension modifier calculation point axis expectedValue
        actualValue tolerance := by
  have inRange := index_lt whole less
  have adjustedLength : axis <
      (adjusted modifier tolerances calculation (coordinate dimension actual point)).length := by
    rw [length_adjusted, shaped.tolerances_length]
    exact less
  exact ⟨_, _, _, List.getElem?_eq_getElem inRange,
    List.getElem?_eq_getElem (shaped.lengths ▸ inRange), List.getElem?_eq_getElem adjustedLength⟩

/-- What the loops know about an axis, in terms of the flat lists. -/
theorem axisPasses_of_passBelow (shaped : Shaped expected actual tolerances dimension)
    {count point axis : Nat} (whole : point < expected.length / dimension)
    (less : axis < dimension) (below : axis < count)
    (passes : PassBelow count (coordinate dimension expected point)
      (coordinate dimension actual point)
      (adjusted modifier tolerances calculation (coordinate dimension actual point))) :
    AxisPasses expected actual tolerances dimension modifier calculation point axis := by
  obtain ⟨e, a, t, has⟩ := exists_axisHas shaped whole less
  refine ⟨e, a, t, has, passes axis below e a t ?_ ?_ has.tolerance_eq⟩
  · rw [getElem?_coordinate expected less, has.expected_eq]
  · rw [getElem?_coordinate actual less, has.actual_eq]

theorem axisPasses_of_pointsPassBelow (shaped : Shaped expected actual tolerances dimension)
    {count point axis : Nat} (whole : point < expected.length / dimension)
    (less : axis < dimension) (below : point < count)
    (passes : PointsPassBelow modifier tolerances calculation count (points dimension expected)
      (points dimension actual)) :
    AxisPasses expected actual tolerances dimension modifier calculation point axis := by
  have actualWhole : point < actual.length / dimension := shaped.lengths ▸ whole
  refine axisPasses_of_passBelow shaped whole less ?_
    (passes point below _ _ (getElem?_points expected whole) (getElem?_points actual actualWhole))
  rw [length_coordinate whole]
  exact less

theorem result_of_shaped (shaped : Shaped expected actual tolerances dimension) :
    Result expected actual tolerances dimension modifier calculation
      (compareWithModifier expected actual tolerances dimension modifier calculation) := by
  rw [compareWithModifier_of_shaped shaped]
  rcases comparePoints_spec modifier tolerances calculation 0 (points dimension expected)
    (points dimension actual) shaped.length_of_mem with ⟨ok, passes⟩ | failing
  · rw [ok]
    rw [length_points] at passes
    exact .agree ⟨shaped, fun point whole axis less =>
      axisPasses_of_pointsPassBelow shaped whole less whole passes⟩
  · obtain ⟨point, axis, p, q, e, a, t, error, expectedEq, actualEq, eEq, aEq, rest⟩ := failing
    obtain ⟨tEq, fails, axes, passes⟩ := rest
    have whole : point < expected.length / dimension := by
      rw [← length_points]
      exact (List.getElem?_eq_some_iff.mp expectedEq).1
    rw [getElem?_points expected whole] at expectedEq
    rw [getElem?_points actual (shaped.lengths ▸ whole)] at actualEq
    cases expectedEq
    cases actualEq
    have less : axis < dimension := by
      rw [← length_coordinate whole]
      exact (List.getElem?_eq_some_iff.mp eEq).1
    rw [getElem?_coordinate expected less] at eEq
    rw [getElem?_coordinate actual less] at aEq
    rw [error, Nat.zero_add]
    refine .reports _ ⟨shaped, whole, less, ⟨eEq, aEq, tEq⟩, fails, rfl, rfl, ?_⟩
    rintro earlier earlierAxis earlierLess (before | ⟨rfl, before⟩)
    · exact axisPasses_of_pointsPassBelow shaped (before.trans whole) earlierLess before passes
    · exact axisPasses_of_passBelow shaped whole earlierLess before axes

theorem result_compareWithModifier :
    Result expected actual tolerances dimension modifier calculation
      (compareWithModifier expected actual tolerances dimension modifier calculation) := by
  -- the guards in the order in which they are evaluated
  by_cases axes : dimension = 0
  · unfold compareWithModifier checkPointDimension
    rw [if_pos axes]
    exact .noAxes axes
  by_cases same : tolerances.length = dimension
  case neg =>
    unfold compareWithModifier checkPointDimension checkDimension
    rw [if_neg axes, if_neg (Ne.symm same)]
    exact .tolerances axes same
  by_cases lengths : expected.length = actual.length
  case neg =>
    unfold compareWithModifier checkPointDimension checkDimension
    rw [if_neg axes, if_pos same.symm, if_neg lengths]
    exact .lengths axes same lengths
  by_cases whole : dimension ∣ expected.length
  case neg =>
    unfold compareWithModifier checkPointDimension checkDimension checkWholePoints
    rw [if_neg axes, if_pos same.symm, if_pos lengths,
      if_neg (mt Nat.dvd_of_mod_eq_zero whole)]
    exact .partialPoint axes same lengths whole
  exact result_of_shaped ⟨axes, same, lengths, whole⟩

/-! ## One result only -/

theorem AxisHas.not_passes {point axis : Nat} {expectedValue actualValue tolerance : Float}
    (has : AxisHas expected actual tolerances dimension modifier calculation point axis
      expectedValue actualValue tolerance)
    (fails : ¬Passes expectedValue actualValue tolerance) :
    ¬AxisPasses expected actual tolerances dimension modifier calculation point axis := by
  rintro ⟨e, a, t, other, passes⟩
  have sameExpected := has.expected_eq.symm.trans other.expected_eq
  have sameActual := has.actual_eq.symm.trans other.actual_eq
  have sameTolerance := has.tolerance_eq.symm.trans other.tolerance_eq
  cases sameExpected
  cases sameActual
  cases sameTolerance
  exact fails passes

theorem Reports.not_agree {failure : ComparisonFailure}
    (reports : Reports expected actual tolerances dimension modifier calculation failure) :
    ¬Agree expected actual tolerances dimension modifier calculation := fun agree =>
  reports.has.not_passes reports.fails
    (agree.passes failure.point reports.point_lt failure.axis reports.axis_lt)

/-- Of two pairs of point and axis, the earlier one would have to pass. -/
theorem Reports.unique {first second : ComparisonFailure}
    (left : Reports expected actual tolerances dimension modifier calculation first)
    (right : Reports expected actual tolerances dimension modifier calculation second) :
    first = second := by
  have notBefore : ¬(first.point < second.point ∨
      first.point = second.point ∧ first.axis < second.axis) := fun before =>
    left.has.not_passes left.fails (right.first _ _ left.axis_lt before)
  have notAfter : ¬(second.point < first.point ∨
      second.point = first.point ∧ second.axis < first.axis) := fun after =>
    right.has.not_passes right.fails (left.first _ _ right.axis_lt after)
  have samePoint : first.point = second.point := by omega
  have sameAxis : first.axis = second.axis := by omega
  have leftHas := left.has
  rw [samePoint, sameAxis] at leftHas
  have sameExpected := Option.some.inj (leftHas.expected_eq.symm.trans right.has.expected_eq)
  have sameActual := Option.some.inj (leftHas.actual_eq.symm.trans right.has.actual_eq)
  have sameTolerance := Option.some.inj (leftHas.tolerance_eq.symm.trans right.has.tolerance_eq)
  have sameDeviation : first.deviation = second.deviation := by
    rw [left.deviation_eq, right.deviation_eq, sameExpected, sameActual]
  have sameCalculation := left.calculation_eq.trans right.calculation_eq.symm
  cases first
  cases second
  simp_all

theorem Result.unique {first second : Except ConformanceError Unit}
    (left : Result expected actual tolerances dimension modifier calculation first)
    (right : Result expected actual tolerances dimension modifier calculation second) :
    first = second := by
  cases left with
  | noAxes zero =>
      cases right with
      | noAxes => rfl
      | agree agree => exact absurd zero agree.shaped.axes
      | reports _ reports => exact absurd zero reports.shaped.axes
      | _ => contradiction
  | tolerances axes differ =>
      cases right with
      | tolerances => rfl
      | agree agree => exact absurd agree.shaped.tolerances_length differ
      | reports _ reports => exact absurd reports.shaped.tolerances_length differ
      | _ => contradiction
  | lengths axes same differ =>
      cases right with
      | lengths => rfl
      | agree agree => exact absurd agree.shaped.lengths differ
      | reports _ reports => exact absurd reports.shaped.lengths differ
      | _ => contradiction
  | partialPoint axes same lengths rest =>
      cases right with
      | partialPoint => rfl
      | agree agree => exact absurd agree.shaped.wholePoints rest
      | reports _ reports => exact absurd reports.shaped.wholePoints rest
      | _ => contradiction
  | agree agree =>
      obtain ⟨axes, same, lengths, whole⟩ := agree.shaped
      cases right with
      | agree => rfl
      | reports _ reports => exact absurd agree reports.not_agree
      | _ => contradiction
  | reports _ reports =>
      obtain ⟨axes, same, lengths, whole⟩ := reports.shaped
      cases right with
      | agree agree => exact absurd agree reports.not_agree
      | reports _ other => rw [reports.unique other]
      | _ => contradiction

/-- A comparison passes if every axis does. -/
theorem agree_iff :
    compareWithModifier expected actual tolerances dimension modifier calculation = .ok () ↔
      Agree expected actual tolerances dimension modifier calculation := by
  constructor
  · intro ok
    have result : Result expected actual tolerances dimension modifier calculation
        (compareWithModifier expected actual tolerances dimension modifier calculation) :=
      result_compareWithModifier
    rw [ok] at result
    cases result with
    | agree agree => exact agree
  · intro agree
    exact result_compareWithModifier.unique (.agree agree)

/-- The result of a comparison is the only possible one. -/
theorem error_iff {e : ConformanceError} :
    compareWithModifier expected actual tolerances dimension modifier calculation = .error e ↔
      Result expected actual tolerances dimension modifier calculation (.error e) := by
  constructor
  · intro error
    exact error ▸ result_compareWithModifier
  · exact result_compareWithModifier.unique

/-- A failure is found if it describes the first axis that does not pass. -/
theorem reports_iff {failure : ComparisonFailure} :
    compareWithModifier expected actual tolerances dimension modifier calculation =
        .error (.toleranceExceeded failure) ↔
      Reports expected actual tolerances dimension modifier calculation failure := by
  rw [error_iff]
  constructor
  · intro result
    cases result with
    | reports _ reports => exact reports
  · exact .reports failure

/-- A value passes against itself, whatever the tolerance. -/
theorem passes_refl (x tolerance : Float) : Passes x x tolerance := by
  by_cases nan : x.isNaN = true
  · exact Or.inr (Or.inl ⟨nan, nan⟩)
  · rw [Bool.not_eq_true] at nan
    exact Or.inl (Binary64.beq_iff.mpr ⟨nan, nan, rfl⟩)

theorem agree_refl (shaped : Shaped expected expected tolerances dimension) :
    Agree expected expected tolerances dimension modifier calculation := by
  refine ⟨shaped, fun point whole axis less => ?_⟩
  obtain ⟨e, a, t, has⟩ : ∃ e a t,
      AxisHas expected expected tolerances dimension modifier calculation point axis e a t :=
    exists_axisHas shaped whole less
  have same := has.expected_eq.symm.trans has.actual_eq
  cases same
  exact ⟨e, e, t, has, passes_refl e t⟩

end Lemmas

/-- What a comparison returns, for all arguments. The first shape that does not fit is reported;
otherwise all axes pass, or the first one that does not pass is reported. Coordinates that are
compared with themselves pass, with whatever tolerances and modifier, unless a shape does not
fit. -/
theorem compareWithModifier_eq_iff (expected actual tolerances : List Float) (dimension : Nat)
    (modifier : ToleranceModifier) (calculation : Calculation) :
    (∀ result, compareWithModifier expected actual tolerances dimension modifier calculation =
        result ↔
      Result expected actual tolerances dimension modifier calculation result) ∧
    (compareWithModifier expected expected tolerances dimension modifier calculation = .ok () ↔
      dimension ≠ 0 ∧ tolerances.length = dimension ∧ dimension ∣ expected.length) := by
  refine ⟨fun result => ⟨?_, result_compareWithModifier.unique⟩, ?_, ?_⟩
  · rintro rfl
    exact result_compareWithModifier
  · intro ok
    have shaped := (agree_iff.mp ok).shaped
    exact ⟨shaped.axes, shaped.tolerances_length, shaped.wholePoints⟩
  · rintro ⟨axes, same, whole⟩
    exact agree_iff.mpr (agree_refl ⟨axes, same, rfl, whole⟩)

end CoordinateConformance.Comparison
