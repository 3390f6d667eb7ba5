import CoordinateConformance.Proofs.Comparison.Result

/-!
Contract: comparing lists of points part by part.

The loop over the points carries nothing from one point to the next but the index. So a comparison
of two lists put together is a comparison of the first and, if that passes, one of the second, whose
points are counted behind those of the first. It follows that a comparison may be cut into blocks
anywhere between two points, and that what is found at a point is what a comparison of that point
alone finds.

Owns: `ComparisonFailure.behind`, `Comparison.behind`, `compareInBlocks`, `comparePoint`,
`Compositional`, `compositional`.

Does **not** own: shapes that a comparison refuses.
-/

namespace CoordinateConformance

open Comparison

/-- The same failure, its point counted behind other points. -/
def ComparisonFailure.behind (count : Nat) (failure : ComparisonFailure) : ComparisonFailure :=
  { failure with point := count + failure.point }

/-- The result of comparing points that stand behind others. -/
def Comparison.behind (count : Nat) :
    Except ConformanceError Unit → Except ConformanceError Unit
  | .error (.toleranceExceeded failure) => .error (.toleranceExceeded (failure.behind count))
  | result => result

section Definitions

variable (tolerances : List Float) (dimension : Nat) (modifier : ToleranceModifier)
  (calculation : Calculation)

/-- Cuts off one block after another, given their numbers of points, and compares each by itself. -/
def compareInBlocks :
    List Nat → List Float → List Float → Except ConformanceError Unit
  | [], expected, actual =>
      compareWithModifier expected actual tolerances dimension modifier calculation
  | size :: sizes, expected, actual => do
      compareWithModifier (expected.take (size * dimension)) (actual.take (size * dimension))
        tolerances dimension modifier calculation
      behind size
        (compareInBlocks sizes (expected.drop (size * dimension))
          (actual.drop (size * dimension)))

/-- The comparison of one point alone. -/
def comparePoint (expected actual : List Float) (point : Nat) : Except ConformanceError Unit :=
  compareWithModifier (coordinate dimension expected point) (coordinate dimension actual point)
    tolerances dimension modifier calculation

/-- A comparison is made up of comparisons of its parts. -/
structure Compositional : Prop where
  append : ∀ {expected actual expectedRest actualRest : List Float},
    Shaped expected actual tolerances dimension →
    Shaped expectedRest actualRest tolerances dimension →
    compareWithModifier (expected ++ expectedRest) (actual ++ actualRest) tolerances dimension
        modifier calculation = do
      compareWithModifier expected actual tolerances dimension modifier calculation
      behind (expected.length / dimension)
        (compareWithModifier expectedRest actualRest tolerances dimension modifier calculation)
  inBlocks : ∀ (sizes : List Nat) {expected actual : List Float},
    Shaped expected actual tolerances dimension →
    compareInBlocks tolerances dimension modifier calculation sizes expected actual =
      compareWithModifier expected actual tolerances dimension modifier calculation
  passes_iff : ∀ {expected actual : List Float}, Shaped expected actual tolerances dimension →
    (compareWithModifier expected actual tolerances dimension modifier calculation = .ok () ↔
      ∀ point < expected.length / dimension,
        comparePoint tolerances dimension modifier calculation expected actual point = .ok ())
  fails_iff : ∀ {expected actual : List Float}, Shaped expected actual tolerances dimension →
    ∀ failure : ComparisonFailure,
      (compareWithModifier expected actual tolerances dimension modifier calculation =
          .error (.toleranceExceeded failure) ↔
        failure.point < expected.length / dimension ∧
        comparePoint tolerances dimension modifier calculation expected actual failure.point =
          .error (.toleranceExceeded { failure with point := 0 }) ∧
        ∀ point < failure.point,
          comparePoint tolerances dimension modifier calculation expected actual point = .ok ())

end Definitions

namespace Comparison

/-! ## The loops, counted from a later point -/

theorem failingAxis_behind (calculation : Calculation) (count point axis : Nat)
    (expected actual tolerances : List Float) :
    failingAxis calculation (count + point) axis expected actual tolerances =
      (failingAxis calculation point axis expected actual tolerances).map
        (ComparisonFailure.behind count) := by
  induction axis, expected, actual, tolerances using failingAxis.induct with
  | case1 axis e expected a actual t tolerances within inductionHypothesis =>
      rw [failingAxis, failingAxis, if_pos within, if_pos within]
      exact inductionHypothesis
  | case2 axis e expected a actual t tolerances outside =>
      rw [failingAxis, failingAxis, if_neg outside, if_neg outside]
      rfl
  | case3 expected axis actual tolerances exhausted =>
      rw [failingAxis.eq_2 _ _ _ _ _ _ exhausted, failingAxis.eq_2 _ _ _ _ _ _ exhausted]
      rfl

section Loop

variable (modifier : ToleranceModifier) {tolerances : List Float} (calculation : Calculation)

theorem comparePoints_behind (count point : Nat) (expected actual : List (List Float))
    (lengths : ∀ coordinate ∈ actual, coordinate.length = tolerances.length) :
    comparePoints modifier tolerances calculation (count + point) expected actual =
      behind count (comparePoints modifier tolerances calculation point expected actual) := by
  induction point, expected, actual using comparePoints.induct with
  | case1 point e expected a actual inductionHypothesis =>
      rw [List.forall_mem_cons] at lengths
      rw [comparePoints_cons modifier calculation _ _ _ lengths.1,
        comparePoints_cons modifier calculation _ _ _ lengths.1, failingAxis_behind]
      cases failingAxis calculation point 0 e a (adjusted modifier tolerances calculation a) with
      | some failure => rfl
      | none => exact inductionHypothesis lengths.2
  | case2 expected point actual exhausted =>
      rw [comparePoints.eq_2 _ _ _ _ _ _ exhausted, comparePoints.eq_2 _ _ _ _ _ _ exhausted]
      rfl

/-- The second part of the points is compared if the first part passes. -/
theorem comparePoints_append (point : Nat) {expected actual : List (List Float)}
    (expectedRest actualRest : List (List Float)) (same : expected.length = actual.length)
    (lengths : ∀ coordinate ∈ actual, coordinate.length = tolerances.length) :
    comparePoints modifier tolerances calculation point (expected ++ expectedRest)
        (actual ++ actualRest) =
      (do
        comparePoints modifier tolerances calculation point expected actual
        comparePoints modifier tolerances calculation (point + expected.length) expectedRest
          actualRest) := by
  induction expected generalizing point actual with
  | nil =>
      obtain rfl := List.length_eq_zero_iff.mp same.symm
      rfl
  | cons e expected inductionHypothesis =>
      obtain ⟨a, actual, rfl⟩ := List.exists_cons_of_length_eq_add_one same.symm
      rw [List.forall_mem_cons] at lengths
      rw [List.cons_append, List.cons_append,
        comparePoints_cons modifier calculation _ _ _ lengths.1,
        comparePoints_cons modifier calculation _ _ _ lengths.1]
      cases failingAxis calculation point 0 e a (adjusted modifier tolerances calculation a) with
      | some failure => rfl
      | none =>
          have rest := inductionHypothesis (point + 1) (Nat.succ.inj same) lengths.2
          rw [List.length_cons, Nat.add_comm expected.length, ← Nat.add_assoc]
          exact rest

end Loop

/-! ## Points of lists put together -/

theorem runs_append {α : Type} {size count : Nat} {first : List α} (second : List α)
    (rest : Nat) (length : first.length = count * size) :
    runs size (count + rest) (first ++ second) =
      runs size count first ++ runs size rest second := by
  induction count generalizing first with
  | zero =>
      obtain rfl := List.length_eq_zero_iff.mp (length.trans (Nat.zero_mul size))
      rw [Nat.zero_add]
      rfl
  | succ count inductionHypothesis =>
      rw [Nat.succ_mul] at length
      have atLeast : size ≤ first.length := by omega
      have dropped : (first.drop size).length = count * size := by
        rw [List.length_drop]
        omega
      rw [Nat.succ_add, runs, runs, List.take_append_of_le_length atLeast,
        List.drop_append_of_le_length atLeast, inductionHypothesis dropped, List.cons_append]

theorem points_append {dimension : Nat} {first : List Float} (second : List Float)
    (whole : dimension ∣ first.length) :
    points dimension (first ++ second) = points dimension first ++ points dimension second := by
  unfold points
  rw [List.length_append, Nat.add_div_of_dvd_right whole]
  exact runs_append second _ (Nat.div_mul_cancel whole).symm

/-! ## One point alone -/

section Point

variable {expected actual tolerances : List Float} {dimension : Nat}
  {modifier : ToleranceModifier} {calculation : Calculation}

/-- A single point has its coordinate at index zero. -/
theorem coordinate_coordinate (values : List Float) (point : Nat) :
    coordinate dimension (coordinate dimension values point) 0 =
      coordinate dimension values point := by
  simp [coordinate]

theorem getElem?_single (values : List Float) {point axis : Nat} (less : axis < dimension) :
    (coordinate dimension values point)[0 * dimension + axis]? =
      values[point * dimension + axis]? := by
  rw [Nat.zero_mul, Nat.zero_add, getElem?_coordinate values less]

theorem axisHas_single_iff {point axis : Nat} (less : axis < dimension)
    {expectedValue actualValue tolerance : Float} :
    AxisHas (coordinate dimension expected point) (coordinate dimension actual point) tolerances
        dimension modifier calculation 0 axis expectedValue actualValue tolerance ↔
      AxisHas expected actual tolerances dimension modifier calculation point axis expectedValue
        actualValue tolerance := by
  constructor
  · rintro ⟨expectedEq, actualEq, toleranceEq⟩
    rw [getElem?_single _ less] at expectedEq actualEq
    rw [coordinate_coordinate] at toleranceEq
    exact ⟨expectedEq, actualEq, toleranceEq⟩
  · rintro ⟨expectedEq, actualEq, toleranceEq⟩
    rw [← getElem?_single _ less] at expectedEq actualEq
    rw [← coordinate_coordinate] at toleranceEq
    exact ⟨expectedEq, actualEq, toleranceEq⟩

theorem axisPasses_single_iff {point axis : Nat} (less : axis < dimension) :
    AxisPasses (coordinate dimension expected point) (coordinate dimension actual point)
        tolerances dimension modifier calculation 0 axis ↔
      AxisPasses expected actual tolerances dimension modifier calculation point axis := by
  unfold AxisPasses
  simp only [axisHas_single_iff less]

variable (shaped : Shaped expected actual tolerances dimension)

include shaped

theorem Shaped.single {point : Nat} (whole : point < expected.length / dimension) :
    Shaped (coordinate dimension expected point) (coordinate dimension actual point) tolerances
      dimension := by
  have expectedLength := length_coordinate whole
  have actualLength := length_coordinate (shaped.lengths ▸ whole)
  exact ⟨shaped.axes, shaped.tolerances_length, expectedLength.trans actualLength.symm,
    Dvd.intro_left 1 ((Nat.one_mul dimension).trans expectedLength.symm)⟩

theorem number_single {point : Nat} (whole : point < expected.length / dimension) :
    (coordinate dimension expected point).length / dimension = 1 := by
  rw [length_coordinate whole, Nat.div_self (Nat.pos_of_ne_zero shaped.axes)]

/-- A point passes alone if its axes pass among the others. -/
theorem comparePoint_eq_ok_iff {point : Nat} (whole : point < expected.length / dimension) :
    comparePoint tolerances dimension modifier calculation expected actual point = .ok () ↔
      ∀ axis < dimension,
        AxisPasses expected actual tolerances dimension modifier calculation point axis := by
  unfold comparePoint
  rw [agree_iff]
  constructor
  · intro agree axis less
    have zero := (number_single shaped whole).symm ▸ Nat.one_pos
    exact (axisPasses_single_iff less).mp (agree.passes 0 zero axis less)
  · intro passes
    refine ⟨shaped.single whole, fun index less axis axisLess => ?_⟩
    rw [number_single shaped whole, Nat.lt_one_iff] at less
    subst less
    exact (axisPasses_single_iff axisLess).mpr (passes axis axisLess)

/-- A failure is found if the comparison of its point alone finds it, and no earlier point fails
alone. -/
theorem reports_iff_comparePoint {failure : ComparisonFailure} :
    Reports expected actual tolerances dimension modifier calculation failure ↔
      failure.point < expected.length / dimension ∧
      comparePoint tolerances dimension modifier calculation expected actual failure.point =
        .error (.toleranceExceeded { failure with point := 0 }) ∧
      ∀ point < failure.point,
        comparePoint tolerances dimension modifier calculation expected actual point = .ok () := by
  constructor
  · intro reports
    have whole := reports.point_lt
    have zero := (number_single shaped whole).symm ▸ Nat.one_pos
    refine ⟨whole, reports_iff.mpr ⟨shaped.single whole, zero, reports.axis_lt,
      (axisHas_single_iff reports.axis_lt).mpr reports.has, reports.fails, reports.deviation_eq,
      reports.calculation_eq, ?_⟩, ?_⟩
    · rintro point axis less (before | ⟨rfl, before⟩)
      · exact absurd before (Nat.not_lt_zero point)
      · exact (axisPasses_single_iff less).mpr
          (reports.first failure.point axis less (Or.inr ⟨rfl, before⟩))
    · intro point before
      exact (comparePoint_eq_ok_iff shaped (before.trans whole)).mpr fun axis less =>
        reports.first point axis less (Or.inl before)
  · rintro ⟨whole, fails, earlier⟩
    have single := reports_iff.mp fails
    refine ⟨shaped, whole, single.axis_lt, (axisHas_single_iff single.axis_lt).mp single.has,
      single.fails, single.deviation_eq, single.calculation_eq, ?_⟩
    rintro point axis less (before | ⟨rfl, before⟩)
    · exact (comparePoint_eq_ok_iff shaped (before.trans whole)).mp (earlier point before) axis less
    · exact (axisPasses_single_iff less).mp (single.first 0 axis less (Or.inr ⟨rfl, before⟩))

end Point

end Comparison

/-! ## Whole comparisons -/

section Comparisons

variable {expected actual tolerances : List Float} {dimension : Nat}
  {modifier : ToleranceModifier} {calculation : Calculation}

theorem Comparison.Shaped.append {expectedRest actualRest : List Float}
    (shaped : Shaped expected actual tolerances dimension)
    (shapedRest : Shaped expectedRest actualRest tolerances dimension) :
    Shaped (expected ++ expectedRest) (actual ++ actualRest) tolerances dimension := by
  refine ⟨shaped.axes, shaped.tolerances_length, ?_, ?_⟩
  · rw [List.length_append, List.length_append, shaped.lengths, shapedRest.lengths]
  · rw [List.length_append]
    exact Nat.dvd_add shaped.wholePoints shapedRest.wholePoints

theorem compareWithModifier_append {expectedRest actualRest : List Float}
    (shaped : Shaped expected actual tolerances dimension)
    (shapedRest : Shaped expectedRest actualRest tolerances dimension) :
    compareWithModifier (expected ++ expectedRest) (actual ++ actualRest) tolerances dimension
        modifier calculation =
      (do
        compareWithModifier expected actual tolerances dimension modifier calculation
        behind (expected.length / dimension)
          (compareWithModifier expectedRest actualRest tolerances dimension modifier
            calculation)) := by
  have actualWhole : dimension ∣ actual.length := shaped.lengths ▸ shaped.wholePoints
  have same : (points dimension expected).length = (points dimension actual).length := by
    rw [length_points, length_points, shaped.lengths]
  have later := comparePoints_behind modifier calculation (expected.length / dimension) 0
    (points dimension expectedRest) (points dimension actualRest) shapedRest.length_of_mem
  rw [compareWithModifier_of_shaped (shaped.append shapedRest),
    compareWithModifier_of_shaped shaped, compareWithModifier_of_shaped shapedRest,
    points_append expectedRest shaped.wholePoints, points_append actualRest actualWhole,
    comparePoints_append modifier calculation 0 _ _ same shaped.length_of_mem, length_points,
    Nat.zero_add, ← later, Nat.add_zero]

/-- Both parts of a list of whole points are whole points. -/
theorem Comparison.Shaped.take_drop (shaped : Shaped expected actual tolerances dimension)
    (size : Nat) :
    Shaped (expected.take (size * dimension)) (actual.take (size * dimension)) tolerances
        dimension ∧
      Shaped (expected.drop (size * dimension)) (actual.drop (size * dimension)) tolerances
        dimension := by
  obtain ⟨axes, same, lengths, whole⟩ := shaped
  refine ⟨⟨axes, same, ?_, ?_⟩, ⟨axes, same, ?_, ?_⟩⟩
  · rw [List.length_take, List.length_take, lengths]
  · rw [List.length_take]
    rcases le_total (size * dimension) expected.length with within | beyond
    · rw [Nat.min_eq_left within]
      exact Nat.dvd_mul_left dimension size
    · rwa [Nat.min_eq_right beyond]
  · rw [List.length_drop, List.length_drop, lengths]
  · rw [List.length_drop]
    exact Nat.dvd_sub whole (Nat.dvd_mul_left dimension size)

/-- Behind a block that takes all points, there is nothing that could fail. -/
theorem behind_drop (shaped : Shaped expected actual tolerances dimension) (size : Nat) :
    behind ((expected.take (size * dimension)).length / dimension)
        (compareWithModifier (expected.drop (size * dimension)) (actual.drop (size * dimension))
          tolerances dimension modifier calculation) =
      behind size
        (compareWithModifier (expected.drop (size * dimension)) (actual.drop (size * dimension))
          tolerances dimension modifier calculation) := by
  rcases le_total (size * dimension) expected.length with within | beyond
  · rw [List.length_take_of_le within, Nat.mul_div_cancel size (Nat.pos_of_ne_zero shaped.axes)]
  · have rest := (shaped.take_drop size).2
    have beyondActual := shaped.lengths ▸ beyond
    rw [List.drop_of_length_le beyond, List.drop_of_length_le beyondActual] at rest ⊢
    rw [agree_iff.mpr (agree_refl rest)]
    rfl

/-- By induction on the blocks: what is left behind a block is again a list of whole points. -/
theorem compareInBlocks_eq (sizes : List Nat)
    (shaped : Shaped expected actual tolerances dimension) :
    compareInBlocks tolerances dimension modifier calculation sizes expected actual =
      compareWithModifier expected actual tolerances dimension modifier calculation := by
  induction sizes generalizing expected actual with
  | nil => rfl
  | cons size sizes inductionHypothesis =>
      obtain ⟨first, rest⟩ := shaped.take_drop size
      rw [compareInBlocks, inductionHypothesis rest, ← behind_drop shaped,
        ← compareWithModifier_append first rest, List.take_append_drop, List.take_append_drop]

/-- The points pass together if each passes alone. -/
theorem passes_iff_comparePoint (shaped : Shaped expected actual tolerances dimension) :
    compareWithModifier expected actual tolerances dimension modifier calculation = .ok () ↔
      ∀ point < expected.length / dimension,
        comparePoint tolerances dimension modifier calculation expected actual point = .ok () := by
  rw [agree_iff]
  constructor
  · intro agree point whole
    exact (comparePoint_eq_ok_iff shaped whole).mpr (agree.passes point whole)
  · intro passes
    exact ⟨shaped, fun point whole => (comparePoint_eq_ok_iff shaped whole).mp (passes point whole)⟩

end Comparisons

/-- Whatever the modifier makes of the tolerances, the points of two lists put together are compared
as those of the first and then those of the second, blocks of any sizes are compared as the whole,
and a point passes or fails as it does alone. -/
theorem compositional (tolerances : List Float) (dimension : Nat) (modifier : ToleranceModifier)
    (calculation : Calculation) : Compositional tolerances dimension modifier calculation where
  append := compareWithModifier_append
  inBlocks sizes _ _ shaped := compareInBlocks_eq sizes shaped
  passes_iff := passes_iff_comparePoint
  fails_iff shaped _ := reports_iff.trans (reports_iff_comparePoint shaped)

/-- The first point of the second list is the second point of the two lists put together. -/
theorem compositional_secondBlock :
    Shaped [1.0, 2.0] [1.0, 2.0] [0.5, 0.5] 2 ∧ Shaped [3.0, 4.0] [3.0, 5.0] [0.5, 0.5] 2 ∧
      compareWithModifier ([1.0, 2.0] ++ [3.0, 4.0]) ([1.0, 2.0] ++ [3.0, 5.0]) [0.5, 0.5] 2
          .identity .direct =
        .error (.toleranceExceeded ⟨1, 1, 4.0, 5.0, 1.0, 0.5, .direct⟩) := by
  have first : Shaped [1.0, 2.0] [1.0, 2.0] [0.5, 0.5] 2 := ⟨by decide, rfl, rfl, by decide⟩
  have second : Shaped [3.0, 4.0] [3.0, 5.0] [0.5, 0.5] 2 :=
    ⟨by decide, rfl, by simp, by decide⟩
  refine ⟨first, second, ?_⟩
  rw [(compositional _ _ _ _).append first second]
  rfl

end CoordinateConformance
