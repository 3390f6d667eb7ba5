import CoordinateConformance.Proofs.Comparison.Result

/-!
Contract: the two orders of geographic axes.

A conversion to degrees exists for either order: latitude or longitude first. Exchanging the first
two axes of the tolerances and of every point takes one to the other. Axes from the third on belong
to neither angle and keep their tolerances.

The two comparisons look at the first two axes of a point in different orders. So they fail at the
same point, but if both of these axes fail, each reports the one that it looks at first; otherwise
they report the same values. `SameFailure` says which axis each reports.

Owns: `swapAxes`, `swapPoints`, `SameFailure`, `SameVerdict`, `OrdersAgree`, `ordersAgree`.

Does **not** own: what the length of a degree is.
-/

namespace CoordinateConformance

open Comparison

/-! ## Exchanged axes -/

/-- The first two values exchanged. -/
def swapAxes : List Float → List Float
  | first :: second :: rest => second :: first :: rest
  | values => values

@[simp]
theorem length_swapAxes (values : List Float) : (swapAxes values).length = values.length := by
  match values with
  | [] => rfl
  | [_] => rfl
  | _ :: _ :: _ => rfl

@[simp]
theorem swapAxes_swapAxes (values : List Float) : swapAxes (swapAxes values) = values := by
  match values with
  | [] => rfl
  | [_] => rfl
  | _ :: _ :: _ => rfl

/-- The first two axes of every point exchanged; values behind the last whole point stay. -/
def swapPoints (dimension : Nat) (values : List Float) : List Float :=
  ((points dimension values).map swapAxes).flatten ++
    values.drop (values.length / dimension * dimension)

/-! ## Points of exchanged axes -/

theorem length_of_mem_map_swapAxes {dimension : Nat} {values : List Float} :
    ∀ point ∈ (points dimension values).map swapAxes, point.length = dimension := by
  intro point mem
  obtain ⟨original, originalMem, rfl⟩ := List.mem_map.mp mem
  rw [length_swapAxes, length_of_mem_points originalMem]

@[simp]
theorem length_swapPoints (dimension : Nat) (values : List Float) :
    (swapPoints dimension values).length = values.length := by
  have whole := Nat.div_mul_le_self values.length dimension
  unfold swapPoints
  rw [List.length_append, length_flatten_of_uniform length_of_mem_map_swapAxes, List.length_map,
    length_points, List.length_drop]
  omega

theorem points_swapPoints (dimension : Nat) (values : List Float) :
    points dimension (swapPoints dimension values) =
      (points dimension values).map swapAxes := by
  have count : (swapPoints dimension values).length / dimension =
      ((points dimension values).map swapAxes).length := by
    rw [length_swapPoints, List.length_map, length_points]
  calc points dimension (swapPoints dimension values)
      = runs dimension ((points dimension values).map swapAxes).length
          (swapPoints dimension values) := by rw [points, count]
    _ = (points dimension values).map swapAxes :=
        runs_flatten_append length_of_mem_map_swapAxes _

/-! ## Conversions to degrees -/

/-- The conversion for latitudes before longitudes. -/
def latitudeFirst (inverseOnly : Bool) : MetresToDegrees :=
  ⟨1, 0, inverseOnly⟩

/-- The conversion for longitudes before latitudes. -/
def longitudeFirst (inverseOnly : Bool) : MetresToDegrees :=
  ⟨0, 1, inverseOnly⟩

/-- A point has no axis, one axis, or two and some more. -/
theorem exists_cons_cons {values : List Float} {count : Nat} (length : values.length = count + 2) :
    ∃ first second rest, values = first :: second :: rest ∧ rest.length = count := by
  match values with
  | [] => simp at length
  | [_] => simp at length
  | first :: second :: rest => exact ⟨first, second, rest, rfl, by simpa using length⟩

section Conversions

variable {functions : ElementaryFunctions Float} {inverseOnly : Bool}
  {tolerances coordinate : List Float} {calculation : Calculation}

/-- Exchanged axes have the exchanged tolerances. -/
theorem apply_swapAxes (lengths : coordinate.length = tolerances.length) :
    (longitudeFirst inverseOnly).apply functions (swapAxes tolerances) (swapAxes coordinate)
        calculation =
      swapAxes ((latitudeFirst inverseOnly).apply functions tolerances coordinate
        calculation) := by
  unfold MetresToDegrees.apply longitudeFirst latitudeFirst
  by_cases unaffected : inverseOnly = true ∧ calculation ≠ .inverse
  · simp only [if_pos unaffected]
  · simp only [if_neg unaffected]
    match tolerances with
    | [] =>
        obtain rfl := List.length_eq_zero_iff.mp lengths
        rfl
    | [_] =>
        obtain ⟨angle, rfl⟩ := List.length_eq_one_iff.mp lengths
        rfl
    | _ :: _ :: _ =>
        obtain ⟨latitude, longitude, rest, rfl, _⟩ := exists_cons_cons lengths
        simp [swapAxes]

theorem adjusted_swapAxes (lengths : coordinate.length = tolerances.length) :
    adjusted (.metresToDegrees functions (longitudeFirst inverseOnly)) (swapAxes tolerances)
        calculation (swapAxes coordinate) =
      swapAxes (adjusted (.metresToDegrees functions (latitudeFirst inverseOnly)) tolerances
        calculation coordinate) := by
  cases calculation with
  | strict => rfl
  | _ => exact apply_swapAxes lengths

theorem adjust_swapAxes :
    (ToleranceModifier.metresToDegrees functions (latitudeFirst inverseOnly)).adjust tolerances
        coordinate calculation =
      ((ToleranceModifier.metresToDegrees functions (longitudeFirst inverseOnly)).adjust
        (swapAxes tolerances) (swapAxes coordinate) calculation).map swapAxes := by
  by_cases lengths : coordinate.length = tolerances.length
  · have swapped : (swapAxes coordinate).length = (swapAxes tolerances).length := by
      rw [length_swapAxes, length_swapAxes, lengths]
    rw [adjust_eq lengths, adjust_eq swapped, adjusted_swapAxes lengths, Except.map,
      swapAxes_swapAxes]
  · have swapped : (swapAxes coordinate).length ≠ (swapAxes tolerances).length := by
      rw [length_swapAxes, length_swapAxes]
      exact lengths
    rw [adjust_of_length_ne lengths, adjust_of_length_ne swapped, length_swapAxes,
      length_swapAxes, Except.map]

/-- Axes from the third on belong to neither angle. -/
theorem getElem?_apply_later {conversion : MetresToDegrees}
    (longitude : conversion.longitudeAxis < 2) (latitude : conversion.latitudeAxis < 2)
    (axis : Nat) :
    (conversion.apply functions tolerances coordinate calculation)[axis + 2]? =
      tolerances[axis + 2]? := by
  have otherLongitude : conversion.longitudeAxis ≠ axis + 2 := by omega
  have otherLatitude : conversion.latitudeAxis ≠ axis + 2 := by omega
  unfold MetresToDegrees.apply
  split
  · rfl
  · split
    · rfl
    · split
      · rfl
      · simp [otherLongitude, otherLatitude]

theorem getElem?_adjusted_later {conversion : MetresToDegrees}
    (longitude : conversion.longitudeAxis < 2) (latitude : conversion.latitudeAxis < 2)
    (axis : Nat) :
    (adjusted (.metresToDegrees functions conversion) tolerances calculation
        coordinate)[axis + 2]? =
      tolerances[axis + 2]? := by
  cases calculation with
  | strict => rfl
  | _ => exact getElem?_apply_later longitude latitude axis

end Conversions

/-! ## Comparisons -/

/-- Failures of comparisons that look at the first two axes of a point in different orders. -/
structure SameFailure (first second : ComparisonFailure) : Prop where
  point_eq : first.point = second.point
  calculation_eq : first.calculation = second.calculation
  /-- A later axis stays the same. An angle that fails alone is found on the other axis. If both
  angles fail, each comparison reports its first axis. -/
  axes : 2 ≤ first.axis ∧ second = first ∨
    first.axis < 2 ∧ second = { first with axis := 1 - first.axis } ∨
    first.axis = 0 ∧ second.axis = 0

/-- Both comparisons pass, refuse the same shape or fail at the same point. -/
inductive SameVerdict : Except ConformanceError Unit → Except ConformanceError Unit → Prop where
  | passed : SameVerdict (.ok ()) (.ok ())
  | misshapen (context : String) (expected actual : Nat) :
      SameVerdict (.error (.dimensionMismatch context expected actual))
        (.error (.dimensionMismatch context expected actual))
  | failed {first second : ComparisonFailure} (same : SameFailure first second) :
      SameVerdict (.error (.toleranceExceeded first)) (.error (.toleranceExceeded second))

theorem SameVerdict.eq_ok_iff {first second : Except ConformanceError Unit}
    (same : SameVerdict first second) : first = .ok () ↔ second = .ok () := by
  cases same <;> simp

/-- Comparisons with the same guard give the same verdict if they do behind the guard. -/
theorem SameVerdict.guard {condition : Prop} [Decidable condition] {context : String}
    {count length : Nat} {first second : Except ConformanceError Unit}
    (same : condition → SameVerdict first second) :
    SameVerdict
      (if condition then first else .error (.dimensionMismatch context count length))
      (if condition then second else .error (.dimensionMismatch context count length)) := by
  by_cases holds : condition
  · simp only [if_pos holds]
    exact same holds
  · simp only [if_neg holds]
    exact .misshapen context count length

/-- Lists of points are compared alike if their first points are, and the other points. -/
theorem SameVerdict.cons {first second : Option ComparisonFailure}
    {firstRest secondRest : Except ConformanceError Unit} :
    Option.Rel SameFailure first second → SameVerdict firstRest secondRest →
      SameVerdict
        (match first with
          | some failure => .error (.toleranceExceeded failure)
          | none => firstRest)
        (match second with
          | some failure => .error (.toleranceExceeded failure)
          | none => secondRest) := by
  intro axes rest
  cases axes with
  | none => exact rest
  | some same => exact .failed same

/-- Behind the first two axes both comparisons see the same values. -/
theorem rel_failingAxis (calculation : Calculation) (point : Nat) {axis : Nat} (later : 2 ≤ axis)
    (expected actual tolerances : List Float) :
    Option.Rel SameFailure (failingAxis calculation point axis expected actual tolerances)
      (failingAxis calculation point axis expected actual tolerances) := by
  rcases failingAxis_spec calculation point axis expected actual tolerances with
    ⟨none, _⟩ | ⟨count, e, a, t, some, _⟩
  · rw [none]
    exact .none
  · rw [some]
    exact .some ⟨rfl, rfl, Or.inl ⟨later.trans (Nat.le_add_right axis count), rfl⟩⟩

theorem rel_failingAxis_swapAxes (calculation : Calculation) (point : Nat)
    {expected actual tolerances : List Float} (lengths : expected.length = tolerances.length)
    (lengthsToo : actual.length = tolerances.length) :
    Option.Rel SameFailure (failingAxis calculation point 0 expected actual tolerances)
      (failingAxis calculation point 0 (swapAxes expected) (swapAxes actual)
        (swapAxes tolerances)) := by
  match tolerances with
  | [] =>
      obtain rfl := List.length_eq_zero_iff.mp lengths
      exact .none
  | [t] =>
      obtain ⟨e, rfl⟩ := List.length_eq_one_iff.mp lengths
      obtain ⟨a, rfl⟩ := List.length_eq_one_iff.mp lengthsToo
      simp only [swapAxes, failingAxis]
      split
      · exact .none
      · exact .some ⟨rfl, rfl, Or.inr (Or.inr ⟨rfl, rfl⟩)⟩
  | t :: t' :: tolerances =>
      obtain ⟨e, e', expected, rfl, _⟩ := exists_cons_cons lengths
      obtain ⟨a, a', actual, rfl, _⟩ := exists_cons_cons lengthsToo
      by_cases first : isWithinTolerance e a t = true
      · by_cases second : isWithinTolerance e' a' t' = true
        · simp only [swapAxes, failingAxis, if_pos first, if_pos second]
          exact rel_failingAxis calculation point (le_refl 2) expected actual tolerances
        · simp only [swapAxes, failingAxis, if_pos first, if_neg second]
          exact .some ⟨rfl, rfl, Or.inr (Or.inl ⟨Nat.one_lt_two, rfl⟩)⟩
      · by_cases second : isWithinTolerance e' a' t' = true
        · simp only [swapAxes, failingAxis, if_neg first, if_pos second]
          exact .some ⟨rfl, rfl, Or.inr (Or.inl ⟨Nat.two_pos, rfl⟩)⟩
        · simp only [swapAxes, failingAxis, if_neg first, if_neg second]
          exact .some ⟨rfl, rfl, Or.inr (Or.inr ⟨rfl, rfl⟩)⟩

section Comparisons

variable {functions : ElementaryFunctions Float} {inverseOnly : Bool} {tolerances : List Float}
  {calculation : Calculation}

theorem sameVerdict_comparePoints (point : Nat) {expected actual : List (List Float)}
    (expectedLengths : ∀ coordinate ∈ expected, coordinate.length = tolerances.length)
    (actualLengths : ∀ coordinate ∈ actual, coordinate.length = tolerances.length) :
    SameVerdict
      (comparePoints (.metresToDegrees functions (latitudeFirst inverseOnly)) tolerances
        calculation point expected actual)
      (comparePoints (.metresToDegrees functions (longitudeFirst inverseOnly))
        (swapAxes tolerances) calculation point (expected.map swapAxes)
        (actual.map swapAxes)) := by
  induction expected generalizing point actual with
  | nil => exact .passed
  | cons expectedPoint expected inductionHypothesis =>
      cases actual with
      | nil => exact .passed
      | cons actualPoint actual =>
          rw [List.forall_mem_cons] at expectedLengths actualLengths
          obtain ⟨expectedLength, expectedLengths⟩ := expectedLengths
          obtain ⟨actualLength, actualLengths⟩ := actualLengths
          have swappedLength : (swapAxes actualPoint).length = (swapAxes tolerances).length := by
            rw [length_swapAxes, length_swapAxes, actualLength]
          rw [List.map_cons, List.map_cons, comparePoints_cons _ _ _ _ _ actualLength,
            comparePoints_cons _ _ _ _ _ swappedLength, adjusted_swapAxes actualLength]
          apply SameVerdict.cons
          · apply rel_failingAxis_swapAxes
            · rw [length_adjusted, expectedLength]
            · rw [length_adjusted, actualLength]
          · exact inductionHypothesis (point + 1) expectedLengths actualLengths

theorem sameVerdict_compareWithModifier (expected actual : List Float) (dimension : Nat) :
    SameVerdict
      (compareWithModifier expected actual tolerances dimension
        (.metresToDegrees functions (latitudeFirst inverseOnly)) calculation)
      (compareWithModifier (swapPoints dimension expected) (swapPoints dimension actual)
        (swapAxes tolerances) dimension
        (.metresToDegrees functions (longitudeFirst inverseOnly)) calculation) := by
  rw [compareWithModifier_eq_ite, compareWithModifier_eq_ite, length_swapAxes,
    length_swapPoints, length_swapPoints, points_swapPoints, points_swapPoints]
  apply SameVerdict.guard
  intro axes
  apply SameVerdict.guard
  intro same
  apply SameVerdict.guard
  intro lengths
  apply SameVerdict.guard
  intro whole
  have shaped : Shaped expected actual tolerances dimension :=
    ⟨axes, same.symm, lengths, Nat.dvd_of_mod_eq_zero whole⟩
  exact sameVerdict_comparePoints 0 shaped.length_of_mem shaped.length_of_mem

end Comparisons

/-! ## Result -/

/-- Two conversions adjust and compare alike, one with the first two axes exchanged. -/
structure OrdersAgree (functions : ElementaryFunctions Float)
    (conversion exchanged : MetresToDegrees) : Prop where
  adjust_eq : ∀ tolerances coordinate calculation,
    (ToleranceModifier.metresToDegrees functions conversion).adjust tolerances coordinate
        calculation =
      ((ToleranceModifier.metresToDegrees functions exchanged).adjust (swapAxes tolerances)
        (swapAxes coordinate) calculation).map swapAxes
  later_eq : ∀ either ∈ [conversion, exchanged], ∀ tolerances coordinate calculation adjusted,
    (ToleranceModifier.metresToDegrees functions either).adjust tolerances coordinate
        calculation = .ok adjusted →
      ∀ axis : Nat, adjusted[axis + 2]? = tolerances[axis + 2]?
  eq_ok_iff : ∀ expected actual tolerances dimension calculation,
    compareWithModifier expected actual tolerances dimension
        (.metresToDegrees functions conversion) calculation = .ok () ↔
      compareWithModifier (swapPoints dimension expected) (swapPoints dimension actual)
        (swapAxes tolerances) dimension (.metresToDegrees functions exchanged) calculation =
          .ok ()
  sameVerdict : ∀ expected actual tolerances dimension calculation,
    SameVerdict
      (compareWithModifier expected actual tolerances dimension
        (.metresToDegrees functions conversion) calculation)
      (compareWithModifier (swapPoints dimension expected) (swapPoints dimension actual)
        (swapAxes tolerances) dimension (.metresToDegrees functions exchanged) calculation)

theorem ordersAgree_ofInverseOnly (functions : ElementaryFunctions Float) (inverseOnly : Bool) :
    OrdersAgree functions (latitudeFirst inverseOnly) (longitudeFirst inverseOnly) where
  adjust_eq := fun _ _ _ => adjust_swapAxes
  later_eq := by
    intro either listed tolerances coordinate calculation result adjustEq axis
    rw [← (adjust_eq_ok_iff.mp adjustEq).2]
    simp only [List.mem_cons, List.not_mem_nil, or_false] at listed
    apply getElem?_adjusted_later
    · rcases listed with rfl | rfl <;> simp [latitudeFirst, longitudeFirst]
    · rcases listed with rfl | rfl <;> simp [latitudeFirst, longitudeFirst]
  eq_ok_iff := fun expected actual _ dimension _ =>
    (sameVerdict_compareWithModifier expected actual dimension).eq_ok_iff
  sameVerdict := fun expected actual _ dimension _ =>
    sameVerdict_compareWithModifier expected actual dimension

/-- Both pairs of published conversions agree up to the order of the axes: the adjusted tolerances
are the exchanged ones, later axes keep theirs, and comparisons pass alike or fail at the same
point. -/
theorem ordersAgree_published (functions : ElementaryFunctions Float) :
    OrdersAgree functions .geographicLatitudeFirst .geographic ∧
      OrdersAgree functions .projectionFromLatitudeFirst .projection :=
  ⟨ordersAgree_ofInverseOnly functions false, ordersAgree_ofInverseOnly functions true⟩

end CoordinateConformance
