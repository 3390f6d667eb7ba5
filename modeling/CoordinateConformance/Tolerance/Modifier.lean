import CoordinateConformance.Arithmetic
import CoordinateConformance.ConformanceError

/-!
Contract: adapting tolerances to the unit of the compared coordinates.

Tolerances are distances in metres, while the result of an inverse projection is in degrees. A
modifier maps the tolerances of one point to others, one per axis, knowing the coordinate that
is compared and the kind of calculation. `adjust` is how it is applied: the lengths must
agree, and a strict comparison leaves the tolerances alone.
-/

namespace CoordinateConformance

/-- A length preserving function of tolerances, coordinate and kind of calculation. -/
structure ToleranceModifier where
  apply : List Float → List Float → Calculation → List Float
  length_apply : ∀ tolerances coordinate calculation,
    (apply tolerances coordinate calculation).length = tolerances.length

/-- The length of a nautical mile in metres, one minute of arc on the reference sphere. -/
def nauticalMile : Float := 1852.0

def metresPerDegree : Float := nauticalMile * 60.0

/-- Conversion of the tolerances on two axes from metres to degrees. -/
structure MetresToDegrees where
  longitudeAxis : Nat
  latitudeAxis : Nat
  /-- Only results of inverse transforms are in degrees. -/
  inverseOnly : Bool
deriving DecidableEq, Repr

namespace MetresToDegrees

def geographic : MetresToDegrees := ⟨0, 1, false⟩

def geographicLatitudeFirst : MetresToDegrees := ⟨1, 0, false⟩

/-- A map projection from geographic coordinates, longitude first. -/
def projection : MetresToDegrees := ⟨0, 1, true⟩

def projectionFromLatitudeFirst : MetresToDegrees := ⟨1, 0, true⟩

/-- The length of one degree of longitude at a latitude in degrees. A latitude without a finite
cosine counts as the equator. -/
def metresPerLongitudeDegree (functions : ElementaryFunctions Float) (latitude : Float) : Float :=
  let shrinking := (functions.cos (toRadians latitude)).abs
  if shrinking.isFinite then metresPerDegree * shrinking else metresPerDegree

/-- Divides the tolerance of each angle by the length of its degree. Coordinates without one of the
two axes are not geographic and keep their tolerances. -/
def apply (functions : ElementaryFunctions Float) (conversion : MetresToDegrees)
    (tolerances coordinate : List Float) (calculation : Calculation) : List Float :=
  if conversion.inverseOnly ∧ calculation ≠ .inverse then tolerances
  else
    match coordinate[conversion.latitudeAxis]? with
    | none => tolerances
    | some latitude =>
        if tolerances.length ≤ conversion.longitudeAxis then tolerances
        else
          let degrees := tolerances.modify conversion.latitudeAxis (· / metresPerDegree)
          degrees.modify conversion.longitudeAxis
            (· / metresPerLongitudeDegree functions latitude)

@[simp]
theorem length_apply (functions : ElementaryFunctions Float) (conversion : MetresToDegrees)
    (tolerances coordinate : List Float) (calculation : Calculation) :
    (conversion.apply functions tolerances coordinate calculation).length =
      tolerances.length := by
  unfold apply
  split
  · rfl
  · split
    · rfl
    · split
      · rfl
      · simp

end MetresToDegrees

/-- A factor is finite and not negative. -/
def isScaleFactor (factor : Float) : Bool :=
  factor.isFinite && factor ≥ 0.0

/-- Factors for the tolerances of the first axes, applied to some kinds of calculation. -/
structure Scale where
  appliesTo : List Calculation
  factors : List Float
  admissible : factors.all isScaleFactor = true
deriving DecidableEq, Repr

namespace Scale

/-- The scale with the given factors; the first one out of range is reported. -/
def ofFactors (appliesTo : List Calculation) (factors : List Float) :
    Except ConformanceError Scale :=
  match notFound : factors.find? fun factor => !isScaleFactor factor with
  | some factor => .error (.configuration (.scaleFactorOutOfRange factor))
  | none => .ok ⟨appliesTo, factors, by simpa [List.find?_eq_none] using notFound⟩

/-- Multiplies axis by axis; axes without a factor stay as they are. -/
def multiply : List Float → List Float → List Float
  | [], _ => []
  | tolerances, [] => tolerances
  | tolerance :: tolerances, factor :: factors => tolerance * factor :: multiply tolerances factors

theorem length_multiply (tolerances factors : List Float) :
    (multiply tolerances factors).length = tolerances.length := by
  induction tolerances generalizing factors with
  | nil => rfl
  | cons tolerance tolerances inductionHypothesis =>
      cases factors with
      | nil => rfl
      | cons factor factors => simp [multiply, inductionHypothesis]

/-- The tolerances of the selected kinds of calculation are multiplied. -/
def apply (scale : Scale) (tolerances : List Float) (calculation : Calculation) : List Float :=
  if scale.appliesTo.contains calculation then multiply tolerances scale.factors else tolerances

@[simp]
theorem length_apply (scale : Scale) (tolerances : List Float) (calculation : Calculation) :
    (scale.apply tolerances calculation).length = tolerances.length := by
  unfold apply
  split
  · exact length_multiply tolerances scale.factors
  · rfl

end Scale

/-- The greater of two numbers; a NaN gives way to the other number. -/
def greaterNumber (first second : Float) : Float :=
  if first.isNaN then second else if first < second then second else first

namespace ToleranceModifier

def identity : ToleranceModifier where
  apply tolerances _ _ := tolerances
  length_apply _ _ _ := rfl

def metresToDegrees (functions : ElementaryFunctions Float) (conversion : MetresToDegrees) :
    ToleranceModifier where
  apply := conversion.apply functions
  length_apply := conversion.length_apply functions

def scale (factors : Scale) : ToleranceModifier where
  apply tolerances _ calculation := factors.apply tolerances calculation
  length_apply tolerances _ calculation := factors.length_apply tolerances calculation

/-- On each axis the greater of the tolerances of two modifiers. -/
def maximum (first second : ToleranceModifier) : ToleranceModifier where
  apply tolerances coordinate calculation :=
    List.zipWith greaterNumber (first.apply tolerances coordinate calculation)
      (second.apply tolerances coordinate calculation)
  length_apply tolerances coordinate calculation := by
    simp [first.length_apply, second.length_apply]

def concatenate (first second : ToleranceModifier) : ToleranceModifier where
  apply tolerances coordinate calculation :=
    second.apply (first.apply tolerances coordinate calculation) coordinate calculation
  length_apply tolerances coordinate calculation := by
    rw [second.length_apply, first.length_apply]

/-- The same tolerance on every axis for some kinds of calculation. -/
def constant (appliesTo : List Calculation) (value : Float) : ToleranceModifier where
  apply tolerances _ calculation :=
    if appliesTo.contains calculation then tolerances.map fun _ => value else tolerances
  length_apply tolerances _ calculation := by
    split <;> simp

def adjust (modifier : ToleranceModifier) (tolerances coordinate : List Float)
    (calculation : Calculation) : Except ConformanceError (List Float) := do
  checkDimension "tolerances and coordinate" coordinate.length tolerances.length
  return match calculation with
    | .strict => tolerances
    | _ => modifier.apply tolerances coordinate calculation

end ToleranceModifier

end CoordinateConformance
