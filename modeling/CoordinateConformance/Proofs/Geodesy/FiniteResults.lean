import CoordinateConformance.Geodesy.Mercator
import CoordinateConformance.Geodesy.Miller
import CoordinateConformance.Geodesy.WebMercator
import CoordinateConformance.Proofs.Binary64.Bounds

/-!
Contract: which of the points that projections give are finite.

A projection looks at its results before it gives them, and gives nothing if one is not finite.
Coordinates in the plane are given as they are. Angles are looked at in radians and given in
degrees: the conversion comes after the test, and it overflows beyond `greatestAngle`.

The latitudes of the formulas are differences of arcs and far below that. Their longitudes are
quotients by the radius, and are below it if the radius is not tiny. An operator may give anything.

Owns: `isFinite_toDegrees_iff`, `latitude_le_greatestAngle`, `finite_results`.

Does **not** own: whether the results are right.
-/

namespace CoordinateConformance

open Binary64

/-! ## Degrees -/

/-- The greatest number of radians that is a finite number of degrees. -/
def greatestAngle : Float := 3.1375664143845866e306

theorem isFinite_toDegrees_iff (angle : Float) :
    (toDegrees angle).isFinite = true ↔ angle.abs ≤ greatestAngle := by
  have bits : greatestAngle = .ofBits 0x7F91DF46A2529D38 := by decide +kernel
  have readLast : greatestAngle.toModel.unpack =
      .finite .positive 5030569068109112 966 (by norm_num) := by
    rw [bits]
    rfl
  have readNext : (Float.ofBits 0x7F91DF46A2529D39).toModel.unpack =
      .finite .positive (5030569068109112 + 1) 966 (by norm_num) := rfl
  exact isFinite_mul_iff readLast readNext (by norm_num) (by decide +kernel) (by decide +kernel)
    (by decide +kernel) angle

theorem isNaN_toDegrees {angle : Float} (finite : angle.isFinite = true) :
    (toDegrees angle).isNaN = false :=
  isNaN_mul_of_finite finite (by decide +kernel)

/-! ## Projections -/

/-- The projections of the library: three with formulas of their own, and all those of an operator.
The parameters are any numbers. -/
inductive KnownProjection where
  | webMercator (projection : WebMercator Float)
  | miller (projection : Miller Float)
  | mercator (projection : Mercator Float)
  | ofOperator (operator : Projection.AngularOperator)

namespace KnownProjection

variable (functions : ElementaryFunctions Float)

def toProjection : KnownProjection → Projection
  | webMercator projection => projection.toProjection functions
  | miller projection => projection.toProjection functions
  | mercator projection => projection.toProjection functions
  | ofOperator operator => .ofOperator operator

/-- Latitude and longitude of a point in the plane, in radians, before they are looked at. -/
def angles? : KnownProjection → Point Float → Option (Float × Float)
  | webMercator projection, point => some (projection.angles functions point)
  | miller projection, point => some (projection.angles functions point)
  | mercator projection, point => some (projection.angles functions point)
  | ofOperator operator, point => (operator.inverse point.x point.y).map Prod.swap

/-- The latitude comes from a formula. -/
def HasFormula : KnownProjection → Prop
  | ofOperator _ => False
  | _ => True

/-- The longitude is a quotient by a radius of at least 58 metres. -/
def HasLargeRadius : KnownProjection → Prop
  | webMercator projection => 58.0 ≤ projection.ellipsoid.semimajor
  | miller projection => 58.0 ≤ projection.ellipsoid.semimajor
  | _ => False

variable {functions} {known : KnownProjection}

theorem isFinite_of_finitePoint? {x y : Float} {image : Point Float}
    (some : Projection.finitePoint? x y = some image) :
    image.x.isFinite = true ∧ image.y.isFinite = true := by
  unfold Projection.finitePoint? at some
  split_ifs at some with finite
  cases some
  exact Bool.and_eq_true_iff.mp finite

theorem isFinite_of_project {point : GeographicPoint Float} {image : Point Float}
    (some : (known.toProjection functions).project point = some image) :
    image.x.isFinite = true ∧ image.y.isFinite = true := by
  cases known with
  | webMercator projection => exact isFinite_of_finitePoint? some
  | miller projection => exact isFinite_of_finitePoint? some
  | mercator projection => exact isFinite_of_finitePoint? some
  | ofOperator operator =>
      obtain ⟨⟨x, y⟩, _, some⟩ := Option.bind_eq_some_iff.mp some
      exact isFinite_of_finitePoint? some

theorem finiteGeographic?_eq_some_iff {latitude longitude : Float}
    {image : GeographicPoint Float} :
    Projection.finiteGeographic? latitude longitude = some image ↔
      latitude.isFinite = true ∧ longitude.isFinite = true ∧
        image = ⟨toDegrees latitude, toDegrees longitude⟩ := by
  unfold Projection.finiteGeographic?
  change (if latitude.isFinite && longitude.isFinite then _ else _) = _ ↔ _
  split_ifs with finite
  · rw [Bool.and_eq_true] at finite
    simp [finite, eq_comm]
  · rw [Bool.and_eq_true, not_and] at finite
    simp only [false_iff]
    exact fun ⟨latitudeFinite, longitudeFinite, _⟩ => finite latitudeFinite longitudeFinite

/-- The point at the angles is given, if both are finite. -/
theorem unproject_eq_some_iff {point : Point Float} {image : GeographicPoint Float} :
    (known.toProjection functions).unproject point = some image ↔
      ∃ latitude longitude, known.angles? functions point = some (latitude, longitude) ∧
        latitude.isFinite = true ∧ longitude.isFinite = true ∧
        image = ⟨toDegrees latitude, toDegrees longitude⟩ := by
  have given : (known.toProjection functions).unproject point =
      (known.angles? functions point).bind fun angles =>
        Projection.finiteGeographic? angles.1 angles.2 := by
    cases known with
    | ofOperator operator =>
        unfold angles?
        cases inverted : operator.inverse point.x point.y with
        | none => simp [toProjection, Projection.ofOperator, inverted]
        | some pair => simp [toProjection, Projection.ofOperator, inverted]
    | _ => rfl
  rw [given, Option.bind_eq_some_iff]
  simp only [Prod.exists, finiteGeographic?_eq_some_iff]

end KnownProjection

/-! ## Latitudes -/

/-- The arc tangent is an angle between the poles, or undefined. -/
def ArcTangentInRange (functions : ElementaryFunctions Float) : Prop :=
  ∀ x, (functions.atan x).isNaN = true ∨ (functions.atan x).abs ≤ 1.5707963267948966

/-- The number is undefined, or a few radians. -/
def Moderate (x : Float) : Prop :=
  x.isNaN = true ∨ x.abs ≤ 8.0

/-- The difference of a few radians is an angle whose degrees are finite. -/
theorem abs_sub_le_greatestAngle {x y : Float} (left : Moderate x) (right : Moderate y)
    (finite : (x - y).isFinite = true) : (x - y).abs ≤ greatestAngle := by
  have number := (isFinite_iff.mp finite).1
  have notNaN : ¬(x.isNaN = true ∨ y.isNaN = true) := by
    intro nan
    rw [isNaN_sub_of_isNaN nan] at number
    cases number
  have leftLe := left.resolve_left fun nan => notNaN (Or.inl nan)
  have rightLe := right.resolve_left fun nan => notNaN (Or.inr nan)
  refine (abs_le_iff (by decide +kernel)).mpr ⟨number, ?_⟩
  calc magnitude (x - y) ≤ magnitude (2.0 * 8.0) :=
        magnitude_sub_le_double (isFinite_of_abs_le (by decide) (by decide) leftLe)
          (isFinite_of_abs_le (by decide) (by decide) rightLe)
          (magnitude_le_of_abs_le (by decide) leftLe) (magnitude_le_of_abs_le (by decide) rightLe)
    _ ≤ magnitude greatestAngle := magnitude_le_of_abs_le (by decide +kernel) (by decide +kernel)

/-- Whatever the number of passes, the last estimate is one of the latitude at some argument. -/
theorem exists_iterate_eq (functions : ElementaryFunctions Float) (e t : Float) (passes : Nat)
    (start : Float) :
    ∃ x, Mercator.iterate functions e t passes (Arithmetic.pi / 2.0 - 2.0 * functions.atan start) =
      Arithmetic.pi / 2.0 - 2.0 * functions.atan x := by
  induction passes generalizing start with
  | zero => exact ⟨start, rfl⟩
  | succ passes inductionHypothesis =>
      unfold Mercator.iterate Mercator.refine
      dsimp only
      split
      · exact ⟨_, rfl⟩
      · exact inductionHypothesis _

section Latitudes

variable {functions : ElementaryFunctions Float} (range : ArcTangentInRange functions)

include range

/-- A multiple of an arc tangent, by a factor that is not large. -/
theorem moderate_mul_atan {factor : Float} (finite : factor.isFinite = true)
    (small : magnitude (factor * 1.5707963267948966) ≤ magnitude 8.0) (x : Float) :
    Moderate (factor * functions.atan x) := by
  rcases range x with nan | le
  · exact Or.inl ((isNaN_mul _ _).mpr (Or.inr (Or.inl nan)))
  · have bounded := magnitude_le_of_abs_le (by decide) le
    have atanFinite := isFinite_of_abs_le (by decide) (by decide) le
    refine Or.inr ((abs_le_iff (by decide)).mpr ⟨isNaN_mul_of_finite finite atanFinite, ?_⟩)
    exact (magnitude_mul_le le_rfl bounded).trans small

theorem latitude_le_greatestAngle {known : KnownProjection} (formula : known.HasFormula)
    {point : Point Float} {latitude longitude : Float}
    (angles : known.angles? functions point = some (latitude, longitude))
    (finite : latitude.isFinite = true) : latitude.abs ≤ greatestAngle := by
  have half : Moderate (Arithmetic.pi / 2.0) := Or.inr (by decide)
  have twice : ∀ x, Moderate (2.0 * functions.atan x) :=
    moderate_mul_atan range (by decide) (magnitude_le_of_abs_le (by decide) (by decide))
  cases known with
  | webMercator projection =>
      cases angles
      exact abs_sub_le_greatestAngle half (twice _) finite
  | miller projection =>
      have quarter : Moderate (2.5 * (Arithmetic.pi / 4.0)) := Or.inr (by decide)
      cases angles
      exact abs_sub_le_greatestAngle
        (moderate_mul_atan range (by decide) (magnitude_le_of_abs_le (by decide) (by decide)) _)
        quarter finite
  | mercator projection =>
      let t := functions.exp ((projection.falseNorthing - point.y) / projection.radius)
      obtain ⟨x, iterateEq⟩ := exists_iterate_eq functions projection.ellipsoid.eccentricity t
        Mercator.maximalPasses t
      have latitudeEq : latitude = Arithmetic.pi / 2.0 - 2.0 * functions.atan x := by
        rw [← iterateEq]
        cases angles
        rfl
      rw [latitudeEq] at finite ⊢
      exact abs_sub_le_greatestAngle half (twice _) finite
  | ofOperator operator => exact formula.elim

end Latitudes

/-! ## Longitudes -/

/-- A quotient by a radius of at least 58 metres is an angle whose degrees are finite. -/
theorem abs_div_le_greatestAngle {x radius : Float} (large : 58.0 ≤ radius)
    (finite : (x / radius).isFinite = true) : (x / radius).abs ≤ greatestAngle := by
  obtain ⟨number, notInfinite⟩ := isFinite_iff.mp finite
  have radiusNumber : radius.isNaN = false := (le_iff.mp large).2.1
  have radiusLe : magnitude 58.0 ≤ magnitude radius :=
    magnitude_le_of_le (value_nonneg_of_le (by decide)) large
  have dividend : x.isFinite = true := by
    have parts := mt (isNaN_div x radius).mpr (Bool.not_eq_true _ ▸ number)
    simp only [not_or, not_and, radiusNumber] at parts
    refine isFinite_iff.mpr ⟨Bool.not_eq_true _ ▸ parts.1, fun infinite => notInfinite ?_⟩
    rw [magnitude_div x radiusNumber, infinite,
      ENNReal.top_div_of_ne_top (parts.2.2.1 infinite), rounded_top]
  refine (abs_le_iff (by decide +kernel)).mpr ⟨number, ?_⟩
  calc magnitude (x / radius) ≤ magnitude (greatestNumber / 58.0) :=
        magnitude_div_le radiusNumber (by decide) (magnitude_le_greatest dividend) radiusLe
    _ ≤ magnitude greatestAngle := magnitude_le_of_abs_le (by decide +kernel) (by decide +kernel)

theorem longitude_le_greatestAngle {functions : ElementaryFunctions Float}
    {known : KnownProjection} (large : known.HasLargeRadius) {point : Point Float}
    {latitude longitude : Float}
    (angles : known.angles? functions point = some (latitude, longitude))
    (finite : longitude.isFinite = true) : longitude.abs ≤ greatestAngle := by
  cases known with
  | webMercator projection =>
      cases angles
      exact abs_div_le_greatestAngle large finite
  | miller projection =>
      cases angles
      exact abs_div_le_greatestAngle large finite
  | mercator projection => exact large.elim
  | ofOperator operator => exact large.elim

/-! ## Result -/

/-- A projected point is finite. The degrees of an unprojected point are numbers, and each of them
is finite exactly if the angle that was found, in radians, is not beyond `greatestAngle`. That is
so for all latitudes from formulas, and for longitudes on radii that are not tiny. -/
theorem finite_results {functions : ElementaryFunctions Float}
    (range : ArcTangentInRange functions) (known : KnownProjection) :
    (∀ point image, (known.toProjection functions).project point = some image →
      image.x.isFinite = true ∧ image.y.isFinite = true) ∧
    (∀ point image, (known.toProjection functions).unproject point = some image →
      ∃ latitude longitude, known.angles? functions point = some (latitude, longitude) ∧
        image.latitude.isNaN = false ∧ image.longitude.isNaN = false ∧
        (image.latitude.isFinite = true ↔ latitude.abs ≤ greatestAngle) ∧
        (image.longitude.isFinite = true ↔ longitude.abs ≤ greatestAngle) ∧
        (known.HasFormula → image.latitude.isFinite = true) ∧
        (known.HasLargeRadius → image.longitude.isFinite = true)) := by
  refine ⟨fun point image some => KnownProjection.isFinite_of_project some,
    fun point image some => ?_⟩
  obtain ⟨latitude, longitude, angles, latitudeFinite, longitudeFinite, rfl⟩ :=
    KnownProjection.unproject_eq_some_iff.mp some
  refine ⟨latitude, longitude, angles, isNaN_toDegrees latitudeFinite,
    isNaN_toDegrees longitudeFinite, isFinite_toDegrees_iff latitude,
    isFinite_toDegrees_iff longitude, fun formula => ?_, fun large => ?_⟩
  · exact (isFinite_toDegrees_iff latitude).mpr
      (latitude_le_greatestAngle range formula angles latitudeFinite)
  · exact (isFinite_toDegrees_iff longitude).mpr
      (longitude_le_greatestAngle large angles longitudeFinite)

/-- The functions as they are on the equator. -/
def alongEquator : ElementaryFunctions Float :=
  { ElementaryFunctions.platform with
    tan := fun _ => 0.9999999999999999
    log := fun _ => -1.1102230246251565e-16
    exp := fun _ => 1.0
    atan := fun _ => 0.7853981633974483 }

/-- Points on the equator of WGS 84 are projected to finite ones, and back. -/
theorem finite_results_wgs84 :
    (∃ image, ((KnownProjection.webMercator ⟨.wgs84⟩).toProjection alongEquator).project
        ⟨0.0, 0.01⟩ = some image ∧ image.x.isFinite = true ∧ image.y.isFinite = true) ∧
      ∃ image, ((KnownProjection.webMercator ⟨.wgs84⟩).toProjection alongEquator).unproject
        ⟨1000.0, 0.0⟩ = some image ∧ image.latitude.isFinite = true ∧
          image.longitude.isFinite = true := by
  have quarter : (0.7853981633974483 : Float).abs ≤ 1.5707963267948966 := by decide
  have range : ArcTangentInRange alongEquator := fun _ => Or.inr quarter
  obtain ⟨projects, unprojects⟩ := finite_results range (.webMercator ⟨.wgs84⟩)
  refine ⟨⟨_, rfl, projects ⟨0.0, 0.01⟩ _ rfl⟩, ⟨_, rfl, ?_⟩⟩
  obtain ⟨_, _, _, _, _, _, _, latitude, longitude⟩ := unprojects ⟨1000.0, 0.0⟩ _ rfl
  have large : 58.0 ≤ Ellipsoid.wgs84.semimajor := by decide
  exact ⟨latitude trivial, longitude large⟩

/-- On a sphere with a radius of one metre, a point so far east that its longitude is only finite in
radians. -/
theorem not_finite_results_unit_sphere :
    ∃ image, ((KnownProjection.webMercator ⟨⟨1.0, 298.257223563⟩⟩).toProjection
        alongEquator).unproject ⟨1e308, 0.0⟩ = some image ∧
      image.longitude.isFinite = false :=
  ⟨⟨_, _⟩, KnownProjection.unproject_eq_some_iff.mpr
    ⟨_, _, rfl, by decide +kernel, by decide +kernel, rfl⟩, by decide +kernel⟩

end CoordinateConformance
