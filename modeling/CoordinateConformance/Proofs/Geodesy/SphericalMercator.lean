import CoordinateConformance.Geodesy.WebMercator
import CoordinateConformance.Proofs.Binary64.Identities
import CoordinateConformance.Proofs.Geodesy.Passes

/-!
Contract: on a sphere, the Mercator projection of the ellipsoid is the pseudo-Mercator projection.

The eccentricity of a sphere is zero, and so the correction of a latitude is one, unless the
latitude is not a finite number. There the tangent is NaN, which the correction does not change.
The first estimate of the loop is the latitude that the closed formula gives, and it is a fixed
point: it is finite, or the number that stands for it is NaN. A scale factor of one and a false
origin at zero leave the coordinates the same, up to the sign of a zero.

Both formulas for a latitude double an arc tangent first. No angle is too large for that, but it is
an assumption of its own: finite arc tangents alone do not make the two projections agree.

Owns: `tan_mul_correction`, `refine_firstEstimate`, `same_as_webMercator`,
`not_same_as_webMercator_farFromAngles`.

Does **not** own: eccentricities other than zero.
-/

namespace CoordinateConformance

open Binary64

/-! ## Results -/

/-- Both results are missing, or both are points with equal coordinates. -/
def SamePoint : Option (Point Float) → Option (Point Float) → Prop :=
  Option.Rel fun left right => (left.x == right.x && left.y == right.y) = true

/-- Both results are missing, or both are points with equal angles. -/
def SameGeographicPoint :
    Option (GeographicPoint Float) → Option (GeographicPoint Float) → Prop :=
  Option.Rel fun left right => left.equals right = true

section Results

variable {x x' y y' : Float}

theorem samePoint_finitePoint? (alikeX : Alike x x') (alikeY : Alike y y') :
    SamePoint (Projection.finitePoint? x y) (Projection.finitePoint? x' y') := by
  unfold Projection.finitePoint?
  change SamePoint (if x.isFinite && y.isFinite then _ else _)
    (if x'.isFinite && y'.isFinite then _ else _)
  rw [← alikeX.isFinite, ← alikeY.isFinite]
  split_ifs with finite
  · rw [Bool.and_eq_true] at finite
    constructor
    exact Bool.and_eq_true_iff.mpr
      ⟨alikeX.beq (isFinite_iff.mp finite.1).1, alikeY.beq (isFinite_iff.mp finite.2).1⟩
  · constructor

theorem sameGeographicPoint_finiteGeographic? (latitude : Float) (alike : Alike x x') :
    SameGeographicPoint (Projection.finiteGeographic? latitude x)
      (Projection.finiteGeographic? latitude x') := by
  unfold Projection.finiteGeographic?
  change SameGeographicPoint (if latitude.isFinite && x.isFinite then _ else _)
    (if latitude.isFinite && x'.isFinite then _ else _)
  rw [← alike.isFinite]
  split_ifs with finite
  · rw [Bool.and_eq_true] at finite
    constructor
    have degrees : (180.0 / Arithmetic.pi : Float).isFinite = true := by decide +kernel
    have sameLatitude : (toDegrees latitude == toDegrees latitude) = true :=
      (Alike.refl _).beq (isNaN_mul_of_finite finite.1 degrees)
    have sameLongitude : (toDegrees x == toDegrees x') = true :=
      (alike.mul _).beq (isNaN_mul_of_finite finite.2 degrees)
    exact Bool.and_eq_true_iff.mpr ⟨sameLatitude, sameLongitude⟩
  · constructor

end Results

/-! ## Spheres -/

/-- A sphere, as an ellipsoid. -/
def Ellipsoid.sphere (radius : Float) : Ellipsoid Float :=
  ⟨radius, Float.inf⟩

theorem Ellipsoid.eccentricity_sphere (radius : Float) :
    (Ellipsoid.sphere radius).eccentricity = 0.0 := by
  show Float.sqrt (2.0 * (1.0 / Float.inf) - 1.0 / Float.inf * (1.0 / Float.inf)) = 0.0
  decide +kernel

/-- What the functions do with NaN and the infinities, and values that no rounding puts in doubt. -/
structure SpecialValues (functions : ElementaryFunctions Float) : Prop where
  tan_nan : ∀ x, x.isNaN = true → (functions.tan x).isNaN = true
  tan_infinity : ∀ x, x.isInf = true → (functions.tan x).isNaN = true
  exp_zero : functions.exp 0.0 = functions.exp (-0.0)
  sin_finite : ∀ x, x.isFinite = true → (functions.sin x).isFinite = true
  pow_one_zero : functions.pow 1.0 0.0 = 1.0

namespace Mercator

/-- Scale factor one, and an origin at zero. -/
def onSphere (radius : Float) : Mercator Float :=
  ⟨.sphere radius, 0.0, 1.0, 0.0, 0.0⟩

theorem variantA_onSphere (radius : Float) :
    variantA (.sphere radius) 0.0 1.0 0.0 0.0 = .ok (onSphere radius) :=
  if_pos (by decide)

theorem radius_onSphere (radius : Float) : (onSphere radius).radius = radius :=
  times_one radius

theorem toRadians_zero : toRadians (0.0 : Float) = 0.0 := by
  decide +kernel

variable {functions : ElementaryFunctions Float} (special : SpecialValues functions)

/-! ## Corrections -/

section Correction

include special

theorem correction_of_isFinite {latitude : Float} (finite : latitude.isFinite = true) :
    correction functions 0.0 latitude = 1.0 := by
  let power (scaled : Float) : Float :=
    functions.pow ((1.0 - scaled) / (1.0 + scaled)) (0.0 / 2.0)
  have scaled : Alike (0.0 * functions.sin latitude) 0.0 :=
    zero_times (special.sin_finite latitude finite)
  have closed : power 0.0 = functions.pow 1.0 0.0 := by
    show functions.pow ((1.0 - 0.0) / (1.0 + 0.0)) (0.0 / 2.0) = _
    congr 1
  have zeros : power 0.0 = power (-0.0) := by
    show functions.pow ((1.0 - 0.0) / (1.0 + 0.0)) _ = functions.pow ((1.0 - -0.0) / (1.0 + -0.0)) _
    congr 1
  calc correction functions 0.0 latitude = power 0.0 := scaled.congr (f := power) zeros
    _ = functions.pow 1.0 0.0 := closed
    _ = 1.0 := special.pow_one_zero

theorem isNaN_tan {latitude : Float} (notFinite : latitude.isFinite = false) :
    (functions.tan (Arithmetic.pi / 4.0 + latitude / 2.0)).isNaN = true := by
  rcases eq_of_not_isFinite notFinite with rfl | rfl | rfl
  · exact special.tan_nan _ (by decide +kernel)
  · exact special.tan_infinity _ (by decide +kernel)
  · exact special.tan_infinity _ (by decide +kernel)

/-- The correction is one, or it is a factor of NaN. -/
theorem tan_mul_correction (latitude : Float) :
    functions.tan (Arithmetic.pi / 4.0 + latitude / 2.0) * correction functions 0.0 latitude =
      functions.tan (Arithmetic.pi / 4.0 + latitude / 2.0) := by
  cases finite : latitude.isFinite with
  | true => rw [correction_of_isFinite special finite, times_one]
  | false =>
      have nan := isNaN_tan special finite
      exact eq_of_isNaN ((isNaN_mul _ _).mpr (Or.inl nan)) nan

end Correction

/-! ## The first estimate -/

section FirstEstimate

/-- The arc tangent of a number can be doubled. -/
def Doubles (functions : ElementaryFunctions Float) (t : Float) : Prop :=
  t.isNaN = false → (2.0 * functions.atan t).isFinite = true

theorem isFinite_firstEstimate {t : Float} (doubles : Doubles functions t)
    (number : t.isNaN = false) : (firstEstimate functions t).isFinite = true :=
  isFinite_sub_of_least (by decide +kernel) (doubles number) (by decide +kernel)
    (by decide +kernel)

include special

/-- The first estimate is a fixed point of a pass: its correction is one, or a factor of NaN. -/
theorem refine_firstEstimate {t : Float} (doubles : Doubles functions t) :
    refine functions 0.0 t (firstEstimate functions t) = firstEstimate functions t := by
  have unchanged : t * correction functions 0.0 (firstEstimate functions t) = t := by
    cases number : t.isNaN with
    | true => exact eq_of_isNaN ((isNaN_mul _ _).mpr (Or.inl number)) number
    | false =>
        have finite := isFinite_firstEstimate doubles number
        rw [correction_of_isFinite special finite, times_one]
  unfold refine
  rw [unchanged]
  rfl

end FirstEstimate

/-! ## Both directions -/

include special

theorem samePoint_project (radius : Float) (point : GeographicPoint Float) :
    SamePoint ((onSphere radius).project functions point)
      ((WebMercator.mk (.sphere radius)).project functions point) := by
  have equal : (onSphere radius).project functions point =
      Projection.finitePoint? (0.0 + radius * point.longitudeRadians)
        (0.0 + radius * functions.log
          (functions.tan (Arithmetic.pi / 4.0 + point.latitudeRadians / 2.0))) := by
    show Projection.finitePoint? (0.0 + (onSphere radius).radius * (_ - toRadians 0.0))
      (0.0 + (onSphere radius).radius * functions.log
        (_ * correction functions (Ellipsoid.sphere radius).eccentricity _)) = _
    rw [radius_onSphere, Ellipsoid.eccentricity_sphere, tan_mul_correction special,
      toRadians_zero, minus_zero]
  rw [equal]
  exact samePoint_finitePoint? (zero_plus _) (zero_plus _)

theorem sameGeographicPoint_unproject (radius : Float) (point : Point Float)
    (doubles : Doubles functions (functions.exp (-point.y / radius))) :
    SameGeographicPoint ((onSphere radius).unproject functions point)
      ((WebMercator.mk (.sphere radius)).unproject functions point) := by
  have ratioEq : (onSphere radius).ratio functions point = functions.exp (-point.y / radius) := by
    show functions.exp ((0.0 - point.y) / (onSphere radius).radius) = _
    rw [radius_onSphere]
    exact ((zero_minus point.y).div radius).congr special.exp_zero
  have equal : (onSphere radius).unproject functions point =
      Projection.finiteGeographic? (firstEstimate functions (functions.exp (-point.y / radius)))
        (point.x / radius + 0.0) := by
    show Projection.finiteGeographic?
      (iterate functions (Ellipsoid.sphere radius).eccentricity
        ((onSphere radius).ratio functions point) maximalPasses
        (firstEstimate functions ((onSphere radius).ratio functions point)))
      ((point.x - 0.0) / (onSphere radius).radius + toRadians 0.0) = _
    rw [Ellipsoid.eccentricity_sphere, ratioEq,
      iterate_of_fixed functions (refine_firstEstimate special doubles), radius_onSphere,
      minus_zero, toRadians_zero]
  rw [equal]
  exact sameGeographicPoint_finiteGeographic? _ (plus_zero _)

end Mercator

/-! ## Result -/

/-- On every sphere, the two projections give the same result for all points in both directions,
with NaN and the infinities among their coordinates. On the way back, the arc tangent of the point
has to be finite even when it is doubled, as both formulas do first. -/
theorem same_as_webMercator {functions : ElementaryFunctions Float}
    (special : SpecialValues functions) (radius : Float) :
    ∃ mercator, Mercator.variantA (.sphere radius) 0.0 1.0 0.0 0.0 = .ok mercator ∧
      (∀ point, SamePoint (mercator.project functions point)
        ((WebMercator.mk (.sphere radius)).project functions point)) ∧
      ∀ point : Point Float, Mercator.Doubles functions (functions.exp (-point.y / radius)) →
        SameGeographicPoint (mercator.unproject functions point)
          ((WebMercator.mk (.sphere radius)).unproject functions point) := by
  refine ⟨Mercator.onSphere radius, Mercator.variantA_onSphere radius, ?_, ?_⟩
  · exact Mercator.samePoint_project special radius
  · exact Mercator.sameGeographicPoint_unproject special radius

/-- The functions near the equator, and NaN where they have no value. -/
def nearEquator : ElementaryFunctions Float :=
  { ElementaryFunctions.platform with
    sin := fun x => x
    tan := fun x => if x.isFinite then 0.9999999999999999 else Float.nan
    log := fun x => if x.isNaN then x else -1.1102230246251565e-16
    exp := fun x => if x.isNaN then x else 1.0
    atan := fun x => if x.isNaN then x else 0.7853981633974483
    pow := fun _ _ => 1.0 }

theorem isNaN_tan_nearEquator {x : Float} (notFinite : ¬x.isFinite = true) :
    (nearEquator.tan x).isNaN = true := by
  show (if x.isFinite then _ else _ : Float).isNaN = true
  rw [if_neg notFinite]
  decide

theorem specialValues_nearEquator : SpecialValues nearEquator := by
  constructor
  · intro x nan
    apply isNaN_tan_nearEquator
    intro finite
    rw [(isFinite_iff.mp finite).1] at nan
    cases nan
  · intro x infinite
    apply isNaN_tan_nearEquator
    intro finite
    exact (isFinite_iff.mp finite).2 (isInf_iff.mp infinite)
  · decide
  · intro x finite
    exact finite
  · rfl

/-- On the sphere of the web maps, points near the equator have images in both directions. -/
theorem same_as_webMercator_equator :
    ∃ mercator, Mercator.variantA (.sphere 6378137.0) 0.0 1.0 0.0 0.0 = .ok mercator ∧
      SamePoint (mercator.project nearEquator ⟨0.0, 0.01⟩)
        ((WebMercator.mk (.sphere 6378137.0)).project nearEquator ⟨0.0, 0.01⟩) ∧
      ((WebMercator.mk (.sphere 6378137.0)).project nearEquator ⟨0.0, 0.01⟩).isSome = true ∧
      SameGeographicPoint (mercator.unproject nearEquator ⟨1000.0, 0.0⟩)
        ((WebMercator.mk (.sphere 6378137.0)).unproject nearEquator ⟨1000.0, 0.0⟩) ∧
      ((WebMercator.mk (.sphere 6378137.0)).unproject nearEquator ⟨1000.0, 0.0⟩).isSome = true := by
  have doubles : ∀ t, Mercator.Doubles nearEquator t := by
    intro t number
    show (2.0 * (if t.isNaN then t else 0.7853981633974483 : Float)).isFinite = true
    rw [number, if_neg Bool.false_ne_true]
    decide
  obtain ⟨mercator, made, projects, unprojects⟩ :=
    same_as_webMercator specialValues_nearEquator 6378137.0
  exact ⟨mercator, made, projects _, by decide +kernel, unprojects _ (doubles _), by decide +kernel⟩

/-- NaN leads to NaN, and the arc tangent of a number is finite. -/
structure FiniteArcTangents (functions : ElementaryFunctions Float) : Prop
    extends SpecialValues functions where
  log_nan : ∀ x, x.isNaN = true → (functions.log x).isNaN = true
  exp_nan : ∀ x, x.isNaN = true → (functions.exp x).isNaN = true
  atan_nan : ∀ x, x.isNaN = true → (functions.atan x).isNaN = true
  atan_finite : ∀ x, x.isNaN = false → (functions.atan x).isFinite = true

/-- Functions whose arc tangent is finite and far from any angle. -/
def farFromAngles : ElementaryFunctions Float :=
  { ElementaryFunctions.platform with
    sin := fun x => if x.isFinite then x else Float.nan
    tan := fun _ => Float.nan
    log := fun _ => Float.nan
    exp := fun x => if x.isNaN then x else 2.0
    atan := fun x => if x.isNaN then x else if x == 1.0 then 0.5 else 1e308
    pow := fun x _ => if x.isNaN then 0.5 else 1.0 }

theorem finiteArcTangents_farFromAngles : FiniteArcTangents farFromAngles := by
  have nan : Float.nan.isNaN = true := by decide
  refine ⟨⟨fun _ _ => nan, fun _ _ => nan, by decide, fun x finite => ?_, by decide⟩,
    fun _ _ => nan, fun x undefined => ?_, fun x undefined => ?_, fun x number => ?_⟩
  · show (if x.isFinite then x else _ : Float).isFinite = true
    rw [if_pos finite]
    exact finite
  · show (if x.isNaN then x else _ : Float).isNaN = true
    rw [if_pos undefined]
    exact undefined
  · show (if x.isNaN then x else _ : Float).isNaN = true
    rw [if_pos undefined]
    exact undefined
  · show (if x.isNaN then x else if x == 1.0 then 0.5 else 1e308 : Float).isFinite = true
    rw [number, if_neg Bool.false_ne_true]
    split
    · decide
    · decide +kernel

/-- It is not enough that arc tangents are finite. Twice `1e308` is infinite, and whether the passes
come back from there depends on the sine of infinity. -/
theorem not_same_as_webMercator_farFromAngles :
    FiniteArcTangents farFromAngles ∧
      Mercator.variantA (.sphere 1.0) 0.0 1.0 0.0 0.0 = .ok (Mercator.onSphere 1.0) ∧
      ¬SameGeographicPoint ((Mercator.onSphere 1.0).unproject farFromAngles ⟨0.0, 0.0⟩)
        ((WebMercator.mk (.sphere 1.0)).unproject farFromAngles ⟨0.0, 0.0⟩) := by
  refine ⟨finiteArcTangents_farFromAngles, Mercator.variantA_onSphere 1.0, ?_⟩
  have found : ((Mercator.onSphere 1.0).unproject farFromAngles ⟨0.0, 0.0⟩).isSome = true := by
    decide +kernel
  have missing : (WebMercator.mk (.sphere 1.0)).unproject farFromAngles ⟨0.0, 0.0⟩ = none := by
    decide +kernel
  intro same
  rw [missing] at same
  generalize (Mercator.onSphere 1.0).unproject farFromAngles ⟨0.0, 0.0⟩ = result at found same
  cases same
  cases found

end CoordinateConformance
