import Mathlib
import CoordinateConformance.Geodesy.Miller
import CoordinateConformance.Geodesy.WebMercator
import CoordinateConformance.Proofs.Geodesy.RealNumbers

/-!
Contract: round trips through the projections with a closed inverse, without rounding.

Both projections multiply the longitude by a radius, and stretch the latitude: they compress it to
some part of an angle, turn that by an eighth of a circle, and take the logarithm of the tangent.
Compressed to one half or to four tenths, the angle is between zero and a right angle for latitudes
below 90 or 112.5 degrees. There the arc tangent of the exponential is the way back. In the other
direction there are no conditions: every northing has a latitude.

The formula of the pseudo-Mercator projection for latitudes has the opposite sign of the one for the
Miller projection; `arctan_exp_neg` is the reason why they are the same.

Owns: `MutuallyInverse`, `relaxed_stretched`, `stretched_relaxed`, `mutuallyInverse_closedForms`.

Does **not** own: projections whose inverse is found by iteration.
-/

namespace CoordinateConformance

open scoped RealNumbers
open Real (pi pi_pos tan arctan log exp)

/-! ## Stretched latitudes -/

noncomputable section

/-- The logarithm of the tangent of a compressed latitude, turned by an eighth of a circle. -/
def stretched (compression latitude : ℝ) : ℝ :=
  log (tan (pi / 4 + compression * latitude))

/-- The latitude with the given logarithm of the tangent. -/
def relaxed (compression northing : ℝ) : ℝ :=
  (arctan (exp northing) - pi / 4) / compression

end

theorem relaxed_stretched {compression latitude : ℝ} (nonzero : compression ≠ 0)
    (south : 0 < pi / 4 + compression * latitude)
    (north : pi / 4 + compression * latitude < pi / 2) :
    relaxed compression (stretched compression latitude) = latitude := by
  unfold relaxed stretched
  have tanPositive : 0 < tan (pi / 4 + compression * latitude) :=
    Real.tan_pos_of_pos_of_lt_pi_div_two south north
  rw [Real.exp_log tanPositive, Real.arctan_tan (by linarith) north]
  field_simp
  ring

theorem stretched_relaxed {compression : ℝ} (nonzero : compression ≠ 0) (northing : ℝ) :
    stretched compression (relaxed compression northing) = northing := by
  unfold stretched relaxed
  have angle : pi / 4 + compression * ((arctan (exp northing) - pi / 4) / compression) =
      arctan (exp northing) := by
    field_simp
    ring
  rw [angle, Real.tan_arctan, Real.log_exp]

/-- The angles of opposite logarithms add up to a right angle. -/
theorem arctan_exp_neg (northing : ℝ) :
    arctan (exp (-northing)) = pi / 2 - arctan (exp northing) := by
  rw [Real.exp_neg]
  exact Real.arctan_inv_of_pos (Real.exp_pos northing)

/-- A latitude whose compression is within 45 degrees is turned to an acute angle. -/
theorem turned_acute {compression limit degrees : ℝ} (positive : 0 < compression)
    (eighth : compression * limit = 45) (south : -limit < degrees) (north : degrees < limit) :
    0 < pi / 4 + compression * toRadians degrees ∧
      pi / 4 + compression * toRadians degrees < pi / 2 := by
  have compressed : compression * toRadians degrees = compression * degrees * (pi / 180) := by
    rw [toRadians_real]
    ring
  have least : -45 < compression * degrees := by
    calc -45 = compression * -limit := by rw [mul_neg, eighth]
      _ < compression * degrees := mul_lt_mul_of_pos_left south positive
  have greatest : compression * degrees < 45 := by
    calc compression * degrees < compression * limit := mul_lt_mul_of_pos_left north positive
      _ = 45 := eighth
  have piPositive := pi_pos
  rw [compressed]
  constructor
  · nlinarith
  · nlinarith

/-! ## Round trips -/

/-- Every point in the plane comes back to itself, and so does every geographic point whose latitude
is less than `limit` degrees from the equator. -/
structure MutuallyInverse (project : GeographicPoint ℝ → Option (Point ℝ))
    (unproject : Point ℝ → Option (GeographicPoint ℝ)) (limit : ℝ) : Prop where
  unproject_project : ∀ point : GeographicPoint ℝ, -limit < point.latitude →
    point.latitude < limit → (project point).bind unproject = some point
  project_unproject : ∀ point : Point ℝ, (unproject point).bind project = some point

/-- Multiples of longitudes and of stretched latitudes can be taken back. -/
theorem mutuallyInverse_of_stretched {project : GeographicPoint ℝ → Option (Point ℝ)}
    {unproject : Point ℝ → Option (GeographicPoint ℝ)} {radius scale compression limit : ℝ}
    (radiusNonzero : radius ≠ 0) (scaleNonzero : scale ≠ 0) (positive : 0 < compression)
    (eighth : compression * limit = 45)
    (projects : ∀ point, project point =
      some ⟨radius * point.longitudeRadians, scale * stretched compression point.latitudeRadians⟩)
    (unprojects : ∀ point, unproject point =
      some ⟨toDegrees (relaxed compression (point.y / scale)), toDegrees (point.x / radius)⟩) :
    MutuallyInverse project unproject limit := by
  constructor
  · intro point south north
    obtain ⟨acuteSouth, acuteNorth⟩ := turned_acute positive eighth south north
    rw [projects, Option.bind_some, unprojects]
    dsimp only [GeographicPoint.latitudeRadians, GeographicPoint.longitudeRadians]
    rw [mul_div_cancel_left₀ _ scaleNonzero, mul_div_cancel_left₀ _ radiusNonzero,
      relaxed_stretched positive.ne' acuteSouth acuteNorth, toDegrees_toRadians,
      toDegrees_toRadians]
  · intro point
    rw [unprojects, Option.bind_some, projects]
    dsimp only [GeographicPoint.latitudeRadians, GeographicPoint.longitudeRadians]
    rw [toRadians_toDegrees, toRadians_toDegrees, stretched_relaxed positive.ne',
      mul_div_cancel₀ _ radiusNonzero, mul_div_cancel₀ _ scaleNonzero]

/-! ## The two projections -/

namespace WebMercator

variable (projection : WebMercator ℝ)

theorem project_real (point : GeographicPoint ℝ) :
    projection.project .real point =
      some ⟨projection.ellipsoid.semimajor * point.longitudeRadians,
        projection.ellipsoid.semimajor * stretched (1 / 2) point.latitudeRadians⟩ := by
  have angle : pi / 4.0 + point.latitudeRadians / 2.0 = pi / 4 + 1 / 2 * point.latitudeRadians := by
    norm_num
    ring
  show some (Point.mk _ (_ * log (tan (pi / 4.0 + point.latitudeRadians / 2.0)))) = _
  rw [angle]
  rfl

theorem unproject_real (point : Point ℝ) :
    projection.unproject .real point =
      some ⟨toDegrees (relaxed (1 / 2) (point.y / projection.ellipsoid.semimajor)),
        toDegrees (point.x / projection.ellipsoid.semimajor)⟩ := by
  have latitude : pi / 2.0 - 2.0 * arctan (exp (-point.y / projection.ellipsoid.semimajor)) =
      relaxed (1 / 2) (point.y / projection.ellipsoid.semimajor) := by
    rw [neg_div, arctan_exp_neg]
    unfold relaxed
    norm_num
    ring
  show some (GeographicPoint.mk (toDegrees (pi / 2.0 - 2.0 * arctan (exp _))) _) = _
  rw [latitude]

end WebMercator

namespace Miller

variable (projection : Miller ℝ)

theorem project_real (point : GeographicPoint ℝ) :
    projection.project .real point =
      some ⟨projection.ellipsoid.semimajor * point.longitudeRadians,
        1.25 * projection.ellipsoid.semimajor * stretched 0.4 point.latitudeRadians⟩ := by
  have angle : pi / 4.0 + 0.4 * point.latitudeRadians = pi / 4 + 0.4 * point.latitudeRadians := by
    norm_num
  show some (Point.mk _ (_ * log (tan (pi / 4.0 + 0.4 * point.latitudeRadians)))) = _
  rw [angle]
  rfl

theorem unproject_real (point : Point ℝ) :
    projection.unproject .real point =
      some ⟨toDegrees (relaxed 0.4 (point.y / (1.25 * projection.ellipsoid.semimajor))),
        toDegrees (point.x / projection.ellipsoid.semimajor)⟩ := by
  have northing : 0.8 * point.y / projection.ellipsoid.semimajor =
      point.y / (1.25 * projection.ellipsoid.semimajor) := by
    norm_num
    ring
  have latitude : 2.5 * arctan (exp (0.8 * point.y / projection.ellipsoid.semimajor)) -
      2.5 * (pi / 4.0) = relaxed 0.4 (point.y / (1.25 * projection.ellipsoid.semimajor)) := by
    rw [northing]
    unfold relaxed
    norm_num
    ring
  show some (GeographicPoint.mk (toDegrees (2.5 * arctan (exp _) - 2.5 * (pi / 4.0))) _) = _
  rw [latitude]

end Miller

/-- Without rounding, the projections with a closed inverse are inverse to it in both directions:
on all of the plane, and on all latitudes between the poles or, for the Miller projection, between
112.5 degrees. -/
theorem mutuallyInverse_closedForms (ellipsoid : Ellipsoid ℝ) (positive : 0 < ellipsoid.semimajor) :
    MutuallyInverse ((WebMercator.mk ellipsoid).project .real)
        ((WebMercator.mk ellipsoid).unproject .real) 90 ∧
      MutuallyInverse ((Miller.mk ellipsoid).project .real)
        ((Miller.mk ellipsoid).unproject .real) 112.5 := by
  constructor
  · exact mutuallyInverse_of_stretched positive.ne' positive.ne' (by norm_num) (by norm_num)
      (WebMercator.project_real _) (WebMercator.unproject_real _)
  · have scalePositive : 0 < 1.25 * ellipsoid.semimajor := mul_pos (by norm_num) positive
    exact mutuallyInverse_of_stretched positive.ne' scalePositive.ne' (by norm_num) (by norm_num)
      (Miller.project_real _) (Miller.unproject_real _)

/-- A point near the pole and, in the Miller projection, a point of the pole. -/
theorem mutuallyInverse_closedForms_wgs84 :
    0 < realWgs84.semimajor ∧
      ((WebMercator.mk realWgs84).project .real ⟨89, 120⟩).bind
        ((WebMercator.mk realWgs84).unproject .real) = some ⟨89, 120⟩ ∧
      ((Miller.mk realWgs84).project .real ⟨90, 120⟩).bind
        ((Miller.mk realWgs84).unproject .real) = some ⟨90, 120⟩ := by
  have positive : 0 < realWgs84.semimajor := by
    unfold realWgs84
    norm_num
  obtain ⟨web, miller⟩ := mutuallyInverse_closedForms realWgs84 positive
  exact ⟨positive, web.unproject_project ⟨89, 120⟩ (by norm_num) (by norm_num),
    miller.unproject_project ⟨90, 120⟩ (by norm_num) (by norm_num)⟩

end CoordinateConformance
