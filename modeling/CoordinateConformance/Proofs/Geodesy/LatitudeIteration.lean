import Mathlib
import CoordinateConformance.Proofs.Geodesy.Passes
import CoordinateConformance.Proofs.Geodesy.RealNumbers

/-!
Contract: the latitude that the Mercator projection of the ellipsoid finds, without rounding.

One pass of the loop is a function of the estimate whose derivative is at most the square of the
eccentricity, on all latitudes between the poles, if that square is at most one half. The latitude
that was projected is a fixed point of it. So every pass brings the estimate closer by this factor,
and the error of the last estimate is known from the number of passes, or from how far the last pass
moved it.

Owns: `Mercator.abs_refine_sub_le`, `Mercator.refine_project`, `Mercator.abs_iterate_sub_le`,
`Mercator.unproject_project_latitude`.

Does **not** own: the error of the operations, which are exact here.
-/

namespace CoordinateConformance.Mercator

open scoped RealNumbers
open Real (pi pi_pos sin cos tan arctan log exp)

/-! ## One pass -/

section Pass

variable {e : ℝ}

theorem correction_real (e latitude : ℝ) :
    correction .real e latitude =
      ((1 - e * sin latitude) / (1 + e * sin latitude)) ^ (e / 2) := by
  show ((1.0 - e * sin latitude) / (1.0 + e * sin latitude)) ^ (e / 2.0) = _
  norm_num

theorem refine_real (e t latitude : ℝ) :
    refine .real e t latitude = pi / 2 - 2 * arctan (t * correction .real e latitude) := by
  show pi / 2.0 - 2.0 * arctan (t * correction .real e latitude) = _
  norm_num

/-- The squared sine is at most one, so the product is below one. -/
theorem abs_mul_sin_lt (small : e * e ≤ 1 / 2) (latitude : ℝ) : |e * sin latitude| < 1 := by
  rw [← sq_lt_one_iff_abs_lt_one]
  calc (e * sin latitude) ^ 2 = e * e * sin latitude ^ 2 := by ring
    _ ≤ 1 / 2 * 1 := mul_le_mul small (Real.sin_sq_le_one latitude) (sq_nonneg _) (by norm_num)
    _ < 1 := by norm_num

variable (small : e * e ≤ 1 / 2)

include small

theorem correction_pos (latitude : ℝ) : 0 < correction .real e latitude := by
  obtain ⟨below, above⟩ := abs_lt.mp (abs_mul_sin_lt small latitude)
  rw [correction_real]
  exact Real.rpow_pos_of_pos (div_pos (by linarith) (by linarith)) _

theorem hasDerivAt_correction (latitude : ℝ) :
    HasDerivAt (correction .real e)
      (-(e * e * cos latitude / (1 - e * e * sin latitude ^ 2)) * correction .real e latitude)
      latitude := by
  obtain ⟨below, above⟩ := abs_lt.mp (abs_mul_sin_lt small latitude)
  have numerator : 1 - e * sin latitude ≠ 0 := by linarith
  have denominator : 1 + e * sin latitude ≠ 0 := by linarith
  have base : (1 - e * sin latitude) / (1 + e * sin latitude) ≠ 0 :=
    div_ne_zero numerator denominator
  have factors : 1 - e * e * sin latitude ^ 2 =
      (1 - e * sin latitude) * (1 + e * sin latitude) := by ring
  have sine : HasDerivAt (fun x => e * sin x) (e * cos latitude) latitude :=
    (Real.hasDerivAt_sin latitude).const_mul e
  have ratio := (sine.const_sub 1).fun_div (sine.const_add 1) denominator
  have power := ratio.rpow_const (p := e / 2) (Or.inl base)
  rw [show correction .real e = _ from funext (correction_real e)]
  refine power.congr_deriv ?_
  rw [Real.rpow_sub_one base, factors]
  beta_reduce
  field_simp
  ring

/-- The slope of a pass. The first factor is the sine of an angle, the second one is at most the
squared eccentricity between the poles. -/
theorem hasDerivAt_refine (t latitude : ℝ) :
    HasDerivAt (refine .real e t)
      (2 * (t * correction .real e latitude) / (1 + (t * correction .real e latitude) ^ 2) *
        (e * e * cos latitude / (1 - e * e * sin latitude ^ 2))) latitude := by
  have scaled := (hasDerivAt_correction small latitude).const_mul t
  have pass := (scaled.arctan.const_mul 2).const_sub (pi / 2)
  rw [show refine .real e t = _ from funext (refine_real e t)]
  refine pass.congr_deriv ?_
  ring

/-- Between the poles the cosine is at most the square of what the ellipsoid leaves of the
radius. -/
theorem cos_le_one_sub {latitude : ℝ} (cosine : 0 ≤ cos latitude) :
    cos latitude ≤ 1 - e * e * sin latitude ^ 2 := by
  have cosineLe : cos latitude ≤ 1 := Real.cos_le_one latitude
  have factor : e * e * (1 + cos latitude) ≤ 1 := by
    calc e * e * (1 + cos latitude) ≤ 1 / 2 * (1 + cos latitude) :=
          mul_le_mul_of_nonneg_right small (by linarith)
      _ ≤ 1 := by linarith
  have product : 0 ≤ (1 - cos latitude) * (1 - e * e * (1 + cos latitude)) :=
    mul_nonneg (by linarith) (by linarith)
  have factors : 1 - e * e * sin latitude ^ 2 - cos latitude =
      (1 - cos latitude) * (1 - e * e * (1 + cos latitude)) := by
    rw [Real.sin_sq]
    ring
  linarith

theorem abs_slope_le {t : ℝ} (positive : 0 < t) {latitude : ℝ} (south : -(pi / 2) ≤ latitude)
    (north : latitude ≤ pi / 2) :
    |2 * (t * correction .real e latitude) / (1 + (t * correction .real e latitude) ^ 2) *
        (e * e * cos latitude / (1 - e * e * sin latitude ^ 2))| ≤ e * e := by
  have cosine : 0 ≤ cos latitude := Real.cos_nonneg_of_neg_pi_div_two_le_of_le south north
  have argument : 0 < t * correction .real e latitude :=
    mul_pos positive (correction_pos small latitude)
  generalize t * correction .real e latitude = u at argument
  have remaining : 0 ≤ 1 - e * e * sin latitude ^ 2 := cosine.trans (cos_le_one_sub small cosine)
  have first : |2 * u / (1 + u ^ 2)| ≤ 1 := by
    rw [abs_of_nonneg (by positivity), div_le_one (by positivity)]
    nlinarith [sq_nonneg (u - 1)]
  have second : |e * e * cos latitude / (1 - e * e * sin latitude ^ 2)| ≤ e * e := by
    have nonneg : 0 ≤ e * e * cos latitude := mul_nonneg (mul_self_nonneg e) cosine
    rw [abs_of_nonneg (div_nonneg nonneg remaining)]
    exact div_le_of_le_mul₀ remaining (mul_self_nonneg e)
      (mul_le_mul_of_nonneg_left (cos_le_one_sub small cosine) (mul_self_nonneg e))
  calc |2 * u / (1 + u ^ 2) * (e * e * cos latitude / (1 - e * e * sin latitude ^ 2))|
      = |2 * u / (1 + u ^ 2)| * |e * e * cos latitude / (1 - e * e * sin latitude ^ 2)| :=
        abs_mul _ _
    _ ≤ 1 * (e * e) := mul_le_mul first second (abs_nonneg _) zero_le_one
    _ = e * e := one_mul _

/-- A pass brings two estimates closer to each other, by the mean value theorem. -/
theorem abs_refine_sub_le {t : ℝ} (positive : 0 < t) {first second : ℝ}
    (firstMem : first ∈ Set.Icc (-(pi / 2)) (pi / 2))
    (secondMem : second ∈ Set.Icc (-(pi / 2)) (pi / 2)) :
    |refine .real e t first - refine .real e t second| ≤ e * e * |first - second| := by
  have bounded := (convex_Icc (-(pi / 2)) (pi / 2)).norm_image_sub_le_of_norm_hasDerivWithin_le
    (fun latitude _ => (hasDerivAt_refine small t latitude).hasDerivWithinAt)
    (fun latitude mem => abs_slope_le small positive mem.1 mem.2) secondMem firstMem
  simpa only [Real.norm_eq_abs] using bounded

theorem refine_mem {t : ℝ} (positive : 0 < t) (latitude : ℝ) :
    refine .real e t latitude ∈ Set.Icc (-(pi / 2)) (pi / 2) := by
  have argument : 0 < t * correction .real e latitude :=
    mul_pos positive (correction_pos small latitude)
  have above := Real.arctan_lt_pi_div_two (t * correction .real e latitude)
  have below := Real.arctan_pos.mpr argument
  rw [refine_real]
  constructor
  · linarith
  · linarith

end Pass

/-! ## The loop -/

section Loop

variable {e t latitude : ℝ} (small : e * e ≤ 1 / 2) (positive : 0 < t)
  (fixed : refine .real e t latitude = latitude)
  (latitudeMem : latitude ∈ Set.Icc (-(pi / 2)) (pi / 2))

include small positive fixed latitudeMem

theorem abs_refine_sub_fixed_le {estimate : ℝ}
    (estimateMem : estimate ∈ Set.Icc (-(pi / 2)) (pi / 2)) :
    |refine .real e t estimate - latitude| ≤ e * e * |estimate - latitude| := by
  have closer := abs_refine_sub_le small positive estimateMem latitudeMem
  rwa [fixed] at closer

/-- A pass that is the last one moves the estimate by less than the tolerance, and the error that it
leaves is some part of that. -/
theorem abs_refine_sub_le_of_isSettled {estimate : ℝ}
    (estimateMem : estimate ∈ Set.Icc (-(pi / 2)) (pi / 2))
    (settled : isSettled .real e t estimate = true) :
    |refine .real e t estimate - latitude| ≤ 1e-12 * (e * e) / (1 - e * e) := by
  have closer := abs_refine_sub_fixed_le small positive fixed latitudeMem estimateMem
  have moved : |refine .real e t estimate - estimate| < 1e-12 := of_decide_eq_true settled
  have triangle : |estimate - latitude| ≤
      |refine .real e t estimate - estimate| + |refine .real e t estimate - latitude| := by
    rw [abs_sub_comm (refine .real e t estimate) estimate]
    exact abs_sub_le _ _ _
  have squareNonneg := mul_self_nonneg e
  rw [le_div_iff₀ (by linarith)]
  nlinarith

theorem abs_iterate_sub_le (passes : Nat) {estimate : ℝ}
    (estimateMem : estimate ∈ Set.Icc (-(pi / 2)) (pi / 2)) :
    |iterate .real e t passes estimate - latitude| ≤
      |estimate - latitude| * (e * e) ^ passesMade .real e t passes estimate := by
  induction passes generalizing estimate with
  | zero => simp [iterate, passesMade]
  | succ passes inductionHypothesis =>
      have closer := abs_refine_sub_fixed_le small positive fixed latitudeMem estimateMem
      rw [iterate_succ, passesMade]
      by_cases settled : isSettled .real e t estimate = true
      · rw [if_pos settled, if_pos settled, pow_one, mul_comm]
        exact closer
      · rw [if_neg settled, if_neg settled, pow_succ]
        have later := inductionHypothesis (refine_mem small positive estimate)
        have powerNonneg : 0 ≤ (e * e) ^ passesMade .real e t passes (refine .real e t estimate) :=
          pow_nonneg (mul_self_nonneg e) _
        calc _ ≤ _ := later
          _ ≤ e * e * |estimate - latitude| *
              (e * e) ^ passesMade .real e t passes (refine .real e t estimate) :=
            mul_le_mul_of_nonneg_right closer powerNonneg
          _ = _ := by ring

theorem abs_iterate_sub_le_of_settles {passes : Nat} {estimate : ℝ}
    (estimateMem : estimate ∈ Set.Icc (-(pi / 2)) (pi / 2))
    (settled : settles .real e t passes estimate = true) :
    |iterate .real e t passes estimate - latitude| ≤ 1e-12 * (e * e) / (1 - e * e) := by
  induction passes generalizing estimate with
  | zero => cases settled
  | succ passes inductionHypothesis =>
      rw [iterate_succ]
      by_cases now : isSettled .real e t estimate = true
      · rw [if_pos now]
        exact abs_refine_sub_le_of_isSettled small positive fixed latitudeMem estimateMem now
      · rw [if_neg now]
        rw [settles, Bool.or_eq_true] at settled
        exact inductionHypothesis (refine_mem small positive estimate) (settled.resolve_left now)

end Loop

/-! ## Round trips -/

section RoundTrip

theorem firstEstimate_real (t : ℝ) : firstEstimate .real t = pi / 2 - 2 * arctan t := by
  show pi / 2.0 - 2.0 * arctan t = _
  norm_num

theorem firstEstimate_mem {t : ℝ} (positive : 0 < t) :
    firstEstimate .real t ∈ Set.Icc (-(pi / 2)) (pi / 2) := by
  have above := Real.arctan_lt_pi_div_two t
  have below := Real.arctan_pos.mpr positive
  rw [firstEstimate_real]
  constructor
  · linarith
  · linarith

variable {projection : Mercator ℝ}

theorem project_real (point : GeographicPoint ℝ) :
    projection.project .real point =
      some ⟨projection.falseEasting + projection.radius *
          (point.longitudeRadians - toRadians projection.centralMeridian),
        projection.falseNorthing + projection.radius *
          log (tan (pi / 4 + point.latitudeRadians / 2) *
            correction .real projection.ellipsoid.eccentricity point.latitudeRadians)⟩ := by
  have angle : pi / 4.0 + point.latitudeRadians / 2.0 = pi / 4 + point.latitudeRadians / 2 := by
    norm_num
  show some (Point.mk _ (_ + _ * log (tan (pi / 4.0 + point.latitudeRadians / 2.0) * _))) = _
  rw [angle]

theorem unproject_real (point : Point ℝ) :
    projection.unproject .real point =
      some ⟨toDegrees (iterate .real projection.ellipsoid.eccentricity
          (projection.ratio .real point) maximalPasses
          (firstEstimate .real (projection.ratio .real point))),
        toDegrees ((point.x - projection.falseEasting) / projection.radius +
          toRadians projection.centralMeridian)⟩ :=
  rfl

theorem ratio_project (nonzero : projection.radius ≠ 0) {point : GeographicPoint ℝ}
    {image : Point ℝ} (projected : projection.project .real point = some image) :
    projection.ratio .real image =
      exp (-log (tan (pi / 4 + point.latitudeRadians / 2) *
        correction .real projection.ellipsoid.eccentricity point.latitudeRadians)) := by
  rw [project_real, Option.some_inj] at projected
  subst projected
  show exp ((projection.falseNorthing - (projection.falseNorthing + projection.radius * _)) /
    projection.radius) = _
  rw [sub_add_cancel_left, neg_div, mul_div_cancel_left₀ _ nonzero]

/-- The latitude that was projected is a fixed point of a pass. -/
theorem refine_project {e latitude : ℝ} (small : e * e ≤ 1 / 2) (south : -(pi / 2) < latitude)
    (north : latitude < pi / 2) :
    refine .real e (exp (-log (tan (pi / 4 + latitude / 2) * correction .real e latitude)))
      latitude = latitude := by
  have tanPositive : 0 < tan (pi / 4 + latitude / 2) :=
    Real.tan_pos_of_pos_of_lt_pi_div_two (by linarith) (by linarith)
  have correctionPositive := correction_pos small latitude
  have argument : exp (-log (tan (pi / 4 + latitude / 2) * correction .real e latitude)) *
      correction .real e latitude = (tan (pi / 4 + latitude / 2))⁻¹ := by
    rw [Real.exp_neg, Real.exp_log (mul_pos tanPositive correctionPositive)]
    field_simp
  rw [refine_real, argument, Real.arctan_inv_of_pos tanPositive,
    Real.arctan_tan (by linarith) (by linarith)]
  ring

end RoundTrip

/-- What the loop does with a number that stands for a latitude, and how close it comes: the
latitude is a fixed point, a pass brings estimates closer to it, and the error depends on why the
loop ends. -/
structure Converges (e t latitude found : ℝ) : Prop where
  fixed : refine .real e t latitude = latitude
  closer : ∀ estimate, -(pi / 2) ≤ estimate → estimate ≤ pi / 2 →
    |refine .real e t estimate - latitude| ≤ e * e * |estimate - latitude|
  ends : settles .real e t maximalPasses (firstEstimate .real t) = true ∨
    passesMade .real e t maximalPasses (firstEstimate .real t) = maximalPasses
  settled : settles .real e t maximalPasses (firstEstimate .real t) = true →
    |found - latitude| ≤ 1e-12 * (e * e) / (1 - e * e)
  exhausted : passesMade .real e t maximalPasses (firstEstimate .real t) = maximalPasses →
    |found - latitude| ≤ pi * (e * e) ^ 15

theorem converges_iterate {e t latitude : ℝ} (small : e * e ≤ 1 / 2) (positive : 0 < t)
    (fixed : refine .real e t latitude = latitude) (south : -(pi / 2) ≤ latitude)
    (north : latitude ≤ pi / 2) :
    Converges e t latitude (iterate .real e t maximalPasses (firstEstimate .real t)) := by
  have mem : latitude ∈ Set.Icc (-(pi / 2)) (pi / 2) := ⟨south, north⟩
  have startMem := firstEstimate_mem positive
  constructor
  · exact fixed
  · intro estimate estimateSouth estimateNorth
    exact abs_refine_sub_fixed_le small positive fixed mem ⟨estimateSouth, estimateNorth⟩
  · exact settles_or_passesMade_eq .real e t maximalPasses (firstEstimate .real t)
  · intro settled
    exact abs_iterate_sub_le_of_settles small positive fixed mem startMem settled
  · intro exhausted
    have error := abs_iterate_sub_le small positive fixed mem maximalPasses startMem
    have start : |firstEstimate .real t - latitude| ≤ pi := by
      rw [abs_le]
      constructor
      · linarith [startMem.1]
      · linarith [startMem.2]
    rw [exhausted] at error
    exact error.trans (mul_le_mul_of_nonneg_right start (pow_nonneg (mul_self_nonneg e) 15))

/-- A point between the poles is projected and found again without rounding: its longitude exactly,
and its latitude up to the error of the loop. The eccentricity is a square root, and its square is
at most one half. -/
theorem unproject_project_latitude (projection : Mercator ℝ)
    (semimajor : 0 < projection.ellipsoid.semimajor) (scale : 0 < projection.scaleFactor)
    (small : projection.ellipsoid.eccentricity * projection.ellipsoid.eccentricity ≤ 1 / 2)
    (point : GeographicPoint ℝ) (south : -90 < point.latitude) (north : point.latitude < 90) :
    ∃ image back, projection.project .real point = some image ∧
      projection.unproject .real image = some back ∧
      back.longitude = point.longitude ∧
      Converges projection.ellipsoid.eccentricity (projection.ratio .real image)
        point.latitudeRadians back.latitudeRadians := by
  have nonzero : projection.radius ≠ 0 := (mul_pos semimajor scale).ne'
  have southRadians : -(pi / 2) < point.latitudeRadians := by
    calc -(pi / 2) = toRadians (-90) := by rw [toRadians_real]; ring
      _ < toRadians point.latitude := toRadians_lt_toRadians south
  have northRadians : point.latitudeRadians < pi / 2 := by
    calc toRadians point.latitude < toRadians 90 := toRadians_lt_toRadians north
      _ = pi / 2 := by rw [toRadians_real]; ring
  refine ⟨_, _, project_real point, unproject_real _, ?_, ?_⟩
  · dsimp only
    rw [add_sub_cancel_left, mul_div_cancel_left₀ _ nonzero, sub_add_cancel]
    exact toDegrees_toRadians point.longitude
  · rw [ratio_project nonzero (project_real point)]
    show Converges _ _ _ (toRadians (toDegrees _))
    rw [toRadians_toDegrees]
    exact converges_iterate small (Real.exp_pos _)
      (refine_project small southRadians northRadians) southRadians.le northRadians.le

/-- The control point of Makassar, on WGS 84. -/
theorem unproject_project_latitude_makassar :
    ∃ image back, (Mercator.mk realWgs84 110 0.997 3900000 900000).project .real ⟨-3, 120⟩ =
        some image ∧
      (Mercator.mk realWgs84 110 0.997 3900000 900000).unproject .real image = some back ∧
      back.longitude = 120 ∧
      Converges realWgs84.eccentricity
        ((Mercator.mk realWgs84 110 0.997 3900000 900000).ratio .real image)
        (toRadians (-3)) back.latitudeRadians := by
  have semimajor : 0 < realWgs84.semimajor := by
    unfold realWgs84
    norm_num
  have small : realWgs84.eccentricity * realWgs84.eccentricity ≤ 1 / 2 := by
    rw [Ellipsoid.eccentricity_real, Real.mul_self_sqrt (by norm_num [realWgs84])]
    norm_num [realWgs84]
  exact unproject_project_latitude (Mercator.mk realWgs84 110 0.997 3900000 900000) semimajor
    (by norm_num) small ⟨-3, 120⟩ (by norm_num) (by norm_num)

end CoordinateConformance.Mercator
