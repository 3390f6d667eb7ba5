import CoordinateConformance.Proofs.Operation.Pointwise
import CoordinateConformance.Proofs.Tolerance.Registration
import CoordinateConformance.Proofs.Verification.WordSizes

/-!
Contract: projections that lead points back to exactly where they started.

An operation takes longitudes before latitudes, a projection is given points by latitude and
longitude, and the plane has its own order. If the way back from the image of every point ends at
the same longitude and latitude, a list of points comes back from its image as it was, and only
then. Comparing equal values does not depend on tolerances. So the domain check passes whatever
modifiers are registered, if only there is room for its grid, and there are modifiers with which it
passes in no other case.

Owns: `Projection.ReturnsExactly`, `Projection.AllReturn`, `ComesBack`, `exactRoundTrip`.

Does **not** own: projections that lead back approximately.
-/

namespace CoordinateConformance

open Comparison (Agree)

/-! ## Points and lists that come back -/

namespace Projection

/-- The way back from the image of a point ends at the same longitude and latitude. -/
def ReturnsExactly (projection : Projection) (longitude latitude : Float) : Prop :=
  ∃ image back, projection.project (.ofLongitudeLatitude longitude latitude) = some image ∧
    projection.unproject image = some back ∧
    Same longitude back.longitude ∧ Same latitude back.latitude

/-- The list holds pairs of longitude and latitude, all of which come back. -/
structure AllReturn (projection : Projection) (points : List Float) : Prop where
  even : Even points.length
  returns : ∀ index longitude latitude, points[2 * index]? = some longitude →
    points[2 * index + 1]? = some latitude → projection.ReturnsExactly longitude latitude

theorem allReturn_cons_cons (projection : Projection) (longitude latitude : Float)
    (rest : List Float) :
    projection.AllReturn (longitude :: latitude :: rest) ↔
      projection.ReturnsExactly longitude latitude ∧ projection.AllReturn rest := by
  have evenIff : Even (longitude :: latitude :: rest).length ↔ Even rest.length := by
    rw [List.length_cons, List.length_cons]
    simp [Nat.even_add_one]
  constructor
  · rintro ⟨even, returns⟩
    exact ⟨returns 0 longitude latitude rfl rfl, evenIff.mp even,
      fun index => returns (index + 1)⟩
  · rintro ⟨first, even, returns⟩
    refine ⟨evenIff.mpr even, fun index x y xEq yEq => ?_⟩
    cases index with
    | zero =>
        cases xEq
        cases yEq
        exact first
    | succ index => exact returns index x y xEq yEq

end Projection

/-- Sent through an operation and through its inverse, the list comes back with the same values at
the same places. -/
def ComesBack (operation : Operation) (points : List Float) : Prop :=
  ∃ inverse images back, operation.inverse? = some inverse ∧
    operation.transform points = some images ∧ inverse.transform images = some back ∧
    List.Forall₂ Same points back

/-! ## The first point of a list -/

section Lists

variable (name : String) (projection : Projection)

theorem transform_forward_eq_some_iff {longitude latitude : Float} {rest images : List Float} :
    (ProjectedOperation.forward name projection).transform (longitude :: latitude :: rest) =
        some images ↔
      ∃ image tail, projection.project (.ofLongitudeLatitude longitude latitude) = some image ∧
        (ProjectedOperation.forward name projection).transform rest = some tail ∧
        images = image.x :: image.y :: tail := by
  rw [ProjectedOperation.transform_cons_cons_eq_some_iff]
  constructor
  · rintro ⟨pair, tail, pairEq, tailEq, rfl⟩
    obtain ⟨image, imageEq, rfl⟩ := Option.map_eq_some_iff.mp pairEq
    exact ⟨image, tail, imageEq, tailEq, rfl⟩
  · rintro ⟨image, tail, imageEq, tailEq, rfl⟩
    exact ⟨_, tail, Option.map_eq_some_iff.mpr ⟨image, imageEq, rfl⟩, tailEq, rfl⟩

theorem transform_inverse_eq_some_iff {x y : Float} {rest images : List Float} :
    (ProjectedOperation.forward name projection).inverse.transform (x :: y :: rest) =
        some images ↔
      ∃ back tail, projection.unproject ⟨x, y⟩ = some back ∧
        (ProjectedOperation.forward name projection).inverse.transform rest = some tail ∧
        images = back.longitude :: back.latitude :: tail := by
  rw [ProjectedOperation.transform_cons_cons_eq_some_iff]
  constructor
  · rintro ⟨pair, tail, pairEq, tailEq, rfl⟩
    obtain ⟨back, backEq, rfl⟩ := Option.map_eq_some_iff.mp pairEq
    exact ⟨back, tail, backEq, tailEq, rfl⟩
  · rintro ⟨back, tail, backEq, tailEq, rfl⟩
    exact ⟨_, tail, Option.map_eq_some_iff.mpr ⟨back, backEq, rfl⟩, tailEq, rfl⟩

/-- By induction on the points: the images of a list are those of its first point and of the
rest. -/
theorem allReturn_iff (points : List Float) :
    projection.AllReturn points ↔
      ∃ images back, (ProjectedOperation.forward name projection).transform points = some images ∧
        (ProjectedOperation.forward name projection).inverse.transform images = some back ∧
        List.Forall₂ Same points back := by
  induction points using ProjectedOperation.transform.induct with
  | case1 =>
      refine ⟨fun _ => ⟨[], [], rfl, rfl, .nil⟩, fun _ => ⟨⟨0, rfl⟩, ?_⟩⟩
      simp
  | case2 single =>
      constructor
      · rintro ⟨odd, _⟩
        simp at odd
      · rintro ⟨images, back, missing, _⟩
        cases missing
  | case3 longitude latitude rest inductionHypothesis =>
      rw [Projection.allReturn_cons_cons, inductionHypothesis]
      constructor
      · rintro ⟨⟨image, back, imageEq, backEq, sameLongitude, sameLatitude⟩,
          images, backs, imagesEq, backsEq, same⟩
        exact ⟨_, _,
          (transform_forward_eq_some_iff name projection).mpr
            ⟨image, images, imageEq, imagesEq, rfl⟩,
          (transform_inverse_eq_some_iff name projection).mpr
            ⟨back, backs, backEq, backsEq, rfl⟩,
          .cons sameLongitude (.cons sameLatitude same)⟩
      · rintro ⟨_, _, allImagesEq, allBacksEq, same⟩
        obtain ⟨image, images, imageEq, imagesEq, rfl⟩ :=
          (transform_forward_eq_some_iff name projection).mp allImagesEq
        obtain ⟨back, backs, backEq, backsEq, rfl⟩ :=
          (transform_inverse_eq_some_iff name projection).mp allBacksEq
        rw [List.forall₂_cons, List.forall₂_cons] at same
        obtain ⟨sameLongitude, sameLatitude, same⟩ := same
        exact ⟨⟨image, back, imageEq, backEq, sameLongitude, sameLatitude⟩,
          images, backs, imagesEq, backsEq, same⟩

theorem allReturn_iff_comesBack (points : List Float) :
    projection.AllReturn points ↔ ComesBack (.projected (.forward name projection)) points := by
  rw [allReturn_iff name projection]
  constructor
  · rintro ⟨images, back, imagesEq, backEq, same⟩
    exact ⟨_, images, back, rfl, imagesEq, backEq, same⟩
  · rintro ⟨inverse, images, back, inverseEq, imagesEq, backEq, same⟩
    cases inverseEq
    exact ⟨images, back, imagesEq, backEq, same⟩

end Lists

/-! ## Zero tolerances -/

/-- Makes all tolerances zero. -/
def zeroTolerances : ToleranceModifier :=
  .constant Calculation.all 0.0

theorem eq_zero_of_adjusted {tolerances coordinate : List Float} {axis : Nat} {tolerance : Float}
    (adjustedEq : (Comparison.adjusted zeroTolerances tolerances .inverse coordinate)[axis]? =
      some tolerance) : tolerance = 0.0 := by
  have mapped : Comparison.adjusted zeroTolerances tolerances .inverse coordinate =
      tolerances.map fun _ => 0.0 := rfl
  rw [mapped, List.getElem?_map] at adjustedEq
  obtain ⟨_, _, zero⟩ := Option.map_eq_some_iff.mp adjustedEq
  exact zero.symm

/-- With the tolerance zero, grid points that agree are the same. -/
theorem forall₂_same_of_agree {first second tolerances : List Float} {dimension : Nat}
    (agree : Agree first second tolerances dimension zeroTolerances .inverse) :
    List.Forall₂ Same first second := by
  have exact : ∀ (point axis : Nat) (tolerance : Float),
      (Comparison.adjusted zeroTolerances tolerances .inverse
        (Comparison.coordinate dimension second point))[axis]? = some tolerance →
      IsExact tolerance := by
    intro point axis tolerance adjustedEq
    rw [eq_zero_of_adjusted adjustedEq]
    exact fun _ _ => same_of_passes_zero
  exact ((agree_iff_of_isExact exact).mp agree).2.2.2

theorem modifier_withModifiers_insert (test : TestCase) (sample : Sample)
    (modifier : ToleranceModifier) :
    (test.withModifiers (.insert .empty (.ofCode sample.target) modifier)).modifier sample =
      modifier := by
  unfold TestCase.modifier TestCase.withModifiers ModifierRegistry.getOrIdentity
  rw [ModifierRegistry.get?_insert_self]
  rfl

/-! ## The domain check -/

section Domain

variable [SizeArithmetic]

/-- A projection maps points in the plane to as many, which only have to be counted. -/
theorem maps_projected_iff {operation : ProjectedOperation} {points image : List Float}
    (even : Even points.length) :
    Maps (.projected operation) points image ↔
      operation.transform points = some image ∧ SizeArithmetic.fits points.length = true := by
  have declared : (Operation.projected operation).exactLength points.length = points.length :=
    Nat.div_two_mul_two_of_even even
  constructor
  · intro maps
    exact ⟨maps.transform_eq, declared ▸ maps.fits⟩
  · rintro ⟨some, count⟩
    refine ⟨some, ?_, ?_⟩
    · rw [declared]
      exact count
    · rw [declared]
      exact ProjectedOperation.length_of_transform some

variable (test : TestCase) (sample : Sample)

/-- The check of a projection: there is room for the grid, the grid has an image, the image has one,
and that agrees with the grid. -/
theorem verifyInDomain_projected_eq_ok_iff (operation : ProjectedOperation) :
    let grid := TestCase.grid sample.area test.configuration.gridSize
    test.verifyInDomain sample (.projected operation) = .ok () ↔
      GridFits test.configuration.gridSize ∧ ∃ images back,
        operation.transform grid = some images ∧ operation.inverse.transform images = some back ∧
        Agree grid back (test.tolerances 2) 2 (test.modifier sample) .inverse := by
  intro grid
  have isGrid : IsGrid sample.area test.configuration.gridSize grid :=
    isGrid_grid sample.area (two_le_gridSize test)
  have even : Even grid.length := ⟨_, isGrid.length_eq.trans (Nat.two_mul _)⟩
  rw [decides_verifyInDomain.ok_iff]
  constructor
  · intro holds
    obtain ⟨_, fits, points, images, back, isGridToo, maps, mapsBack, agree⟩ := holds _ rfl
    cases isGridToo.unique isGrid
    have image := ((maps_projected_iff even).mp maps).1
    have evenImages : Even images.length :=
      (ProjectedOperation.length_of_transform image).symm ▸ even
    exact ⟨fits, images, back, image, ((maps_projected_iff evenImages).mp mapsBack).1, agree⟩
  · rintro ⟨fits, images, back, image, backEq, agree⟩ inverse inverseEq
    cases inverseEq
    have length := ProjectedOperation.length_of_transform image
    have count : SizeArithmetic.fits grid.length = true := by
      rw [isGrid.length_eq, Nat.mul_comm]
      exact fits.values
    exact ⟨rfl, fits, grid, images, back, isGrid, (maps_projected_iff even).mpr ⟨image, count⟩,
      (maps_projected_iff (length ▸ even)).mpr ⟨backEq, length ▸ count⟩, agree⟩

/-- The check passes with all registries exactly if the grid comes back and there is room for it. -/
theorem verifyInDomain_projected_iff (name : String) (projection : Projection) :
    (∀ modifiers, (test.withModifiers modifiers).verifyInDomain sample
        (.projected (.forward name projection)) = .ok ()) ↔
      GridFits test.configuration.gridSize ∧
        projection.AllReturn (TestCase.grid sample.area test.configuration.gridSize) := by
  have checked := fun modifiers => verifyInDomain_projected_eq_ok_iff
    (test.withModifiers modifiers) sample (.forward name projection)
  have length := (isGrid_grid sample.area (two_le_gridSize test)).length_eq
  rw [allReturn_iff name projection]
  constructor
  · intro passes
    obtain ⟨fits, images, back, imagesEq, backEq, agree⟩ := (checked _).mp
      (passes (.insert .empty (.ofCode sample.target) zeroTolerances))
    rw [modifier_withModifiers_insert] at agree
    exact ⟨fits, images, back, imagesEq, backEq, forall₂_same_of_agree agree⟩
  · rintro ⟨fits, images, back, imagesEq, backEq, same⟩ modifiers
    refine (checked modifiers).mpr ⟨fits, images, back, imagesEq, backEq, ?_⟩
    exact agree_of_same two_ne_zero List.length_replicate (length ▸ Nat.dvd_mul_right _ _) same

theorem verifyInDomain_projected_of_not_gridFits (operation : ProjectedOperation)
    (tooLarge : ¬GridFits test.configuration.gridSize) :
    test.verifyInDomain sample (.projected operation) = .error .panic :=
  (decides_verifyInDomain.error_iff .panic).mpr (.noRoom _ rfl rfl tooLarge)

end Domain

/-! ## Result -/

/-- A list of points comes back through an operation and its inverse if and only if the projection
leads each of its points back. If it does so for the grid of a test, the domain check passes with
whatever modifiers, and only then with all of them, provided that there is room for the grid. If
there is none, the check panics. On a machine with words of 64 bits there is room for grids of at
most `759250124` lines. -/
theorem exactRoundTrip (name : String) (projection : Projection) :
    (∀ points, projection.AllReturn points ↔
      ComesBack (.projected (.forward name projection)) points) ∧
    (∀ [SizeArithmetic] (test : TestCase) (sample : Sample),
      ((∀ modifiers, (test.withModifiers modifiers).verifyInDomain sample
          (.projected (.forward name projection)) = .ok ()) ↔
        GridFits test.configuration.gridSize ∧
          projection.AllReturn (TestCase.grid sample.area test.configuration.gridSize)) ∧
      (¬GridFits test.configuration.gridSize →
        ∀ modifiers, (test.withModifiers modifiers).verifyInDomain sample
          (.projected (.forward name projection)) = .error .panic)) ∧
    ∀ size, @GridFits .words size ↔ size ≤ 759250124 := by
  refine ⟨allReturn_iff_comesBack name projection, ?_, gridFits_words_iff⟩
  intro _ test sample
  refine ⟨verifyInDomain_projected_iff test sample name projection, fun tooLarge modifiers => ?_⟩
  exact verifyInDomain_projected_of_not_gridFits (test.withModifiers modifiers) sample _ tooLarge

/-- A plane whose first axis points north. The two angles are exchanged, and back. -/
def northingFirst : Projection where
  project point := some ⟨point.latitude, point.longitude⟩
  unproject point := some ⟨point.x, point.y⟩

theorem returnsExactly_northingFirst (longitude latitude : Float) :
    northingFirst.ReturnsExactly longitude latitude :=
  ⟨_, _, rfl, rfl, same_refl longitude, same_refl latitude⟩

theorem allReturn_northingFirst {points : List Float} (even : Even points.length) :
    northingFirst.AllReturn points :=
  ⟨even, fun _ longitude latitude _ _ => returnsExactly_northingFirst longitude latitude⟩

/-- Undefined and infinite values come back too, and the grid passes with a negative tolerance and
with one that is not a number. -/
theorem exactRoundTrip_northingFirst :
    ComesBack (.projected (.forward "north" northingFirst)) [0.0 / 0.0, -0.0, 1.0 / 0.0, 90.0] ∧
      (roundTripTest.withModifiers
          (.insert .empty .projected (.constant Calculation.all (-1.0)))).verifyInDomain makassar
        (.projected (.forward "north" northingFirst)) = .ok () ∧
      (roundTripTest.withModifiers
          (.insert .empty .projected (.constant Calculation.all (0.0 / 0.0)))).verifyInDomain
        makassar (.projected (.forward "north" northingFirst)) = .ok () := by
  obtain ⟨lists, grids, room⟩ := exactRoundTrip "north" northingFirst
  have grid : Even (TestCase.grid makassar.area roundTripTest.configuration.gridSize).length := by
    decide
  have passes := (grids roundTripTest makassar).1.mpr
    ⟨(room 2).mpr (by decide), allReturn_northingFirst grid⟩
  exact ⟨(lists _).mp (allReturn_northingFirst (by decide)), passes _, passes _⟩

/-- A test on a grid of `10 ^ 9` lines, which is a valid size. -/
def giantTest : TestCase :=
  ⟨⟨0.01, true, true, true, 10 ^ 9⟩, rfl, .empty⟩

/-- All the points of the grid would come back, but the check panics. -/
theorem not_exactRoundTrip_northingFirst :
    northingFirst.AllReturn (TestCase.grid makassar.area giantTest.configuration.gridSize) ∧
      ∀ modifiers, (giantTest.withModifiers modifiers).verifyInDomain makassar
        (.projected (.forward "north" northingFirst)) = .error .panic := by
  have length := (isGrid_grid makassar.area (two_le_gridSize giantTest)).length_eq
  have tooLarge : ¬GridFits giantTest.configuration.gridSize := by
    rw [gridFits_words_iff]
    decide
  refine ⟨allReturn_northingFirst ⟨_, length.trans (Nat.two_mul _)⟩, fun modifiers => ?_⟩
  exact verifyInDomain_projected_of_not_gridFits (giantTest.withModifiers modifiers) makassar _
    tooLarge

end CoordinateConformance
