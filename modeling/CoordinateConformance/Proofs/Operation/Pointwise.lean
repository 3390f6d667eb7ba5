import CoordinateConformance.Proofs.Comparison.Result
import CoordinateConformance.Verification.TestCase

/-!
Contract: a projection, used as an operation, transforms each point on its own.

The image of a list is put together from the images of its points, and there is none as soon as
one point has none. So a list may be cut between any two points. The consistency check compares
the image of a list with the images of its points; for a projection these are the same values,
with NaN in the same places, and all the check asks for is that there is an image.

Owns: `transform_append`, `verifyConsistency_projected`, `transform_pointwise`.

Does **not** own: the projections. Any two partial functions make one.
-/

namespace CoordinateConformance

/-! ## Lists of points -/

namespace ProjectedOperation

variable {operation : ProjectedOperation}

theorem length_of_transformPoint {first second : Float} {image : List Float}
    (some : operation.transformPoint first second = some image) : image.length = 2 := by
  unfold transformPoint at some
  split at some
  all_goals
    obtain ⟨point, _, rfl⟩ := Option.map_eq_some_iff.mp some
    rfl

/-- A first point is transformed, and then the rest. -/
theorem transform_cons_cons (operation : ProjectedOperation) (first second : Float)
    (rest : List Float) :
    operation.transform (first :: second :: rest) =
      (operation.transformPoint first second).bind fun image =>
        (operation.transform rest).map (image ++ ·) := by
  rw [transform]
  cases operation.transformPoint first second with
  | none => rfl
  | some image => cases operation.transform rest <;> rfl

/-- The image of a list of points starts with that of its first point. -/
theorem transform_cons_cons_eq_some_iff {first second : Float} {rest image : List Float} :
    operation.transform (first :: second :: rest) = some image ↔
      ∃ head tail, operation.transformPoint first second = some head ∧
        operation.transform rest = some tail ∧ head ++ tail = image := by
  rw [transform_cons_cons, Option.bind_eq_some_iff]
  simp only [Option.map_eq_some_iff, exists_and_left]

theorem length_of_transform {points image : List Float}
    (some : operation.transform points = some image) : image.length = points.length := by
  induction points using transform.induct generalizing image with
  | case1 =>
      cases some
      rfl
  | case2 single => cases some
  | case3 first second rest inductionHypothesis =>
      obtain ⟨head, tail, headEq, tailEq, rfl⟩ := transform_cons_cons_eq_some_iff.mp some
      rw [List.length_append, length_of_transformPoint headEq, inductionHypothesis tailEq,
        List.length_cons, List.length_cons]
      omega

/-- A value is left over. -/
theorem transform_of_odd {points : List Float} (odd : Odd points.length) :
    operation.transform points = none := by
  cases transformed : operation.transform points with
  | none => rfl
  | some image =>
      exfalso
      induction points using transform.induct generalizing image with
      | case1 => simp at odd
      | case2 single => cases transformed
      | case3 first second rest inductionHypothesis =>
          obtain ⟨_, tail, _, tailEq, _⟩ := transform_cons_cons_eq_some_iff.mp transformed
          refine inductionHypothesis ?_ tail tailEq
          rw [List.length_cons, List.length_cons] at odd
          simpa [Nat.odd_add_one] using odd

/-- A list may be cut behind any of its points. -/
theorem transform_append {first : List Float} (even : Even first.length) (second : List Float) :
    operation.transform (first ++ second) =
      (operation.transform first).bind fun image =>
        (operation.transform second).map (image ++ ·) := by
  induction first using transform.induct with
  | case1 =>
      rw [List.nil_append, transform]
      simp
  | case2 single => simp at even
  | case3 x y rest inductionHypothesis =>
      have evenRest : Even rest.length := by
        rw [List.length_cons, List.length_cons] at even
        simpa [Nat.even_add_one] using even
      rw [List.cons_append, List.cons_append, transform_cons_cons, transform_cons_cons,
        inductionHypothesis evenRest]
      cases operation.transformPoint x y with
      | none => rfl
      | some head =>
          cases operation.transform rest with
          | none => rfl
          | some tail => cases operation.transform second <;> simp

/-- The parts of an image are told from each other by their lengths. -/
theorem transform_append_eq_some_iff {first : List Float} (even : Even first.length)
    (second firstImage secondImage : List Float) :
    operation.transform (first ++ second) = some (firstImage ++ secondImage) ∧
        firstImage.length = first.length ∧ secondImage.length = second.length ↔
      operation.transform first = some firstImage ∧
        operation.transform second = some secondImage := by
  rw [transform_append even]
  constructor
  · rintro ⟨some, firstLength, _⟩
    obtain ⟨head, headEq, some⟩ := Option.bind_eq_some_iff.mp some
    obtain ⟨tail, tailEq, joined⟩ := Option.map_eq_some_iff.mp some
    have sameLength : head.length = firstImage.length :=
      (length_of_transform headEq).trans firstLength.symm
    obtain ⟨rfl, rfl⟩ := List.append_inj joined sameLength
    exact ⟨headEq, tailEq⟩
  · rintro ⟨headEq, tailEq⟩
    refine ⟨?_, length_of_transform headEq, length_of_transform tailEq⟩
    rw [headEq, Option.bind_some, tailEq, Option.map_some]

theorem transform_append_eq_none_iff {first : List Float} (even : Even first.length)
    (second : List Float) :
    operation.transform (first ++ second) = none ↔
      operation.transform first = none ∨ operation.transform second = none := by
  rw [transform_append even]
  cases operation.transform first <;> simp

end ProjectedOperation

/-! ## The consistency check -/

theorem points_two_cons_cons (first second : Float) (rest : List Float) :
    Comparison.points 2 (first :: second :: rest) =
      [first, second] :: Comparison.points 2 rest := by
  unfold Comparison.points
  rw [List.length_cons, List.length_cons, Nat.add_assoc, Nat.add_div_right _ Nat.two_pos]
  rfl

/-- No tolerance is needed for a list to agree with itself. -/
theorem compareCoordinates_self {points : List Float} {dimension : Nat} (axes : dimension ≠ 0)
    (whole : dimension ∣ points.length) (calculation : Calculation) :
    compareCoordinates points points (List.replicate dimension 0.0) dimension calculation =
      .ok () :=
  Comparison.agree_iff.mpr
    (Comparison.agree_refl ⟨axes, List.length_replicate, rfl, whole⟩)

section Checks

open SizeArithmetic (product fits holds)

variable [SizeArithmetic] {operation : ProjectedOperation} {points : List Float}

theorem product_half_two (even : Even points.length) (count : fits points.length = true) :
    product (points.length / 2) 2 = .ok points.length := by
  unfold product
  rw [Nat.div_two_mul_two_of_even even, if_pos count]

/-- Images have the declared length, which is the one of the points. A machine has to count it. -/
theorem transformChecked_projected (even : Even points.length)
    (count : fits points.length = true) :
    (Operation.projected operation).transformChecked points =
      match operation.transform points with
      | none => .error (.error (.transformFailed operation.name points))
      | some image => .ok image := by
  unfold Operation.transformChecked
  change (match operation.transform points with
    | none => _
    | some image => _) = _
  cases transformed : operation.transform points with
  | none => rfl
  | some image =>
      have expected : (Operation.projected operation).expectedLength points.length =
          .ok image.length := by
        rw [ProjectedOperation.length_of_transform transformed]
        exact product_half_two even count
      change (do
        let expected ← (Operation.projected operation).expectedLength points.length
        Check.ofResult (checkDimension "transformed coordinates" expected image.length)
        return image) = _
      rw [expected]
      change (Check.ofResult (checkDimension _ image.length image.length) >>= fun _ => _) = _
      rw [checkDimension, if_pos rfl]
      rfl

/-- The images of the single points are those of the whole list. -/
theorem transformSingly_projected (pair : fits 2 = true) {image : List Float}
    (some : operation.transform points = some image) :
    TestCase.transformSingly (.projected operation) (Comparison.points 2 points) = .ok image := by
  induction points using ProjectedOperation.transform.induct generalizing image with
  | case1 =>
      cases some
      rfl
  | case2 single => cases some
  | case3 first second rest inductionHypothesis =>
      obtain ⟨head, tail, headEq, tailEq, rfl⟩ :=
        ProjectedOperation.transform_cons_cons_eq_some_iff.mp some
      have one : operation.transform [first, second] = .some head := by
        rw [ProjectedOperation.transform_cons_cons, headEq, ProjectedOperation.transform]
        simp
      have single : (Operation.projected operation).transformChecked [first, second] =
          .ok head := by
        have even : Even [first, second].length := ⟨1, rfl⟩
        rw [transformChecked_projected even pair, one]
      rw [points_two_cons_cons, TestCase.transformSingly, single, inductionHypothesis tailEq]
      rfl

/-- The check of a projection succeeds as soon as there is something to compare. -/
theorem verifyConsistency_projected (even : Even points.length)
    (count : fits points.length = true) (pair : fits 2 = true) (room : holds 2 = true) :
    TestCase.verifyConsistency points (.projected operation) =
      match operation.transform points with
      | none => .error (.error (.transformFailed operation.name points))
      | some _ => .ok () := by
  have whole : ¬((2 : Nat) = 0 ∨ points.length % 2 ≠ 0) := by
    simp [Nat.even_iff.mp even]
  unfold TestCase.verifyConsistency
  rw [transformChecked_projected even count]
  change (if (2 : Nat) = 0 ∨ points.length % 2 ≠ 0 then _ else _) = _
  rw [if_neg whole]
  cases transformed : operation.transform points with
  | none => rfl
  | some image =>
      have wholeImage : 2 ∣ image.length := by
        rw [ProjectedOperation.length_of_transform transformed]
        exact even.two_dvd
      have reserved : SizeArithmetic.reserve 2 = .ok () := if_pos room
      change (do
        let single ← TestCase.transformSingly (.projected operation) (Comparison.points 2 points)
        SizeArithmetic.reserve 2
        Check.ofResult (compareCoordinates image single (List.replicate 2 0.0) 2 .strict)) = _
      rw [transformSingly_projected pair transformed, reserved]
      exact congrArg Check.ofResult (compareCoordinates_self two_ne_zero wholeImage .strict)

/-- All that the consistency check asks of an operation is an image of the list. If there is none
it says so; it reports nothing else. -/
structure AsksForImage (operation : ProjectedOperation) (points : List Float) : Prop where
  ok_iff : TestCase.verifyConsistency points (.projected operation) = .ok () ↔
    ∃ image, operation.transform points = some image
  missing : operation.transform points = none →
    TestCase.verifyConsistency points (.projected operation) =
      .error (.error (.transformFailed operation.name points))
  only : ∀ stop, TestCase.verifyConsistency points (.projected operation) = .error stop →
    stop = .error (.transformFailed operation.name points)

theorem asksForImage (even : Even points.length) (count : fits points.length = true)
    (pair : fits 2 = true) (room : holds 2 = true) : AsksForImage operation points := by
  have run : TestCase.verifyConsistency points (.projected operation) = _ :=
    verifyConsistency_projected even count pair room
  refine ⟨?_, ?_, ?_⟩
  all_goals
    rw [run]
    cases operation.transform points <;> simp [eq_comm]

end Checks

/-! ## Result -/

theorem transform_pointwise (operation : ProjectedOperation) :
    (∀ first second : List Float, Even first.length → Even second.length →
      (∀ firstImage secondImage : List Float,
        operation.transform (first ++ second) = some (firstImage ++ secondImage) ∧
            firstImage.length = first.length ∧ secondImage.length = second.length ↔
          operation.transform first = some firstImage ∧
            operation.transform second = some secondImage) ∧
      (operation.transform (first ++ second) = none ↔
        operation.transform first = none ∨ operation.transform second = none)) ∧
    (∀ points : List Float, Odd points.length → operation.transform points = none) ∧
    ∀ points : List Float, Even points.length →
      @AsksForImage .exact operation points ∧
        (points.length < 2 ^ 64 → @AsksForImage .words operation points) := by
  refine ⟨fun first second even _ => ⟨?_, ?_⟩, fun points odd => ?_, fun points even => ⟨?_, ?_⟩⟩
  · exact ProjectedOperation.transform_append_eq_some_iff even second
  · exact ProjectedOperation.transform_append_eq_none_iff even second
  · exact ProjectedOperation.transform_of_odd odd
  · exact @asksForImage .exact _ _ even rfl rfl rfl
  · intro fits
    exact @asksForImage .words _ _ even (decide_eq_true fits) rfl rfl

/-- A projection without any defined coordinate, and without an image near the poles. -/
def undefinedValues : Projection where
  project point := if point.latitude.abs > 80.0 then none else some ⟨0.0 / 0.0, 0.0 / 0.0⟩
  unproject _ := none

/-- A missing image is all that is reported: undefined coordinates pass. -/
theorem transform_pointwise_undefinedValues :
    let operation := ProjectedOperation.forward "undefined" undefinedValues
    (∃ image, operation.transform ([1.0, 2.0] ++ [3.0, 4.0]) = some (image ++ image)) ∧
      operation.transform ([1.0, 2.0] ++ [3.0, 85.0]) = none ∧
      operation.transform [1.0, 2.0, 3.0] = none ∧
      @TestCase.verifyConsistency .words [1.0, 2.0, 3.0, 4.0] (.projected operation) = .ok () ∧
      @TestCase.verifyConsistency .words [1.0, 2.0, 3.0, 85.0] (.projected operation) =
        .error (.error (.transformFailed "undefined" [1.0, 2.0, 3.0, 85.0])) := by
  intro operation
  obtain ⟨parts, odd, checks⟩ := transform_pointwise operation
  have halves := parts [1.0, 2.0] [3.0, 4.0] (by decide) (by decide)
  have pole := parts [1.0, 2.0] [3.0, 85.0] (by decide) (by decide)
  have inside := (checks [1.0, 2.0, 3.0, 4.0] (by decide)).2 (by decide)
  have outside := (checks [1.0, 2.0, 3.0, 85.0] (by decide)).2 (by decide)
  refine ⟨⟨[0.0 / 0.0, 0.0 / 0.0], ?_⟩, ?_, ?_, ?_, ?_⟩
  · exact ((halves.1 _ _).mpr ⟨rfl, rfl⟩).1
  · exact pole.2.mpr (Or.inr rfl)
  · exact odd [1.0, 2.0, 3.0] (by decide)
  · exact inside.ok_iff.mpr ⟨_, rfl⟩
  · exact outside.missing rfl

end CoordinateConformance
