import CoordinateConformance.Geodesy.Mercator

/-!
Contract: the loop of the Mercator projection, in any arithmetic.

A pass gives the next estimate of the latitude. The loop makes passes until one of them hardly moves
the estimate, or until fifteen of them are made.

Owns: `Mercator.ratio`, `Mercator.passesMade`, `Mercator.settles`, `Mercator.iterate_of_fixed`.

Does **not** own: whether the estimates come closer to anything.
-/

namespace CoordinateConformance.Mercator

variable {α : Type} [Arithmetic α] (functions : ElementaryFunctions α)

/-- The number by which a point in the plane stands for its latitude. -/
def ratio (projection : Mercator α) (point : Point α) : α :=
  functions.exp ((projection.falseNorthing - point.y) / projection.radius)

/-- The latitude on the sphere, from which the passes start. -/
def firstEstimate (t : α) : α :=
  Arithmetic.pi / 2.0 - 2.0 * functions.atan t

/-- The pass from an estimate is the last one. -/
def isSettled (e t latitude : α) : Bool :=
  Arithmetic.lt (Arithmetic.abs (refine functions e t latitude - latitude)) passTolerance

/-- The number of passes that are made. -/
def passesMade (e t : α) : Nat → α → Nat
  | 0, _ => 0
  | passes + 1, latitude =>
      if isSettled functions e t latitude then 1
      else passesMade e t passes (refine functions e t latitude) + 1

/-- The last pass is made because it moves the estimate by less than the tolerance. -/
def settles (e t : α) : Nat → α → Bool
  | 0, _ => false
  | passes + 1, latitude =>
      isSettled functions e t latitude || settles e t passes (refine functions e t latitude)

theorem iterate_succ (e t : α) (passes : Nat) (latitude : α) :
    iterate functions e t (passes + 1) latitude =
      if isSettled functions e t latitude then refine functions e t latitude
      else iterate functions e t passes (refine functions e t latitude) :=
  rfl

theorem settles_or_passesMade_eq (e t : α) (passes : Nat) (latitude : α) :
    settles functions e t passes latitude = true ∨
      passesMade functions e t passes latitude = passes := by
  induction passes generalizing latitude with
  | zero => exact Or.inr rfl
  | succ passes inductionHypothesis =>
      by_cases settled : isSettled functions e t latitude = true
      · simp [settles, settled]
      · simpa [settles, passesMade, settled] using
          inductionHypothesis (refine functions e t latitude)

/-- A loop that starts at a fixed point stays there, whether or not its passes settle. -/
theorem iterate_of_fixed {e t latitude : α} (fixed : refine functions e t latitude = latitude)
    (passes : Nat) : iterate functions e t passes latitude = latitude := by
  induction passes with
  | zero => rfl
  | succ passes inductionHypothesis =>
      rw [iterate_succ, fixed, inductionHypothesis]
      exact ite_self latitude

end CoordinateConformance.Mercator
