import CoordinateConformance.ConformanceError

/-!
Contract: which sizes the checks can compute with, and what happens at a size beyond.

Sizes are numbers of values. A machine computes them in words of 64 bits, and a list has room
only if its bytes are counted by a signed word. Beyond that the program stops: it returns
nothing, not even an error. This is how the checks run. The same checks can be read over sizes
of any magnitude, which never stop them: a statement that counts in natural numbers opens
`ExactSizes`.
-/

namespace CoordinateConformance

/-- What keeps a check from returning a value. -/
inductive Interruption where
  /-- An error is returned. -/
  | error (error : ConformanceError)
  /-- The program stops at a size that it cannot compute with. -/
  | panic
deriving DecidableEq, Repr

/-- Programs that return a value or an error, unless a size stops them. -/
abbrev Check := Except Interruption

namespace Check

variable {α β : Type}

def ofResult (result : Except ConformanceError α) : Check α :=
  result.mapError .error

/-- Goes on with a result, be it a value or an error. A panic cannot be caught. -/
def mapResult (next : Except ConformanceError α → Except ConformanceError β) : Check α → Check β
  | .ok value => ofResult (next (.ok value))
  | .error (.error error) => ofResult (next (.error error))
  | .error .panic => .error .panic

@[simp]
theorem ofResult_ok (value : α) : ofResult (.ok value) = .ok value := rfl

@[simp]
theorem ofResult_error (error : ConformanceError) :
    (ofResult (.error error) : Check α) = .error (.error error) := rfl

@[simp]
theorem ofResult_eq_ok_iff {result : Except ConformanceError α} {value : α} :
    ofResult result = .ok value ↔ result = .ok value := by
  cases result <;> simp

end Check

/-- The sizes of a machine. -/
class SizeArithmetic where
  /-- The size can be computed with. -/
  fits : Nat → Bool
  /-- There can be room for a list of so many numbers. -/
  holds : Nat → Bool

namespace SizeArithmetic

/-- Words of 64 bits. A number has eight bytes, and the bytes of a list are counted by a word that
has a sign. -/
instance words : SizeArithmetic where
  fits size := decide (size < UInt64.size)
  holds count := decide (2 * (8 * count) < UInt64.size)

/-- Natural numbers of any size. -/
@[reducible]
def exact : SizeArithmetic where
  fits _ := true
  holds _ := true

variable [SizeArithmetic]

def product (first second : Nat) : Check Nat :=
  if fits (first * second) then .ok (first * second) else .error .panic

/-- Makes room for a list of so many numbers. -/
def reserve (count : Nat) : Check Unit :=
  if holds count then .ok () else .error .panic

end SizeArithmetic

namespace ExactSizes

scoped instance (priority := 2000) instExact : SizeArithmetic := .exact

@[simp]
theorem fits_eq_true (size : Nat) : SizeArithmetic.fits size = true := rfl

@[simp]
theorem holds_eq_true (count : Nat) : SizeArithmetic.holds count = true := rfl

end ExactSizes

end CoordinateConformance
