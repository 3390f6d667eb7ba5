/-!
Contract: sets of code points as ascending lists of boundaries.

The first boundary begins a range, the second one ends it, and so on; the end of a range does
not belong to it.
-/

namespace CoordinateConformance

def inRanges : List Nat → Nat → Bool
  | first :: last :: rest, code => (first ≤ code && code < last) || inRanges rest code
  | _, _ => false

end CoordinateConformance
