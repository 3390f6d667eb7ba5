import CoordinateConformance.Geometry.Rectangle
import CoordinateConformance.Proofs.Binary64.Value

/-!
Contract: what rectangles ask of the order of their coordinates.

Rectangles only compare coordinates. `IsNumber` says which of them can be compared: every integer of
32 bits, and every binary64 number but NaN. On these the order is linear, and two of them are equal
if neither is below the other, as the two zeros are.

Owns: `NumberOrder` with its instances, and the laws of `smaller` and `greater`.

Does **not** own: differences of coordinates.
-/

namespace CoordinateConformance

/-- Numbers in a linear order, and perhaps others that cannot be compared with anything. -/
class NumberOrder (α : Type) [LE α] [LT α] [BEq α] where
  IsNumber : α → Prop
  isNumber_of_le : ∀ {x y : α}, x ≤ y → IsNumber x ∧ IsNumber y
  total : ∀ {x y : α}, IsNumber x → IsNumber y → x ≤ y ∨ y ≤ x
  trans : ∀ {x y z : α}, x ≤ y → y ≤ z → x ≤ z
  lt_iff : ∀ {x y : α}, x < y ↔ x ≤ y ∧ ¬y ≤ x
  beq_iff : ∀ {x y : α}, (x == y) = true ↔ x ≤ y ∧ y ≤ x

namespace NumberOrder

instance : NumberOrder Float where
  IsNumber x := x.isNaN = false
  isNumber_of_le le := by
    obtain ⟨left, right, _⟩ := Binary64.le_iff.mp le
    exact ⟨left, right⟩
  total left right := by
    rw [Binary64.le_iff, Binary64.le_iff]
    exact (le_total _ _).imp (⟨left, right, ·⟩) (⟨right, left, ·⟩)
  trans left right := by
    obtain ⟨number, _, le⟩ := Binary64.le_iff.mp left
    obtain ⟨_, numberToo, leToo⟩ := Binary64.le_iff.mp right
    exact Binary64.le_iff.mpr ⟨number, numberToo, le.trans leToo⟩
  lt_iff := by
    intro x y
    rw [Binary64.lt_iff, Binary64.le_iff, Binary64.le_iff, lt_iff_le_not_ge]
    tauto
  beq_iff := by
    intro x y
    rw [Binary64.beq_iff, Binary64.le_iff, Binary64.le_iff,
      le_antisymm_iff (a := Binary64.value x)]
    tauto

instance : NumberOrder Int32 where
  IsNumber _ := True
  isNumber_of_le _ := ⟨trivial, trivial⟩
  total _ _ := Int32.le_total _ _
  trans := Int32.le_trans
  lt_iff := by
    intro x y
    rw [Int32.lt_iff_toInt_lt, Int32.le_iff_toInt_le, Int32.le_iff_toInt_le]
    exact lt_iff_le_not_ge
  beq_iff := by
    intro x y
    rw [beq_iff_eq, ← Int32.toInt_inj, Int32.le_iff_toInt_le, Int32.le_iff_toInt_le]
    exact le_antisymm_iff

section Laws

variable {α : Type} [LE α] [LT α] [BEq α] [NumberOrder α] {x y bound : α}

theorem refl (number : IsNumber x) : x ≤ x :=
  (total number number).elim id id

theorem le_of_not_lt (left : IsNumber x) (right : IsNumber y) (notLess : ¬x < y) : y ≤ x := by
  rw [lt_iff, not_and_not_right] at notLess
  exact (total left right).elim notLess id

end Laws

end NumberOrder

/-! ## The smaller and the greater of two numbers -/

namespace Rectangle

section Selection

variable {α : Type} [LE α] [LT α] [DecidableLT α] {x y bound : α}

theorem le_smaller (left : bound ≤ x) (right : bound ≤ y) : bound ≤ smaller x y := by
  unfold smaller
  split_ifs
  · exact left
  · exact right

theorem greater_le (left : x ≤ bound) (right : y ≤ bound) : greater x y ≤ bound := by
  unfold greater
  split_ifs
  · exact left
  · exact right

open NumberOrder (IsNumber)

/-! The first operand may be any value, if the second one is a number: only what stands on the left
is dropped when it cannot be compared. -/

variable [BEq α] [NumberOrder α] (number : IsNumber y)
include number

theorem smaller_le_right (x : α) : smaller x y ≤ y := by
  unfold smaller
  split_ifs with less
  · exact (NumberOrder.lt_iff.mp less).1
  · exact NumberOrder.refl number

theorem smaller_le_of_left (le : x ≤ bound) : smaller x y ≤ bound := by
  unfold smaller
  split_ifs with less
  · exact le
  · have left := (NumberOrder.isNumber_of_le le).1
    exact NumberOrder.trans (NumberOrder.le_of_not_lt left number less) le

theorem right_le_greater (x : α) : y ≤ greater x y := by
  unfold greater
  split_ifs with less
  · exact (NumberOrder.lt_iff.mp less).1
  · exact NumberOrder.refl number

theorem le_greater_of_left (le : bound ≤ x) : bound ≤ greater x y := by
  unfold greater
  split_ifs with less
  · exact le
  · have left := (NumberOrder.isNumber_of_le le).2
    exact NumberOrder.trans le (NumberOrder.le_of_not_lt number left less)

end Selection

end Rectangle

end CoordinateConformance
