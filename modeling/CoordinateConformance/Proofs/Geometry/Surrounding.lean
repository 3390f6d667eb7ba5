import CoordinateConformance.Proofs.Geometry.NumberOrder

/-!
Contract: rectangles within others.

A rectangle surrounds another one if none of the borders of the inner one lies beyond its own. For
an inner rectangle with its corners in order this says that all its points are in the outer one. Of
two rectangles in order, what they are merged into is the least one that surrounds both, and
equality is surrounding in both directions; so all laws of merging follow from those of this order.

Owns: `Ordered`, `Surrounds`, `surrounds_iff_contains`, `surrounds_merge_iff`,
`contains_mergePoint`.

Does **not** own: results of more than one merge.
-/

namespace CoordinateConformance.Rectangle

open NumberOrder (IsNumber)

variable {α : Type}

section Borders

variable [LE α]

structure Ordered (r : Rectangle α) : Prop where
  x : r.xMin ≤ r.xMax
  y : r.yMin ≤ r.yMax

/-- No border of the inner rectangle lies beyond the border of the outer one. -/
structure Surrounds (outer inner : Rectangle α) : Prop where
  xMin : outer.xMin ≤ inner.xMin
  yMin : outer.yMin ≤ inner.yMin
  xMax : inner.xMax ≤ outer.xMax
  yMax : inner.yMax ≤ outer.yMax

variable {r left right outer : Rectangle α} {location : Point α}

theorem Surrounds.merge [LT α] [DecidableLT α] (first : outer.Surrounds left)
    (second : outer.Surrounds right) : outer.Surrounds (left.merge right) :=
  ⟨le_smaller first.xMin second.xMin, le_smaller first.yMin second.yMin,
    greater_le first.xMax second.xMax, greater_le first.yMax second.yMax⟩

variable [DecidableLE α]

theorem contains_eq_true_iff : r.contains location = true ↔
    (r.xMin ≤ location.x ∧ location.x ≤ r.xMax) ∧ r.yMin ≤ location.y ∧ location.y ≤ r.yMax := by
  simp only [contains, Bool.and_eq_true, decide_eq_true_eq, and_assoc]

theorem surrounds_ofPoint_iff : r.Surrounds (ofPoint location) ↔ r.contains location = true := by
  rw [contains_eq_true_iff]
  constructor
  · intro surrounds
    exact ⟨⟨surrounds.xMin, surrounds.xMax⟩, surrounds.yMin, surrounds.yMax⟩
  · rintro ⟨⟨xMin, xMax⟩, yMin, yMax⟩
    exact ⟨xMin, yMin, xMax, yMax⟩

end Borders

variable [LE α] [LT α] [BEq α] [NumberOrder α] {r inner outer left right : Rectangle α}

/-! ## The order of rectangles -/

theorem Surrounds.refl (ordered : r.Ordered) : r.Surrounds r :=
  ⟨NumberOrder.refl (NumberOrder.isNumber_of_le ordered.x).1,
    NumberOrder.refl (NumberOrder.isNumber_of_le ordered.y).1,
    NumberOrder.refl (NumberOrder.isNumber_of_le ordered.x).2,
    NumberOrder.refl (NumberOrder.isNumber_of_le ordered.y).2⟩

theorem Surrounds.trans (first : outer.Surrounds r) (second : r.Surrounds inner) :
    outer.Surrounds inner :=
  ⟨NumberOrder.trans first.xMin second.xMin, NumberOrder.trans first.yMin second.yMin,
    NumberOrder.trans second.xMax first.xMax, NumberOrder.trans second.yMax first.yMax⟩

/-- Around a rectangle in order there are only rectangles in order. -/
theorem Surrounds.ordered (surrounds : outer.Surrounds inner) (ordered : inner.Ordered) :
    outer.Ordered :=
  ⟨NumberOrder.trans (NumberOrder.trans surrounds.xMin ordered.x) surrounds.xMax,
    NumberOrder.trans (NumberOrder.trans surrounds.yMin ordered.y) surrounds.yMax⟩

theorem equals_iff : left.equals right = true ↔ left.Surrounds right ∧ right.Surrounds left := by
  simp only [equals, Bool.and_eq_true, NumberOrder.beq_iff]
  constructor
  · rintro ⟨⟨⟨xMin, yMin⟩, xMax⟩, yMax⟩
    exact ⟨⟨xMin.1, yMin.1, xMax.2, yMax.2⟩, ⟨xMin.2, yMin.2, xMax.1, yMax.1⟩⟩
  · rintro ⟨outward, inward⟩
    exact ⟨⟨⟨⟨outward.xMin, inward.xMin⟩, outward.yMin, inward.yMin⟩, inward.xMax, outward.xMax⟩,
      inward.yMax, outward.yMax⟩

/-! ## Merging -/

section Merging

variable [DecidableLT α] (ordered : right.Ordered)
include ordered

/-! Only what is merged in has to be in order. Borders of the left rectangle that are no numbers
give way to those of the right one. -/

theorem surrounds_right (left : Rectangle α) : (left.merge right).Surrounds right :=
  ⟨smaller_le_right (NumberOrder.isNumber_of_le ordered.x).1 _,
    smaller_le_right (NumberOrder.isNumber_of_le ordered.y).1 _,
    right_le_greater (NumberOrder.isNumber_of_le ordered.x).2 _,
    right_le_greater (NumberOrder.isNumber_of_le ordered.y).2 _⟩

theorem Surrounds.merge_left (surrounds : left.Surrounds inner) :
    (left.merge right).Surrounds inner :=
  ⟨smaller_le_of_left (NumberOrder.isNumber_of_le ordered.x).1 surrounds.xMin,
    smaller_le_of_left (NumberOrder.isNumber_of_le ordered.y).1 surrounds.yMin,
    le_greater_of_left (NumberOrder.isNumber_of_le ordered.x).2 surrounds.xMax,
    le_greater_of_left (NumberOrder.isNumber_of_le ordered.y).2 surrounds.yMax⟩

/-- Merging in what is inside already changes nothing. -/
theorem equals_merge_of_surrounds (surrounds : outer.Surrounds right) :
    (outer.merge right).equals outer = true := by
  have self := Surrounds.refl (surrounds.ordered ordered)
  exact equals_iff.mpr ⟨self.merge_left ordered, self.merge surrounds⟩

theorem ordered_merge (left : Rectangle α) : (left.merge right).Ordered :=
  (surrounds_right ordered left).ordered ordered

/-- The merged rectangle is the least one around both. -/
theorem surrounds_merge_iff (orderedLeft : left.Ordered) :
    outer.Surrounds (left.merge right) ↔ outer.Surrounds left ∧ outer.Surrounds right := by
  constructor
  · intro surrounds
    exact ⟨surrounds.trans ((Surrounds.refl orderedLeft).merge_left ordered),
      surrounds.trans (surrounds_right ordered left)⟩
  · exact fun both => both.1.merge both.2

end Merging

/-! ## Points -/

section Points

variable {location : Point α}

theorem ordered_ofPoint (x : IsNumber location.x) (y : IsNumber location.y) :
    (ofPoint location).Ordered :=
  ⟨NumberOrder.refl x, NumberOrder.refl y⟩

variable [DecidableLE α]

theorem ascending_le {first second : α} (number : IsNumber first) (numberToo : IsNumber second) :
    (ascending first second).1 ≤ (ascending first second).2 := by
  unfold ascending
  split_ifs with le
  · exact le
  · exact (NumberOrder.total number numberToo).resolve_left le

theorem ordered_ofCorners {xFirst yFirst xSecond ySecond : α} (xFirstNumber : IsNumber xFirst)
    (yFirstNumber : IsNumber yFirst) (xSecondNumber : IsNumber xSecond)
    (ySecondNumber : IsNumber ySecond) : (ofCorners xFirst yFirst xSecond ySecond).Ordered :=
  ⟨ascending_le xFirstNumber xSecondNumber, ascending_le yFirstNumber ySecondNumber⟩

theorem Surrounds.contains (surrounds : outer.Surrounds inner)
    (inside : inner.contains location = true) : outer.contains location = true := by
  rw [← surrounds_ofPoint_iff] at inside ⊢
  exact surrounds.trans inside

/-- The points of a rectangle in order determine its borders, since its corners are among them. -/
theorem surrounds_iff_contains (ordered : inner.Ordered) : outer.Surrounds inner ↔
    ∀ location : Point α, inner.contains location = true → outer.contains location = true := by
  constructor
  · exact fun surrounds location inside => surrounds.contains inside
  · intro all
    have self := Surrounds.refl ordered
    have least := all ⟨inner.xMin, inner.yMin⟩
      (contains_eq_true_iff.mpr ⟨⟨self.xMin, ordered.x⟩, self.yMin, ordered.y⟩)
    have greatest := all ⟨inner.xMax, inner.yMax⟩
      (contains_eq_true_iff.mpr ⟨⟨ordered.x, self.xMax⟩, ordered.y, self.yMax⟩)
    rw [contains_eq_true_iff] at least greatest
    exact ⟨least.1.1, least.2.1, greatest.1.2, greatest.2.2⟩

variable [DecidableLT α] (x : IsNumber location.x) (y : IsNumber location.y)
include x y

theorem contains_mergePoint (r : Rectangle α) : (r.mergePoint location).contains location = true :=
  surrounds_ofPoint_iff.mp (surrounds_right (ordered_ofPoint x y) r)

theorem contains_mergePoint_of_contains {other : Point α} (inside : r.contains other = true) :
    (r.mergePoint location).contains other = true := by
  rw [← surrounds_ofPoint_iff] at inside ⊢
  exact inside.merge_left (ordered_ofPoint x y)

end Points

end CoordinateConformance.Rectangle
