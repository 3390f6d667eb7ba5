import CoordinateConformance.Proofs.Geometry.Surrounding
import CoordinateConformance.Verification.Sample

/-!
Contract: merging computes bounding boxes.

A rectangle that is made of points and of corners, by any number of merges in any order, is inside
of another rectangle exactly if all its items are. Hence it contains all of them, lies within
everything else that does, and is the same for every order and every bracketing. A point that is
merged into any rectangle at all, whatever its borders are, is inside afterwards.

Owns: `Construction`, `surrounds_rectangle_iff`, `mergesToBoundingBox`.

Does **not** own: the width and the height of a rectangle.
-/

namespace CoordinateConformance

open NumberOrder (IsNumber)

/-- A point, or two corners of a rectangle in any order. -/
inductive Item (α : Type) where
  | point (location : Point α)
  | corners (xFirst yFirst xSecond ySecond : α)
deriving DecidableEq, Repr

/-- A way to make a rectangle. -/
inductive Construction (α : Type) where
  | item (start : Item α)
  | merge (left right : Construction α)
  | mergePoint (made : Construction α) (location : Point α)

variable {α : Type}

/-! ## Items and what is made of them -/

namespace Construction

def items : Construction α → List (Item α)
  | item start => [start]
  | merge left right => left.items ++ right.items
  | mergePoint made location => made.items ++ [.point location]

/-- The next item is merged into what has been made. -/
def add (made : Construction α) : Item α → Construction α
  | .point location => made.mergePoint location
  | .corners xFirst yFirst xSecond ySecond =>
      made.merge (.item (.corners xFirst yFirst xSecond ySecond))

theorem items_add (made : Construction α) (next : Item α) :
    (made.add next).items = made.items ++ [next] := by
  cases next <;> rfl

theorem items_foldl_add (rest : List (Item α)) (made : Construction α) :
    (rest.foldl add made).items = made.items ++ rest := by
  induction rest generalizing made with
  | nil => exact (List.append_nil _).symm
  | cons next rest inductionHypothesis =>
      rw [List.foldl_cons, inductionHypothesis, items_add, List.append_assoc]
      rfl

end Construction

section Rectangles

variable [LE α] [DecidableLE α]

def Item.rectangle : Item α → Rectangle α
  | point location => .ofPoint location
  | corners xFirst yFirst xSecond ySecond => .ofCorners xFirst yFirst xSecond ySecond

/-- The rectangle contains the point, or every point between the corners. -/
def Rectangle.Holds (r : Rectangle α) : Item α → Prop
  | .point location => r.contains location = true
  | .corners xFirst yFirst xSecond ySecond => ∀ location : Point α,
      (ofCorners xFirst yFirst xSecond ySecond).contains location = true →
        r.contains location = true

/-- The least rectangle that holds all items. -/
structure Rectangle.IsBoundingBox (r : Rectangle α) (items : List (Item α)) : Prop where
  ordered : r.xMin ≤ r.xMax ∧ r.yMin ≤ r.yMax
  holds : ∀ item ∈ items, r.Holds item
  least : ∀ other : Rectangle α, (∀ item ∈ items, other.Holds item) →
    ∀ location : Point α, r.contains location = true → other.contains location = true

variable [LT α] [DecidableLT α]

/-- The rectangle with an item merged into it. -/
def Item.addTo (r : Rectangle α) : Item α → Rectangle α
  | point location => r.mergePoint location
  | corners xFirst yFirst xSecond ySecond => r.merge (.ofCorners xFirst yFirst xSecond ySecond)

/-- One item after the other is merged into the rectangle of the first one. -/
def mergeAll (first : Item α) (rest : List (Item α)) : Rectangle α :=
  rest.foldl Item.addTo first.rectangle

namespace Construction

def rectangle : Construction α → Rectangle α
  | item start => start.rectangle
  | merge left right => left.rectangle.merge right.rectangle
  | mergePoint made location => made.rectangle.mergePoint location

theorem rectangle_add (made : Construction α) (next : Item α) :
    (made.add next).rectangle = next.addTo made.rectangle := by
  cases next <;> rfl

theorem rectangle_foldl_add (rest : List (Item α)) (made : Construction α) :
    (rest.foldl add made).rectangle = rest.foldl Item.addTo made.rectangle := by
  induction rest generalizing made with
  | nil => rfl
  | cons next rest inductionHypothesis =>
      rw [List.foldl_cons, inductionHypothesis, rectangle_add, List.foldl_cons]

end Construction

/-- Merging from the first item on is one of the constructions. -/
theorem exists_construction_mergeAll (first : Item α) (rest : List (Item α)) :
    ∃ made : Construction α, made.items = first :: rest ∧ made.rectangle = mergeAll first rest :=
  ⟨rest.foldl .add (.item first), Construction.items_foldl_add rest _,
    Construction.rectangle_foldl_add rest _⟩

end Rectangles

section Order

variable [LE α] [LT α] [BEq α] [NumberOrder α]

def Point.HasNumbers (location : Point α) : Prop :=
  IsNumber location.x ∧ IsNumber location.y

def Item.HasNumbers : Item α → Prop
  | point location => location.HasNumbers
  | corners xFirst yFirst xSecond ySecond =>
      IsNumber xFirst ∧ IsNumber yFirst ∧ IsNumber xSecond ∧ IsNumber ySecond

variable [DecidableLE α]

/-- Only numbers are between borders. -/
theorem Rectangle.hasNumbers_of_contains {r : Rectangle α} {location : Point α}
    (inside : r.contains location = true) : location.HasNumbers := by
  obtain ⟨⟨xLower, _⟩, yLower, _⟩ := contains_eq_true_iff.mp inside
  exact ⟨(NumberOrder.isNumber_of_le xLower).2, (NumberOrder.isNumber_of_le yLower).2⟩

namespace Item

theorem HasNumbers.ordered {item : Item α} (numbers : item.HasNumbers) :
    item.rectangle.Ordered := by
  cases item with
  | point location => exact Rectangle.ordered_ofPoint numbers.1 numbers.2
  | corners xFirst yFirst xSecond ySecond =>
      obtain ⟨xFirstNumber, yFirstNumber, xSecondNumber, ySecondNumber⟩ := numbers
      exact Rectangle.ordered_ofCorners xFirstNumber yFirstNumber xSecondNumber ySecondNumber

theorem HasNumbers.surrounds_iff {item : Item α} (numbers : item.HasNumbers) {r : Rectangle α} :
    r.Surrounds item.rectangle ↔ r.Holds item := by
  cases item with
  | point location => exact Rectangle.surrounds_ofPoint_iff
  | corners xFirst yFirst xSecond ySecond => exact Rectangle.surrounds_iff_contains numbers.ordered

end Item

variable [DecidableLT α]

namespace Construction

/-- Every rectangle that is made has its corners in order. -/
theorem ordered_rectangle (made : Construction α) (numbers : ∀ item ∈ made.items, item.HasNumbers) :
    made.rectangle.Ordered := by
  induction made with
  | item start => exact (numbers start (.head _)).ordered
  | merge left right _ orderedRight =>
      exact Rectangle.ordered_merge
        (orderedRight fun item mem => numbers item (List.mem_append_right _ mem)) left.rectangle
  | mergePoint made location _ =>
      have locationNumbers : location.HasNumbers :=
        numbers (.point location) (List.mem_append_right _ (.head _))
      exact Rectangle.ordered_merge
        (Rectangle.ordered_ofPoint locationNumbers.1 locationNumbers.2) made.rectangle

/-- What is around all items is around the rectangle, however it has been made of them. -/
theorem surrounds_rectangle_iff (made : Construction α)
    (numbers : ∀ item ∈ made.items, item.HasNumbers) (outer : Rectangle α) :
    outer.Surrounds made.rectangle ↔ ∀ item ∈ made.items, outer.Surrounds item.rectangle := by
  induction made with
  | item start =>
      rw [items, List.forall_mem_singleton]
      rfl
  | merge left right surroundsLeft surroundsRight =>
      obtain ⟨numbersLeft, numbersRight⟩ := List.forall_mem_append.mp numbers
      rw [rectangle, Rectangle.surrounds_merge_iff (right.ordered_rectangle numbersRight)
          (left.ordered_rectangle numbersLeft), surroundsLeft numbersLeft,
        surroundsRight numbersRight, items, List.forall_mem_append]
  | mergePoint made location surroundsMade =>
      obtain ⟨numbersMade, numbersLast⟩ := List.forall_mem_append.mp numbers
      have last : (Rectangle.ofPoint location).Ordered := (numbersLast _ (.head _)).ordered
      rw [rectangle, Rectangle.mergePoint,
        Rectangle.surrounds_merge_iff last (made.ordered_rectangle numbersMade),
        surroundsMade numbersMade, items, List.forall_mem_append, List.forall_mem_singleton]
      rfl

theorem holds_iff (made : Construction α) (numbers : ∀ item ∈ made.items, item.HasNumbers)
    (outer : Rectangle α) :
    outer.Surrounds made.rectangle ↔ ∀ item ∈ made.items, outer.Holds item := by
  rw [surrounds_rectangle_iff made numbers]
  exact forall₂_congr fun item mem => (numbers item mem).surrounds_iff

theorem isBoundingBox (made : Construction α) (numbers : ∀ item ∈ made.items, item.HasNumbers) :
    made.rectangle.IsBoundingBox made.items := by
  have ordered := made.ordered_rectangle numbers
  refine ⟨⟨ordered.x, ordered.y⟩, ?_, ?_⟩
  · exact (made.holds_iff numbers _).mp (.refl ordered)
  · intro other holds location inside
    exact ((made.holds_iff numbers other).mpr holds).contains inside

/-- Neither the order of the items nor the bracketing makes a difference. -/
theorem equals_of_perm {left right : Construction α}
    (numbers : ∀ item ∈ left.items, item.HasNumbers) (perm : left.items.Perm right.items) :
    left.rectangle.equals right.rectangle = true := by
  have numbersToo : ∀ item ∈ right.items, item.HasNumbers := fun item mem =>
    numbers item (perm.mem_iff.mpr mem)
  have alike : ∀ outer : Rectangle α,
      outer.Surrounds left.rectangle ↔ outer.Surrounds right.rectangle := by
    intro outer
    rw [left.surrounds_rectangle_iff numbers, right.surrounds_rectangle_iff numbersToo]
    exact forall_congr' fun item => imp_congr_left perm.mem_iff
  have orderedLeft := left.ordered_rectangle numbers
  have orderedRight := right.ordered_rectangle numbersToo
  exact Rectangle.equals_iff.mpr
    ⟨(alike _).mp (.refl orderedLeft), (alike _).mpr (.refl orderedRight)⟩

end Construction

/-! ## Result -/

/-- Merging behaves as the computation of bounding boxes. -/
structure MergesToBoundingBox (α : Type) [LE α] [LT α] [BEq α] [NumberOrder α] [DecidableLE α]
    [DecidableLT α] : Prop where
  /-- Merging one item after the other gives the bounding box of all. -/
  boundingBox : ∀ (first : Item α) (rest : List (Item α)),
    (∀ item ∈ first :: rest, item.HasNumbers) →
      (mergeAll first rest).IsBoundingBox (first :: rest)
  /-- It is equal to what is made of the items in any order and with any bracketing. -/
  anyOrder : ∀ (first : Item α) (rest : List (Item α)) (made : Construction α),
    (∀ item ∈ first :: rest, item.HasNumbers) → made.items.Perm (first :: rest) →
      (mergeAll first rest).equals made.rectangle = true
  /-- A merge that adds no point leaves any rectangle equal. -/
  nothingAdded : ∀ (r : Rectangle α) (made : Construction α),
    (∀ item ∈ made.items, item.HasNumbers) →
      (∀ location : Point α, made.rectangle.contains location = true →
        r.contains location = true) → (r.merge made.rectangle).equals r = true
  /-- A point inside of a rectangle leaves it equal. -/
  pointInside : ∀ (r : Rectangle α) (location : Point α), r.contains location = true →
    (r.mergePoint location).equals r = true
  /-- Merging a point into any rectangle keeps what it contains and adds the point. -/
  pointAdded : ∀ (r : Rectangle α) (location : Point α), location.HasNumbers →
    (r.mergePoint location).contains location = true ∧
      ∀ other : Point α, r.contains other = true → (r.mergePoint location).contains other = true

theorem mergesToBoundingBox_of_numberOrder (α : Type) [LE α] [LT α] [BEq α] [NumberOrder α]
    [DecidableLE α] [DecidableLT α] : MergesToBoundingBox α where
  boundingBox first rest numbers := by
    obtain ⟨made, items, rectangle⟩ := exists_construction_mergeAll first rest
    rw [← items, ← rectangle]
    exact made.isBoundingBox (items ▸ numbers)
  anyOrder first rest made numbers perm := by
    obtain ⟨inTurn, items, rectangle⟩ := exists_construction_mergeAll first rest
    rw [← rectangle]
    exact Construction.equals_of_perm (items ▸ numbers) (items ▸ perm.symm)
  nothingAdded r made numbers inside :=
    have ordered := made.ordered_rectangle numbers
    have surrounds := (Rectangle.surrounds_iff_contains ordered).mpr inside
    Rectangle.equals_merge_of_surrounds ordered surrounds
  pointInside r location inside :=
    have numbers := Rectangle.hasNumbers_of_contains inside
    Rectangle.equals_merge_of_surrounds (Rectangle.ordered_ofPoint numbers.1 numbers.2)
      (Rectangle.surrounds_ofPoint_iff.mpr inside)
  pointAdded r location numbers :=
    ⟨Rectangle.contains_mergePoint numbers.1 numbers.2 r,
      fun _ inside => Rectangle.contains_mergePoint_of_contains numbers.1 numbers.2 inside⟩

end Order

/-- For binary64 numbers and for integers of 32 bits, merging computes bounding boxes. So the area
of a sample contains its published point, whatever area is published. -/
theorem mergesToBoundingBox :
    MergesToBoundingBox Float ∧ MergesToBoundingBox Int32 ∧
    ∀ (target operation : Int) (origin falseOrigin source projected : Point Float)
      (area : Rectangle Float), source.x.isNaN = false → source.y.isNaN = false →
        let sample := Sample.ofPoints target operation origin falseOrigin source projected area
        sample.area.contains sample.source = true := by
  refine ⟨mergesToBoundingBox_of_numberOrder Float, mergesToBoundingBox_of_numberOrder Int32, ?_⟩
  intro target operation origin falseOrigin source projected area x y sample
  exact Rectangle.contains_mergePoint x y area

/-- The published area of the Caspian Sea with its point and an origin of two zeros, merged in turn
and with the origin first. -/
theorem mergesToBoundingBox_caspian :
    (mergeAll (.corners 54.76 47.11 46.68 36.58) [.point ⟨53.0, 53.0⟩, .point ⟨0.0, -0.0⟩] :
        Rectangle Float).equals
      (Construction.merge (.item (.point ⟨0.0, -0.0⟩))
        (.mergePoint (.item (.corners 54.76 47.11 46.68 36.58)) ⟨53.0, 53.0⟩)).rectangle = true ∧
    (Sample.ofPoints 3388 19884 ⟨51.0, 0.0⟩ ⟨0.0, 0.0⟩ ⟨53.0, 53.0⟩ ⟨165704.29, 5171848.07⟩
      (.ofCorners 46.68 36.58 54.76 47.11)).area.contains ⟨53.0, 53.0⟩ = true := by
  obtain ⟨merges, _, extended⟩ := mergesToBoundingBox
  refine ⟨merges.anyOrder _ _ _ ?_ (@List.perm_append_comm _ [_] _), extended _ _ _ _ _ _ _ ?_ ?_⟩
  · simp only [List.forall_mem_cons]
    exact ⟨⟨rfl, rfl, rfl, rfl⟩, ⟨rfl, rfl⟩, ⟨rfl, rfl⟩, nofun⟩
  · rfl
  · rfl

end CoordinateConformance
