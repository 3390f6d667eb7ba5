import CoordinateConformance.Proofs.Geometry.BoundingBox

/-!
Contract: the size of rectangles of 32-bit integers.

However a rectangle is made, its corners are in order, so its true width and height lie between
zero and `2 ^ 32 - 1`. A difference of words exists up to `2 ^ 31 - 1`, and it is exact; a
program that asks for a larger one stops. Containment compares borders only and is right for all
sizes.

Owns: `difference_eq_some_iff`, `contains_iff_offset`, `hasExactSize_iff`.

Does **not** own: sizes of binary64 numbers, which are rounded.
-/

namespace CoordinateConformance

namespace Rectangle

section Extent

variable (r : Rectangle Int32)

/-- The true width. -/
def extentX : Int := r.xMax.toInt - r.xMin.toInt

/-- The true height. -/
def extentY : Int := r.yMax.toInt - r.yMin.toInt

/-- There are a width and a height. They are exact, and the points inside are those that are no
further from the least corner than the size says. -/
structure HasExactSize : Prop where
  exact : ∃ width height : Int32, r.width = some width ∧ r.height = some height ∧
    (0 ≤ width ∧ width.toInt = r.extentX) ∧ (0 ≤ height ∧ height.toInt = r.extentY) ∧
    ∀ location : Point Int32, r.contains location = true ↔
      (0 ≤ location.x.toInt - r.xMin.toInt ∧ location.x.toInt - r.xMin.toInt ≤ width.toInt) ∧
        0 ≤ location.y.toInt - r.yMin.toInt ∧ location.y.toInt - r.yMin.toInt ≤ height.toInt

end Extent

/-! ## Differences of words -/

section Difference

open Difference (difference)

variable {least greatest : Int32}

/-- The difference of two words in order exists if it is a word, and then it is exact. -/
theorem difference_eq_some_iff (ordered : least ≤ greatest) {word : Int32} :
    difference greatest least = some word ↔
      greatest.toInt - least.toInt < 2 ^ 31 ∧ word.toInt = greatest.toInt - least.toInt := by
  have nonneg := Int32.le_iff_toInt_le.mp ordered
  simp only [difference, Int32.toInt_minValue, Int32.toInt_maxValue]
  split_ifs with isWord
  · have exact : (Int32.ofInt (greatest.toInt - least.toInt)).toInt =
        greatest.toInt - least.toInt :=
      Int32.toInt_ofInt_of_le isWord.1 (Int.lt_of_le_sub_one isWord.2)
    constructor
    · rintro ⟨⟩
      exact ⟨Int.lt_of_le_sub_one isWord.2, exact⟩
    · rintro ⟨_, same⟩
      rw [Option.some.injEq, ← Int32.toInt_inj, exact, same]
  · simp only [false_iff]
    rintro ⟨small, _⟩
    exact isWord ⟨by omega, by omega⟩

theorem difference_eq_none_iff (ordered : least ≤ greatest) :
    difference greatest least = none ↔ 2 ^ 31 ≤ greatest.toInt - least.toInt := by
  have nonneg := Int32.le_iff_toInt_le.mp ordered
  simp only [difference, Int32.toInt_minValue, Int32.toInt_maxValue]
  split_ifs with isWord
  · simp only [false_iff]
    omega
  · simp only [true_iff]
    omega

theorem exists_exact_difference_iff (ordered : least ≤ greatest) :
    (∃ word, difference greatest least = some word ∧
      0 ≤ word ∧ word.toInt = greatest.toInt - least.toInt) ↔
      greatest.toInt - least.toInt < 2 ^ 31 := by
  have nonneg := Int32.le_iff_toInt_le.mp ordered
  constructor
  · rintro ⟨word, wordEq, _⟩
    exact ((difference_eq_some_iff ordered).mp wordEq).1
  · intro small
    cases wordEq : difference greatest least with
    | none => exact absurd ((difference_eq_none_iff ordered).mp wordEq) (not_le.mpr small)
    | some word =>
        have exact := ((difference_eq_some_iff ordered).mp wordEq).2
        refine ⟨word, rfl, ?_, exact⟩
        rw [Int32.le_iff_toInt_le, exact, Int32.toInt_zero]
        omega

end Difference

variable {r : Rectangle Int32}

theorem contains_iff_offset {location : Point Int32} : r.contains location = true ↔
    (0 ≤ location.x.toInt - r.xMin.toInt ∧ location.x.toInt - r.xMin.toInt ≤ r.extentX) ∧
      0 ≤ location.y.toInt - r.yMin.toInt ∧ location.y.toInt - r.yMin.toInt ≤ r.extentY := by
  simp only [contains_eq_true_iff, Int32.le_iff_toInt_le, extentX, extentY]
  omega

theorem hasExactSize_iff_of_ordered (ordered : r.Ordered) :
    r.HasExactSize ↔ r.extentX < 2 ^ 31 ∧ r.extentY < 2 ^ 31 := by
  have width := exists_exact_difference_iff ordered.x
  have height := exists_exact_difference_iff ordered.y
  constructor
  · rintro ⟨w, h, widthEq, heightEq, widthExact, heightExact, _⟩
    exact ⟨width.mp ⟨w, widthEq, widthExact⟩, height.mp ⟨h, heightEq, heightExact⟩⟩
  · rintro ⟨narrow, low⟩
    obtain ⟨w, widthEq, widthExact⟩ := width.mpr narrow
    obtain ⟨h, heightEq, heightExact⟩ := height.mpr low
    refine ⟨w, h, widthEq, heightEq, widthExact, heightExact, fun location => ?_⟩
    rw [contains_iff_offset, widthExact.2, heightExact.2]
    rfl

end Rectangle

/-- Every rectangle that is made has its corners in order and contains the points at the right
distances. A width or a height exists, and is exact, for as long as it is below `2 ^ 31`. -/
theorem hasExactSize_iff (made : Construction Int32) :
    let r := made.rectangle
    (0 ≤ r.extentX ∧ 0 ≤ r.extentY) ∧
    ((∀ width, r.width = some width ↔ r.extentX < 2 ^ 31 ∧ width.toInt = r.extentX) ∧
      (r.width = none ↔ 2 ^ 31 ≤ r.extentX)) ∧
    ((∀ height, r.height = some height ↔ r.extentY < 2 ^ 31 ∧ height.toInt = r.extentY) ∧
      (r.height = none ↔ 2 ^ 31 ≤ r.extentY)) ∧
    (∀ location : Point Int32, r.contains location = true ↔
      (0 ≤ location.x.toInt - r.xMin.toInt ∧ location.x.toInt - r.xMin.toInt ≤ r.extentX) ∧
        0 ≤ location.y.toInt - r.yMin.toInt ∧ location.y.toInt - r.yMin.toInt ≤ r.extentY) ∧
    (r.HasExactSize ↔ r.extentX < 2 ^ 31 ∧ r.extentY < 2 ^ 31) := by
  intro r
  have numbers : ∀ item ∈ made.items, item.HasNumbers := by
    intro item _
    cases item with
    | point location => exact ⟨trivial, trivial⟩
    | corners xFirst yFirst xSecond ySecond => exact ⟨trivial, trivial, trivial, trivial⟩
  have ordered : r.Ordered := made.ordered_rectangle numbers
  refine ⟨⟨?_, ?_⟩, ⟨fun _ => Rectangle.difference_eq_some_iff ordered.x,
    Rectangle.difference_eq_none_iff ordered.x⟩,
    ⟨fun _ => Rectangle.difference_eq_some_iff ordered.y,
    Rectangle.difference_eq_none_iff ordered.y⟩, fun location => Rectangle.contains_iff_offset,
    Rectangle.hasExactSize_iff_of_ordered ordered⟩
  · exact Int.sub_nonneg_of_le (Int32.le_iff_toInt_le.mp ordered.x)
  · exact Int.sub_nonneg_of_le (Int32.le_iff_toInt_le.mp ordered.y)

/-- The rectangle over all integers has no width. -/
theorem not_hasExactSize_widest :
    let widest : Rectangle Int32 :=
      (Construction.item (.corners (-2147483648) 0 2147483647 0)).rectangle
    widest.width = none ∧ widest.extentX = 2 ^ 32 - 1 ∧ ¬widest.HasExactSize := by
  refine ⟨rfl, rfl, ?_⟩
  rintro ⟨_, _, widthEq, _⟩
  cases widthEq

end CoordinateConformance
