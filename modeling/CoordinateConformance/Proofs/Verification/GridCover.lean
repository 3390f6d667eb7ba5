import CoordinateConformance.Proofs.Geometry.Surrounding
import CoordinateConformance.Proofs.Verification.DomainCheck
import CoordinateConformance.Proofs.Verification.GridLine

/-!
Contract: whether the grid of the domain check covers an area.

The points stand row by row, in ascending order from the least corner. What the roundings
decide is whether the last row and the last column are on the border. Most of the registered
areas have them there for all sizes, or as long as the products are exact. The last row of
Makassar is beyond the border if there are fourteen rows, and the last column of Europe misses
the border if there are fifty-six columns. No line is more than `1e-13` degrees outside.

Owns: `inside_grid_iff`, `covers_grid_iff_lastLines`, `covers_grid_iff`.

Does **not** own: the roundings of a line.
-/

namespace CoordinateConformance

/-! ## Points row by row -/

/-- A list holds the crossings of columns and rows, a row after the other. -/
structure RowMajor (size : ℕ) (x y : ℕ → Float) (points : List Float) : Prop where
  length_eq : points.length = 2 * (size * size)
  x_eq : ∀ row < size, ∀ column < size, points[2 * (row * size + column)]? = some (x column)
  y_eq : ∀ row < size, ∀ column < size, points[2 * (row * size + column) + 1]? = some (y row)

/-- All points of a list lie inside an area or on its border. -/
def Inside (area : Rectangle Float) (size : ℕ) (points : List Float) : Prop :=
  ∀ row < size, ∀ column < size, ∃ x y,
    points[2 * (row * size + column)]? = some x ∧
      points[2 * (row * size + column) + 1]? = some y ∧ area.contains ⟨x, y⟩ = true

/-- The points ascend from one corner of the area to the other, and none of them is outside. -/
def Covers (area : Rectangle Float) (size : ℕ) (points : List Float) : Prop :=
  ∃ x y, RowMajor size x y points ∧
    Ascends area.xMin size x ∧ (x (size - 1) == area.xMax) = true ∧
    Ascends area.yMin size y ∧ (y (size - 1) == area.yMax) = true ∧ Inside area size points

/-! ## Areas in degrees -/

section Area

variable (area : Rectangle Float) (size : ℕ)

def gridColumn (column : ℕ) : Float :=
  TestCase.gridLine area.xMin area.width (size - 1) column

def gridRow (row : ℕ) : Float :=
  TestCase.gridLine area.yMin area.height (size - 1) row

variable {area} {size}

theorem rowMajor_grid (large : 2 ≤ size) :
    RowMajor size (gridColumn area size) (gridRow area size) (TestCase.grid area size) := by
  have isGrid := isGrid_grid area large
  exact ⟨isGrid.length_eq, isGrid.x_eq, isGrid.y_eq⟩

/-- The borders of an area in degrees. -/
structure AreaBorders (area : Rectangle Float) : Prop where
  x : Borders area.xMin area.xMax
  y : Borders area.yMin area.yMax

instance (area : Rectangle Float) : Decidable (AreaBorders area) :=
  decidable_of_iff (Borders area.xMin area.xMax ∧ Borders area.yMin area.yMax)
    ⟨fun ⟨x, y⟩ => ⟨x, y⟩, fun borders => ⟨borders.x, borders.y⟩⟩

theorem AreaBorders.ascends_gridColumn (borders : AreaBorders area) (large : 2 ≤ size)
    (inRange : size < 2 ^ 64) : Ascends area.xMin size (gridColumn area size) :=
  ascends_gridLine borders.x large inRange

theorem AreaBorders.ascends_gridRow (borders : AreaBorders area) (large : 2 ≤ size)
    (inRange : size < 2 ^ 64) : Ascends area.yMin size (gridRow area size) :=
  ascends_gridLine borders.y large inRange

/-- All points are inside if the last row and the last column are. -/
theorem inside_grid_iff (borders : AreaBorders area) (large : 2 ≤ size) (inRange : size < 2 ^ 64) :
    Inside area size (TestCase.grid area size) ↔
      gridColumn area size (size - 1) ≤ area.xMax ∧ gridRow area size (size - 1) ≤ area.yMax := by
  have rowMajor : RowMajor size (gridColumn area size) (gridRow area size)
      (TestCase.grid area size) := rowMajor_grid large
  have columns := borders.ascends_gridColumn large inRange
  have rows := borders.ascends_gridRow large inRange
  have last : size - 1 < size := by omega
  constructor
  · intro inside
    obtain ⟨x, y, xEq, yEq, contained⟩ := inside (size - 1) last (size - 1) last
    rw [rowMajor.x_eq _ last _ last, Option.some_inj] at xEq
    rw [rowMajor.y_eq _ last _ last, Option.some_inj] at yEq
    subst xEq yEq
    obtain ⟨⟨_, xLe⟩, _, yLe⟩ := Rectangle.contains_eq_true_iff.mp contained
    exact ⟨xLe, yLe⟩
  · rintro ⟨xLe, yLe⟩ row rowLess column columnLess
    refine ⟨_, _, rowMajor.x_eq row rowLess column columnLess,
      rowMajor.y_eq row rowLess column columnLess,
      Rectangle.contains_eq_true_iff.mpr ⟨⟨?_, ?_⟩, ?_, ?_⟩⟩
    · exact columns.least_le columnLess
    · exact Binary64.numbers_le_trans (columns.mono (by omega) last) xLe
    · exact rows.least_le rowLess
    · exact Binary64.numbers_le_trans (rows.mono (by omega) last) yLe

/-- A grid covers the area if its last row and its last column are the borders. -/
theorem covers_grid_iff_lastLines (borders : AreaBorders area) (large : 2 ≤ size)
    (inRange : size < 2 ^ 64) :
    Covers area size (TestCase.grid area size) ↔
      (gridColumn area size (size - 1) == area.xMax) = true ∧
        (gridRow area size (size - 1) == area.yMax) = true := by
  have rowMajor : RowMajor size (gridColumn area size) (gridRow area size)
      (TestCase.grid area size) := rowMajor_grid large
  have last : size - 1 < size := by omega
  constructor
  · rintro ⟨x, y, rowMajorToo, _, xLast, _, yLast, _⟩
    have xEq := (rowMajor.x_eq _ last _ last).symm.trans (rowMajorToo.x_eq _ last _ last)
    have yEq := (rowMajor.y_eq _ last _ last).symm.trans (rowMajorToo.y_eq _ last _ last)
    rw [Option.some_inj.mp xEq, Option.some_inj.mp yEq]
    exact ⟨xLast, yLast⟩
  · rintro ⟨xLast, yLast⟩
    exact ⟨_, _, rowMajor, borders.ascends_gridColumn large inRange, xLast,
      borders.ascends_gridRow large inRange, yLast, (inside_grid_iff borders large inRange).mpr
        ⟨Binary64.numbers_le_of_beq xLast, Binary64.numbers_le_of_beq yLast⟩⟩

end Area

/-! ## Last lines on the border -/

section LastLine

variable {least greatest : Float} {steps : ℕ}

/-- All that a multiplication and a division can make of the width leads to the border. -/
def Snaps (least greatest : Float) : Prop :=
  (lastLineBounds least greatest).any
    (fun bounds => bounds.1 == greatest && bounds.2 == greatest) = true

/-- The width is a whole number of degrees, at most those of a circle, and leads to the border. -/
def WholeWidth (least greatest : Float) : Prop :=
  ∃ degrees ∈ [170, 180, 360], (greatest - least == Float.ofNat degrees) = true ∧
    (least + (greatest - least) == greatest) = true

/-- The last line is at most this far beyond the border. -/
def margin : Float :=
  1e-13

/-- All that a multiplication and a division can make of the width leads to the border or just
beyond it. -/
def WithinMargin (least greatest : Float) : Prop :=
  (lastLineBounds least greatest).any (fun bounds => decide (bounds.2 ≤ greatest + margin)) = true

instance : Decidable (Snaps least greatest) :=
  inferInstanceAs (Decidable (_ = true))

instance : Decidable (WholeWidth least greatest) :=
  inferInstanceAs (Decidable (∃ degrees ∈ [170, 180, 360], _ ∧ _))

instance : Decidable (WithinMargin least greatest) :=
  inferInstanceAs (Decidable (_ = true))

theorem Snaps.lastLine_eq (snaps : Snaps least greatest) (borders : Borders least greatest)
    (positive : 0 < steps) (inRange : steps < 2 ^ 64) :
    (TestCase.gridLine least (greatest - least) steps steps == greatest) = true := by
  unfold Snaps at snaps
  rw [Option.any_eq_true] at snaps
  obtain ⟨⟨lower, upper⟩, bounds, reach⟩ := snaps
  rw [Bool.and_eq_true, Binary64.beq_iff, Binary64.beq_iff] at reach
  obtain ⟨⟨_, _, lowerEq⟩, _, number, upperEq⟩ := reach
  obtain ⟨above, below⟩ := lastLine_between borders bounds positive inRange
  obtain ⟨_, lineNumber, aboveValue⟩ := Binary64.le_iff.mp above
  obtain ⟨_, _, belowValue⟩ := Binary64.le_iff.mp below
  exact Binary64.beq_iff.mpr ⟨lineNumber, number,
    le_antisymm (belowValue.trans_eq upperEq) (lowerEq.symm.trans_le aboveValue)⟩

theorem WholeWidth.lastLine_eq (whole : WholeWidth least greatest)
    (borders : Borders least greatest) (positive : 0 < steps) (small : steps < 2 ^ 44) :
    (TestCase.gridLine least (greatest - least) steps steps == greatest) = true := by
  obtain ⟨degrees, listed, width, reaches⟩ := whole
  have bounds : 0 < degrees ∧ degrees ≤ 360 := by
    have all : ∀ degrees ∈ [170, 180, 360], 0 < degrees ∧ degrees ≤ 360 := by decide
    exact all degrees listed
  refine lastLine_eq_of_exact borders width reaches positive bounds.1 ?_
  calc degrees * steps ≤ 360 * 2 ^ 44 := Nat.mul_le_mul bounds.2 small.le
    _ < 2 ^ 53 := by norm_num

theorem lastLine_eq_of_kind (kind : Snaps least greatest ∨ WholeWidth least greatest)
    (borders : Borders least greatest) (positive : 0 < steps) (small : steps < 2 ^ 44) :
    (TestCase.gridLine least (greatest - least) steps steps == greatest) = true := by
  rcases kind with snaps | whole
  · exact snaps.lastLine_eq borders positive (by omega)
  · exact whole.lastLine_eq borders positive small

theorem WithinMargin.lastLine_le (within : WithinMargin least greatest)
    (borders : Borders least greatest) (positive : 0 < steps) (inRange : steps < 2 ^ 64) :
    TestCase.gridLine least (greatest - least) steps steps ≤ greatest + margin := by
  unfold WithinMargin at within
  rw [Option.any_eq_true] at within
  obtain ⟨⟨lower, upper⟩, bounds, le⟩ := within
  exact Binary64.numbers_le_trans (lastLine_between borders bounds positive inRange).2
    (of_decide_eq_true le)

end LastLine

/-! ## Registered areas -/

section Registered

variable {sample : Sample} {size : ℕ}

theorem areaBorders_of_mem (registered : sample ∈ Sample.all) : AreaBorders sample.area := by
  have all : ∀ sample ∈ Sample.all, AreaBorders sample.area := by decide +kernel
  exact all sample registered

theorem lastColumn_eq (registered : sample ∈ Sample.all) (large : 2 ≤ size) (small : size ≤ 2 ^ 44)
    (europe : sample.target = 3035 → size < 56) :
    (gridColumn sample.area size (size - 1) == sample.area.xMax) = true := by
  have borders := (areaBorders_of_mem registered).x
  have kinds : ∀ sample ∈ Sample.all,
      (Snaps sample.area.xMin sample.area.xMax ∨ WholeWidth sample.area.xMin sample.area.xMax) ∨
        sample.target = 3035 := by decide +kernel
  have listed : ∀ sample ∈ Sample.all, sample.target = 3035 → ∀ size < 56, 2 ≤ size →
      (gridColumn sample.area size (size - 1) == sample.area.xMax) = true := by decide +kernel
  rcases kinds sample registered with kind | target
  · exact lastLine_eq_of_kind kind borders (by omega) (by omega)
  · exact listed sample registered target size (europe target) large

-- fifty-six columns are the first to miss the border
example : ∃ sample ∈ Sample.all, sample.target = 3035 ∧
    (gridColumn sample.area 56 55 == sample.area.xMax) = false := by decide +kernel

theorem lastRow_eq (registered : sample ∈ Sample.all) (large : 2 ≤ size) (small : size ≤ 2 ^ 44)
    (makassar : sample.target = 3002 → size < 14) :
    (gridRow sample.area size (size - 1) == sample.area.yMax) = true := by
  have borders := (areaBorders_of_mem registered).y
  have kinds : ∀ sample ∈ Sample.all,
      (Snaps sample.area.yMin sample.area.yMax ∨ WholeWidth sample.area.yMin sample.area.yMax) ∨
        sample.target = 3002 := by decide +kernel
  have listed : ∀ sample ∈ Sample.all, sample.target = 3002 → ∀ size < 14, 2 ≤ size →
      (gridRow sample.area size (size - 1) == sample.area.yMax) = true := by decide +kernel
  rcases kinds sample registered with kind | target
  · exact lastLine_eq_of_kind kind borders (by omega) (by omega)
  · exact listed sample registered target size (makassar target) large

theorem lastLines_le_margin (registered : sample ∈ Sample.all) (large : 2 ≤ size)
    (inRange : size < 2 ^ 64) :
    gridColumn sample.area size (size - 1) ≤ sample.area.xMax + margin ∧
      gridRow sample.area size (size - 1) ≤ sample.area.yMax + margin := by
  have borders := areaBorders_of_mem registered
  have all : ∀ sample ∈ Sample.all, WithinMargin sample.area.xMin sample.area.xMax ∧
      WithinMargin sample.area.yMin sample.area.yMax := by decide +kernel
  obtain ⟨x, y⟩ := all sample registered
  exact ⟨x.lastLine_le borders.x (by omega) (by omega),
    y.lastLine_le borders.y (by omega) (by omega)⟩

end Registered

/-- The grid over the area of a registered sample, for all sizes of 64 bits: the points stand row
by row, ascend from the least corner and do not leave the area by more than a margin. They are
inside the area if the last lines are, and cover it if the last lines are its borders. Up to sizes
of 44 bits they are, where Makassar has less than 14 rows and Europe less than 56 columns. -/
theorem covers_grid_iff {sample : Sample} (registered : sample ∈ Sample.all) {size : ℕ}
    (large : 2 ≤ size) (inRange : size < 2 ^ 64) :
    (RowMajor size (gridColumn sample.area size) (gridRow sample.area size)
        (TestCase.grid sample.area size) ∧
      Ascends sample.area.xMin size (gridColumn sample.area size) ∧
      Ascends sample.area.yMin size (gridRow sample.area size) ∧
      (∀ column < size, gridColumn sample.area size column ≤ sample.area.xMax + margin) ∧
      ∀ row < size, gridRow sample.area size row ≤ sample.area.yMax + margin) ∧
    (Inside sample.area size (TestCase.grid sample.area size) ↔
      gridColumn sample.area size (size - 1) ≤ sample.area.xMax ∧
        gridRow sample.area size (size - 1) ≤ sample.area.yMax) ∧
    (Covers sample.area size (TestCase.grid sample.area size) ↔
      (gridColumn sample.area size (size - 1) == sample.area.xMax) = true ∧
        (gridRow sample.area size (size - 1) == sample.area.yMax) = true) ∧
    (size ≤ 2 ^ 44 → (sample.target = 3002 → size < 14) → (sample.target = 3035 → size < 56) →
      Covers sample.area size (TestCase.grid sample.area size)) := by
  have borders := areaBorders_of_mem registered
  have columns := borders.ascends_gridColumn large inRange
  have rows := borders.ascends_gridRow large inRange
  obtain ⟨xLe, yLe⟩ := lastLines_le_margin registered large inRange
  refine ⟨⟨rowMajor_grid large, columns, rows, fun column less => ?_, fun row less => ?_⟩,
    inside_grid_iff borders large inRange, covers_grid_iff_lastLines borders large inRange,
    fun small makassar europe => ?_⟩
  · exact Binary64.numbers_le_trans (columns.mono (by omega) (by omega)) xLe
  · exact Binary64.numbers_le_trans (rows.mono (by omega) (by omega)) yLe
  · exact (covers_grid_iff_lastLines borders large inRange).mpr
      ⟨lastColumn_eq registered large small europe, lastRow_eq registered large small makassar⟩

/-- The standard size covers the area of Makassar. -/
theorem covers_grid_standard :
    ∃ sample ∈ Sample.all, sample.target = 3002 ∧
      Covers sample.area 8 (TestCase.grid sample.area 8) := by
  have registered : Sample.all.head (List.cons_ne_nil _ _) ∈ Sample.all := List.head_mem _
  refine ⟨_, registered, rfl, ?_⟩
  exact (covers_grid_iff registered (by norm_num) (by norm_num)).2.2.2 (by norm_num)
    (fun _ => by norm_num) (fun _ => by norm_num)

/-- With fourteen rows the last one is north of the area of Makassar. -/
theorem not_covers_grid_fourteen :
    ∃ sample ∈ Sample.all, sample.target = 3002 ∧
      sample.area.yMax < gridRow sample.area 14 13 ∧
      ¬Inside sample.area 14 (TestCase.grid sample.area 14) ∧
      ¬Covers sample.area 14 (TestCase.grid sample.area 14) := by
  have registered : Sample.all.head (List.cons_ne_nil _ _) ∈ Sample.all := List.head_mem _
  have borders := areaBorders_of_mem registered
  refine ⟨_, registered, rfl, by decide +kernel, fun inside => ?_, fun covers => ?_⟩
  · have yLe := ((inside_grid_iff borders (by norm_num) (by norm_num)).mp inside).2
    exact absurd yLe (by decide +kernel)
  · have yEq := ((covers_grid_iff_lastLines borders (by norm_num) (by norm_num)).mp covers).2
    exact absurd yEq (by decide +kernel)

end CoordinateConformance
