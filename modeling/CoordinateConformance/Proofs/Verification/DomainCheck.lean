import CoordinateConformance.Proofs.Verification.SampleCheck

/-!
Contract: what the domain check requires, and which error reports a violation.

A grid over the area of validity is sent there and back. The grid is described by rows and
columns; there is only one list of points that fits the description. Room for all its values is
made before the first one, which a machine may refuse.

Owns: `isGrid_grid`, `GridFits`, `decides_makeGrid`, `decides_verifyInDomain`.

Does **not** own: the transforms.
-/

namespace CoordinateConformance

open Comparison (Agree)
open SizeArithmetic (fits holds)

/-- The points of a grid over an area, borders included, row by row. -/
structure IsGrid (area : Rectangle Float) (size : Nat) (points : List Float) : Prop where
  length_eq : points.length = 2 * (size * size)
  x_eq : ∀ row < size, ∀ column < size, points[2 * (row * size + column)]? =
    some (area.xMin + area.width * Float.ofNat column / Float.ofNat (size - 1))
  y_eq : ∀ row < size, ∀ column < size, points[2 * (row * size + column) + 1]? =
    some (area.yMin + area.height * Float.ofNat row / Float.ofNat (size - 1))

/-- Parts of equal length are found one after another. -/
theorem getElem?_flatMap_range {part : Nat → List Float} {width : Nat}
    (lengths : ∀ index, (part index).length = width) {count index offset : Nat}
    (less : index < count) (within : offset < width) :
    ((List.range count).flatMap part)[index * width + offset]? = (part index)[offset]? := by
  have total : ∀ count, ((List.range count).flatMap part).length = count * width := by
    intro count
    simp [List.length_flatMap, lengths]
  induction count with
  | zero => omega
  | succ count inductionHypothesis =>
      rw [List.range_succ, List.flatMap_append]
      rcases Nat.lt_succ_iff_lt_or_eq.mp less with less | rfl
      · have inside : index * width + offset < count * width := by
          have next := Nat.mul_le_mul_right width less
          rw [Nat.succ_mul] at next
          omega
        rw [List.getElem?_append_left (by rw [total]; exact inside), inductionHypothesis less]
      · rw [List.getElem?_append_right (by rw [total]; omega), total, Nat.add_sub_cancel_left]
        simp

theorem isGrid_grid (area : Rectangle Float) {size : Nat} (large : 2 ≤ size) :
    IsGrid area size (TestCase.grid area size) := by
  have steps : max size 2 - 1 = size - 1 := by omega
  unfold TestCase.grid
  simp only [steps]
  have pairLength : ∀ row column,
      [TestCase.gridLine area.xMin area.width (size - 1) column,
        TestCase.gridLine area.yMin area.height (size - 1) row].length = 2 := fun _ _ => rfl
  have rowLength : ∀ row, ((List.range size).flatMap fun column =>
      [TestCase.gridLine area.xMin area.width (size - 1) column,
        TestCase.gridLine area.yMin area.height (size - 1) row]).length = size * 2 := by
    intro row
    simp [List.length_flatMap]
  refine ⟨?_, fun row rowLess column columnLess => ?_, fun row rowLess column columnLess => ?_⟩
  · rw [List.length_flatMap]
    simp [rowLength]
    ring
  · have index : 2 * (row * size + column) = row * (size * 2) + (column * 2 + 0) := by ring
    rw [index, getElem?_flatMap_range rowLength rowLess (by omega),
      getElem?_flatMap_range (pairLength row) columnLess (by omega)]
    rfl
  · have index : 2 * (row * size + column) + 1 = row * (size * 2) + (column * 2 + 1) := by ring
    rw [index, getElem?_flatMap_range rowLength rowLess (by omega),
      getElem?_flatMap_range (pairLength row) columnLess (by omega)]
    rfl

/-- Every index is the one of a coordinate of a row and a column. -/
theorem IsGrid.unique {area : Rectangle Float} {size : Nat} {first second : List Float}
    (left : IsGrid area size first) (right : IsGrid area size second) : first = second := by
  refine List.ext_getElem? fun index => ?_
  -- half the index is `row * size + column`
  by_cases less : index < 2 * (size * size)
  · have positive : 0 < size := Nat.pos_of_ne_zero (by rintro rfl; omega)
    have row : index / 2 / size < size := by
      rw [Nat.div_lt_iff_lt_mul positive]
      omega
    have column : index / 2 % size < size := Nat.mod_lt _ positive
    have pair : index / 2 / size * size + index / 2 % size = index / 2 := Nat.div_add_mod' _ _
    rcases Nat.mod_two_eq_zero_or_one index with even | odd
    · have indexEq : index = 2 * (index / 2 / size * size + index / 2 % size) := by omega
      rw [indexEq, left.x_eq _ row _ column, right.x_eq _ row _ column]
    · have indexEq : index = 2 * (index / 2 / size * size + index / 2 % size) + 1 := by omega
      rw [indexEq, left.y_eq _ row _ column, right.y_eq _ row _ column]
  · rw [List.getElem?_eq_none (by rw [left.length_eq]; omega),
      List.getElem?_eq_none (by rw [right.length_eq]; omega)]

theorem two_le_gridSize (test : TestCase) : 2 ≤ test.configuration.gridSize := by
  by_contra small
  have valid := test.valid
  unfold Configuration.validate at valid
  split_ifs at valid
  omega

section Domain

variable [SizeArithmetic]

/-- There is room for a grid: its rows and its values can be counted, and a list can hold them. -/
structure GridFits (size : Nat) : Prop where
  rows : fits (size * size) = true
  values : fits (size * size * 2) = true
  room : holds (size * size * 2) = true

theorem decides_makeGrid (area : Rectangle Float) (size : Nat) :
    Decides (TestCase.makeGrid area size)
      (fun points => GridFits size ∧ points = TestCase.grid area size)
      (fun stop => ¬GridFits size ∧ stop = .panic) := by
  unfold TestCase.makeGrid TestCase.gridCapacity
  refine (((decides_product size size).bind fun rows _ => decides_product rows 2).bind
    fun capacity _ => (decides_reserve capacity).bind fun _ _ =>
      Decides.ok (TestCase.grid area size)).congr (fun points => ?_) (fun stop => ?_)
  · constructor
    · rintro ⟨_, ⟨_, ⟨rows, rfl⟩, values, rfl⟩, _, room, rfl⟩
      exact ⟨⟨rows, values, room⟩, rfl⟩
    · rintro ⟨⟨rows, values, room⟩, rfl⟩
      exact ⟨_, ⟨_, ⟨rows, rfl⟩, values, rfl⟩, (), room, rfl⟩
  · constructor
    · rintro ((⟨tooLarge, rfl⟩ | ⟨_, ⟨_, rfl⟩, tooLarge, rfl⟩) |
        ⟨_, ⟨_, ⟨_, rfl⟩, _, rfl⟩, ⟨tooLarge, rfl⟩ | ⟨_, _, impossible⟩⟩)
      · exact ⟨fun gridFits => Bool.false_ne_true (tooLarge ▸ gridFits.rows), rfl⟩
      · exact ⟨fun gridFits => Bool.false_ne_true (tooLarge ▸ gridFits.values), rfl⟩
      · exact ⟨fun gridFits => Bool.false_ne_true (tooLarge ▸ gridFits.room), rfl⟩
      · exact impossible.elim
    · -- the first of the three conditions that fails stops the program
      rintro ⟨tooLarge, rfl⟩
      cases rows : fits (size * size) with
      | false => exact Or.inl (Or.inl ⟨rfl, rfl⟩)
      | true =>
          cases values : fits (size * size * 2) with
          | false => exact Or.inl (Or.inr ⟨_, ⟨rfl, rfl⟩, values, rfl⟩)
          | true =>
              cases room : holds (size * size * 2) with
              | false => exact Or.inr ⟨_, ⟨_, ⟨rfl, rfl⟩, values, rfl⟩, Or.inl ⟨room, rfl⟩⟩
              | true => exact absurd ⟨rows, values, room⟩ tooLarge

variable (test : TestCase) (sample : Sample) (operation : Operation)

/-- The points of the grid come back, if there is an inverse. -/
def DomainHolds : Prop :=
  ∀ inverse, operation.inverse? = some inverse →
    operation.sourceDimensions = 2 ∧ GridFits test.configuration.gridSize ∧
      ∃ points images back, IsGrid sample.area test.configuration.gridSize points ∧
        Maps operation points images ∧ Maps inverse images back ∧
        Agree points back (List.replicate 2 test.configuration.tolerance) 2
          (test.modifier sample) .inverse

inductive DomainViolated : Interruption → Prop where
  | source (inverse : Operation) (some : operation.inverse? = some inverse)
      (differ : operation.sourceDimensions ≠ 2) :
      DomainViolated
        (.error (.dimensionMismatch "operation source dimensions" 2 operation.sourceDimensions))
  | noRoom (inverse : Operation) (some : operation.inverse? = some inverse)
      (source : operation.sourceDimensions = 2)
      (tooLarge : ¬GridFits test.configuration.gridSize) :
      DomainViolated .panic
  | transform {stop : Interruption} (inverse : Operation)
      (some : operation.inverse? = some inverse) (source : operation.sourceDimensions = 2)
      (fits : GridFits test.configuration.gridSize)
      (points : List Float) (grid : IsGrid sample.area test.configuration.gridSize points)
      (rejects : Rejects operation points stop) :
      DomainViolated stop
  | back {stop : Interruption} (inverse : Operation)
      (some : operation.inverse? = some inverse) (source : operation.sourceDimensions = 2)
      (fits : GridFits test.configuration.gridSize)
      (points : List Float) (grid : IsGrid sample.area test.configuration.gridSize points)
      (images : List Float) (maps : Maps operation points images)
      (rejects : Rejects inverse images stop) :
      DomainViolated stop
  | comparison {error : ConformanceError} (inverse : Operation)
      (some : operation.inverse? = some inverse) (source : operation.sourceDimensions = 2)
      (fits : GridFits test.configuration.gridSize)
      (points : List Float) (grid : IsGrid sample.area test.configuration.gridSize points)
      (images : List Float) (maps : Maps operation points images)
      (back : List Float) (mapsBack : Maps inverse images back)
      (result : Comparison.Result points back (List.replicate 2 test.configuration.tolerance) 2
        (test.modifier sample) .inverse (.error error)) :
      DomainViolated (.error error)

variable {test} {sample} {operation}

theorem decides_verifyInDomain :
    Decides (test.verifyInDomain sample operation) (fun _ => DomainHolds test sample operation)
      (DomainViolated test sample operation) := by
  have isGrid := isGrid_grid sample.area (two_le_gridSize test)
  unfold TestCase.verifyInDomain
  cases inverseEq : operation.inverse? with
  | none =>
      refine (Decides.ok ()).congr (fun _ => ?_) (fun stop => ?_)
      · simp [DomainHolds, inverseEq]
      · refine ⟨False.elim, fun violated => ?_⟩
        cases violated <;> simp_all
  | some inverse =>
      refine ((decides_checkDimension _ _ _).bind fun _ _ =>
        (decides_makeGrid sample.area _).bind fun points _ =>
          (decides_transformChecked operation points).bind fun images _ =>
            (decides_transformChecked inverse images).bind fun back _ =>
              (decides_compareWithModifier points back _ _ _ _).ofResult).congr
                (fun _ => ?_) (fun stop => ?_)
      · constructor
        · rintro ⟨_, source, _, ⟨fits, rfl⟩, images, maps, back, mapsBack, agree⟩ other otherEq
          rw [inverseEq] at otherEq
          cases otherEq
          exact ⟨source.symm, fits, _, images, back, isGrid, maps, mapsBack, agree⟩
        · intro holds
          obtain ⟨source, fits, points, images, back, grid, maps, mapsBack, agree⟩ :=
            holds inverse inverseEq
          cases grid.unique isGrid
          exact ⟨(), source.symm, _, ⟨fits, rfl⟩, images, maps, back, mapsBack, agree⟩
      · constructor
        · rintro (⟨differ, rfl⟩ | ⟨_, source, ⟨tooLarge, rfl⟩ | ⟨_, ⟨fits, rfl⟩, rejects |
            ⟨images, maps, rejects | ⟨back, mapsBack, _, result, rfl⟩⟩⟩⟩)
          · exact .source inverse inverseEq (Ne.symm differ)
          · exact .noRoom inverse inverseEq source.symm tooLarge
          · exact .transform inverse inverseEq source.symm fits _ isGrid rejects
          · exact .back inverse inverseEq source.symm fits _ isGrid images maps rejects
          · exact .comparison inverse inverseEq source.symm fits _ isGrid images maps back mapsBack
              result
        · intro violated
          cases violated with
          | source other otherEq differ => exact Or.inl ⟨Ne.symm differ, rfl⟩
          | noRoom other otherEq source tooLarge =>
              exact Or.inr ⟨(), source.symm, Or.inl ⟨tooLarge, rfl⟩⟩
          | transform other otherEq source fits points grid rejects =>
              cases grid.unique isGrid
              exact Or.inr ⟨(), source.symm, Or.inr ⟨_, ⟨fits, rfl⟩, Or.inl rejects⟩⟩
          | back other otherEq source fits points grid images maps rejects =>
              cases grid.unique isGrid
              rw [inverseEq] at otherEq
              cases otherEq
              exact Or.inr ⟨(), source.symm, Or.inr ⟨_, ⟨fits, rfl⟩,
                Or.inr ⟨images, maps, Or.inl rejects⟩⟩⟩
          | comparison other otherEq source fits points grid images maps back mapsBack result =>
              cases grid.unique isGrid
              rw [inverseEq] at otherEq
              cases otherEq
              exact Or.inr ⟨(), source.symm, Or.inr ⟨_, ⟨fits, rfl⟩,
                Or.inr ⟨images, maps, Or.inr ⟨back, mapsBack, _, result, rfl⟩⟩⟩⟩

end Domain

/-! ## Exact sizes -/

section Exact

open scoped ExactSizes

theorem gridFits_exact (size : Nat) : GridFits size :=
  ⟨rfl, rfl, rfl⟩

theorem not_domainViolated_panic {test : TestCase} {sample : Sample} {operation : Operation} :
    ¬DomainViolated test sample operation .panic := by
  intro violated
  cases violated with
  | noRoom _ _ _ tooLarge => exact tooLarge (gridFits_exact _)
  | transform _ _ _ _ _ _ rejects => exact not_rejects_panic rejects
  | back _ _ _ _ _ _ _ _ rejects => exact not_rejects_panic rejects

end Exact

end CoordinateConformance
