import CoordinateConformance.Decimal.Layout
import CoordinateConformance.Proofs.Decimal.ReadBack

/-!
Contract: the numeral that is written for a number is read as this number.

The search tests the two neighbours of a number on one decimal grid after the other. What it
accepts lies in the interval of the number. On the grid of seventeen digits one neighbour always
does, since the grid is finer than the interval is wide. Trailing zeros, the place of the point and
the power of ten are matters of writing and leave the value as it is.

Owns: `Decimal.searchGrids_isSome`, `Decimal.denotes_shortest`, `Layout.toFloat?_numeral`,
`Layout.wellFormed_numeral`.

Does **not** own: the reading of the text of a numeral.
-/

namespace CoordinateConformance

open Binary64

/-! ## Powers as ratios -/

theorem powerRatio_snd_pos {base : ℕ} (positive : 0 < base) (exponent : ℤ) :
    0 < (powerRatio base exponent).2 :=
  Nat.pow_pos positive

theorem powerRatio_fst {base : ℕ} (positive : 0 < base) (exponent : ℤ) :
    ((powerRatio base exponent).1 : ℝ) = base ^ exponent * (powerRatio base exponent).2 := by
  have nonzero : (base : ℝ) ≠ 0 := by positivity
  unfold powerRatio
  simp only [Nat.pow_eq]
  push_cast
  rw [← zpow_natCast, ← zpow_natCast, ← zpow_add₀ nonzero]
  congr 1
  omega

section Grid

variable (binary scale : ℤ)

/-- The common denominator of a power of two and a power of ten. -/
noncomputable def commonDenominator : ℝ :=
  (powerRatio 2 binary).2 * (powerRatio 10 scale).2

theorem commonDenominator_pos : 0 < commonDenominator binary scale := by
  have twos := powerRatio_snd_pos two_pos binary
  have tens := powerRatio_snd_pos (show 0 < 10 by norm_num) scale
  unfold commonDenominator
  positivity

theorem cast_binary (count : ℕ) :
    ((count * ((powerRatio 2 binary).1 * (powerRatio 10 scale).2) : ℕ) : ℝ) =
      count * 2 ^ binary * commonDenominator binary scale := by
  push_cast
  rw [powerRatio_fst two_pos, commonDenominator]
  push_cast
  ring

theorem cast_decimal (multiple : ℕ) :
    ((multiple * ((powerRatio 10 scale).1 * (powerRatio 2 binary).2) : ℕ) : ℝ) =
      multiple * 10 ^ scale * commonDenominator binary scale := by
  push_cast
  rw [powerRatio_fst (by norm_num), commonDenominator]
  push_cast
  ring

variable {binary scale} {count multiple : ℕ}

theorem binary_le_decimal_iff :
    count * ((powerRatio 2 binary).1 * (powerRatio 10 scale).2) ≤
        multiple * ((powerRatio 10 scale).1 * (powerRatio 2 binary).2) ↔
      (count : ℝ) * 2 ^ binary ≤ multiple * 10 ^ scale := by
  rw [← @Nat.cast_le ℝ, cast_binary, cast_decimal,
    mul_le_mul_iff_of_pos_right (commonDenominator_pos binary scale)]

theorem decimal_le_binary_iff :
    multiple * ((powerRatio 10 scale).1 * (powerRatio 2 binary).2) ≤
        count * ((powerRatio 2 binary).1 * (powerRatio 10 scale).2) ↔
      (multiple : ℝ) * 10 ^ scale ≤ count * 2 ^ binary := by
  rw [← @Nat.cast_le ℝ, cast_binary, cast_decimal,
    mul_le_mul_iff_of_pos_right (commonDenominator_pos binary scale)]

end Grid

/-- The quotient has as many digits before the point as its leading exponent says, so the power of
ten below it is at most the quotient. -/
theorem ten_zpow_le_quotient {numerator denominator : ℕ} (positive : 0 < numerator)
    (nonzero : 0 < denominator) :
    (10 : ℝ) ^ (leadingExponent numerator denominator - 1) ≤ numerator / denominator := by
  have above : (0 : ℝ) < denominator := by exact_mod_cast nonzero
  unfold leadingExponent
  dsimp only
  generalize differenceEq : (decimalLength numerator : ℤ) - decimalLength denominator = difference
  split_ifs with reached
  · have tens : (0 : ℝ) < (powerRatio 10 difference).2 := by
      exact_mod_cast powerRatio_snd_pos (show 0 < 10 by norm_num) difference
    rw [← @Nat.cast_le ℝ] at reached
    push_cast at reached
    rw [powerRatio_fst (by norm_num), mul_right_comm, mul_le_mul_iff_of_pos_right tens] at reached
    rw [add_sub_cancel_right, le_div_iff₀ above]
    exact_mod_cast reached
  · have digits : (10 : ℝ) ^ (decimalLength numerator - 1) ≤ numerator := by
      exact_mod_cast pow_decimalLength_le positive
    have length : 0 < decimalLength numerator := Nat.length_toDigits_pos
    have power : (denominator : ℝ) ≤ 10 ^ decimalLength denominator := by
      exact_mod_cast (lt_pow_decimalLength denominator).le
    rw [le_div_iff₀ above]
    calc (10 : ℝ) ^ (difference - 1) * denominator
        ≤ 10 ^ (difference - 1) * 10 ^ decimalLength denominator := by gcongr
      _ = 10 ^ (decimalLength numerator - 1) := by
          rw [← zpow_natCast, ← zpow_natCast, ← zpow_add₀ (by norm_num)]
          congr 1
          omega
      _ ≤ numerator := digits

namespace Decimal

/-! ## The search -/

section Search

variable {x : BinaryExpansion} {scale : ℤ} {multiple : ℕ} (positive : 0 < x.significand)

include positive in
/-- The test in natural numbers decides the interval of a number. -/
theorem attracts_iff : attracts x scale multiple = true ↔ Attracts x (multiple * 10 ^ scale) := by
  have gap : x.gapBelow ≤ 4 * x.significand := by
    have two := (gapBelow_bounds x).2
    omega
  have below : ((4 * x.significand - x.gapBelow : ℕ) : ℝ) = 4 * x.significand - x.gapBelow := by
    push_cast [gap]
    rfl
  have above : ((4 * x.significand + 2 : ℕ) : ℝ) = 4 * x.significand + 2 := by push_cast; rfl
  unfold attracts
  dsimp only
  split_ifs with even
  · rw [Bool.and_eq_true, decide_eq_true_iff, decide_eq_true_iff, binary_le_decimal_iff,
      decimal_le_binary_iff, below, above, ← lowEnd_eq, ← highEnd_eq]
    constructor
    · rintro ⟨low, high⟩
      exact ⟨low, high, fun odd => absurd even (by omega)⟩
    · rintro ⟨low, high, -⟩
      exact ⟨low, high⟩
  · rw [Bool.and_eq_true, decide_eq_true_iff, decide_eq_true_iff, ← not_le, ← not_le,
      binary_le_decimal_iff, decimal_le_binary_iff, below, above, not_le, not_le, ← lowEnd_eq,
      ← highEnd_eq]
    constructor
    · rintro ⟨low, high⟩
      exact ⟨low.le, high.le, fun _ => ⟨low, high⟩⟩
    · rintro ⟨-, -, interior⟩
      exact interior (by omega)

theorem floorOn_le (x : BinaryExpansion) (scale : ℤ) :
    (floorOn x scale : ℝ) * 10 ^ scale ≤ x.significand * 2 ^ x.exponent := by
  rw [← decimal_le_binary_iff]
  exact Nat.div_mul_le_self _ _

theorem lt_floorOn_succ (x : BinaryExpansion) (scale : ℤ) :
    (x.significand : ℝ) * 2 ^ x.exponent < (floorOn x scale + 1 : ℕ) * 10 ^ scale := by
  rw [← not_le, ← decimal_le_binary_iff, not_le]
  have grid : 0 < (powerRatio 10 scale).1 * (powerRatio 2 x.exponent).2 :=
    Nat.mul_pos (Nat.pow_pos (by norm_num)) (powerRatio_snd_pos two_pos _)
  exact Nat.lt_mul_of_div_lt (Nat.lt_succ_self _) grid

theorem nearer_eq (tie : Tie) (below : ℕ) :
    nearer tie x scale below = below ∨ nearer tie x scale below = below + 1 := by
  unfold nearer
  cases tie <;> dsimp only <;> split_ifs <;> simp

theorem attracts_of_onGrid {tie : Tie} (found : onGrid tie x scale = some multiple) :
    attracts x scale multiple = true := by
  unfold onGrid at found
  dsimp only at found
  split at found
  next => cases found
  next hit _ => cases found; exact hit
  next _ hit => cases found; exact hit
  next hitBelow hitAbove =>
    cases found
    rcases nearer_eq tie (floorOn x scale) with same | same <;> rw [same] <;> assumption

theorem onGrid_eq_none {tie : Tie} (missed : onGrid tie x scale = none) :
    attracts x scale (floorOn x scale) = false ∧
      attracts x scale (floorOn x scale + 1) = false := by
  unfold onGrid at missed
  dsimp only at missed
  split at missed
  next below above => exact ⟨below, above⟩
  all_goals cases missed

include positive in
/-- One of the two neighbours lies in the interval if they are less far apart than its ends. -/
theorem onGrid_isSome (tie : Tie) (fine : (10 : ℝ) ^ scale < highEnd x - lowEnd x) :
    (onGrid tie x scale).isSome := by
  by_contra none
  obtain ⟨missedBelow, missedAbove⟩ :=
    onGrid_eq_none (Option.not_isSome_iff_eq_none.mp none)
  have farBelow : (floorOn x scale : ℝ) * 10 ^ scale ≤ lowEnd x := by
    by_contra near
    refine absurd ((attracts_iff positive).mpr ?_) (ne_true_of_eq_false missedBelow)
    exact .of_below (not_le.mp near) (floorOn_le x scale)
  have farAbove : highEnd x ≤ (floorOn x scale + 1 : ℕ) * 10 ^ scale := by
    by_contra near
    refine absurd ((attracts_iff positive).mpr ?_) (ne_true_of_eq_false missedAbove)
    exact .of_above (lt_floorOn_succ x scale).le (not_le.mp near)
  push_cast at farAbove
  linarith

end Search

/-- The leading digit is not beyond the number. -/
theorem ten_zpow_le_value {x : BinaryExpansion} (positive : 0 < x.significand) :
    (10 : ℝ) ^ (leadingExponent x.magnitude.1 x.magnitude.2 - 1) ≤
      x.significand * 2 ^ x.exponent := by
  have denominator : 0 < x.magnitude.2 := powerRatio_snd_pos two_pos x.exponent
  have numerator : 0 < x.magnitude.1 := Nat.mul_pos positive (Nat.pow_pos two_pos)
  have quotient : (x.magnitude.1 : ℝ) / x.magnitude.2 = x.significand * 2 ^ x.exponent := by
    have nonzero : (x.magnitude.2 : ℝ) ≠ 0 := by positivity
    rw [div_eq_iff nonzero]
    unfold BinaryExpansion.magnitude
    push_cast
    rw [powerRatio_fst two_pos]
    push_cast
    ring
  rw [← quotient]
  exact ten_zpow_le_quotient numerator denominator

/-- A number has less than 10^16 units of its last place, and a power of two less than three
quarters of this. -/
theorem value_lt_width {x : BinaryExpansion} (small : x.significand < 2 ^ 53) :
    x.significand * 2 ^ x.exponent < (highEnd x - lowEnd x) * 10 ^ 16 := by
  have unit : (0 : ℝ) < 2 ^ (x.exponent - 2) := by positivity
  have units : 4 * (x.significand : ℝ) < (2 + x.gapBelow) * 10 ^ 16 := by
    unfold BinaryExpansion.gapBelow
    split_ifs with power
    · rw [power.1, BinaryExpansion.hiddenBit]
      norm_num
    · have bits : (x.significand : ℝ) < 2 ^ 53 := by exact_mod_cast small
      calc 4 * (x.significand : ℝ) < 4 * 2 ^ 53 := by gcongr
        _ < (2 + (2 : ℕ)) * 10 ^ 16 := by norm_num
  have scaled := mul_lt_mul_of_pos_right units unit
  rw [highEnd_eq, lowEnd_eq, two_zpow_eq x.exponent]
  linarith

/-- Seventeen digits are enough: their grid is finer than the interval of the number. -/
theorem searchGrids_isSome (tie : Tie) {x : BinaryExpansion} (positive : 0 < x.significand)
    (small : x.significand < 2 ^ 53) : (searchGrids tie x).isSome := by
  set scale : ℤ := leadingExponent x.magnitude.1 x.magnitude.2 - ((16 : ℕ) + 1) with scaleEq
  have fine : (10 : ℝ) ^ scale < highEnd x - lowEnd x := by
    have digits : (10 : ℝ) ^ (leadingExponent x.magnitude.1 x.magnitude.2 - 1) =
        10 ^ scale * 10 ^ 16 := by
      rw [← zpow_natCast, ← zpow_add₀ (by norm_num), scaleEq]
      congr 1
      push_cast
      ring
    have value := (ten_zpow_le_value positive).trans_lt (value_lt_width small)
    rw [digits] at value
    exact lt_of_mul_lt_mul_right value (by norm_num)
  have hit := onGrid_isSome positive tie fine
  unfold searchGrids
  dsimp only
  rw [List.findSome?_isSome_iff]
  refine ⟨16, List.mem_range.mpr (by norm_num), ?_⟩
  rw [Option.isSome_map]
  exact hit

theorem attracts_of_searchGrids {tie : Tie} {x : BinaryExpansion} {d : Decimal}
    (positive : 0 < x.significand) (found : searchGrids tie x = some d) :
    d.negative = x.negative ∧ Attracts x d.size := by
  unfold searchGrids at found
  dsimp only at found
  obtain ⟨index, -, hit⟩ := List.exists_of_findSome?_eq_some found
  obtain ⟨multiple, onGrid, rfl⟩ := Option.map_eq_some_iff.mp hit
  exact ⟨rfl, (attracts_iff positive).mp (attracts_of_onGrid onGrid)⟩

/-! ## Ways to write the same value -/

/-- Two decimals have the same sign and the same size. -/
structure SameValue (d e : Decimal) : Prop where
  negative : d.negative = e.negative
  size : d.size = e.size

theorem SameValue.trans {c d e : Decimal} (left : SameValue c d) (right : SameValue d e) :
    SameValue c e :=
  ⟨left.negative.trans right.negative, left.size.trans right.size⟩

theorem Denotes.of_sameValue {d e : Decimal} {x : BinaryExpansion} (denotes : Denotes e x)
    (same : SameValue d e) : Denotes d x := by
  obtain ⟨negative, size⟩ := same
  exact ⟨negative.trans denotes.negative, fun zero => size.trans (denotes.zero zero),
    fun positive => size ▸ denotes.interval positive⟩

theorem sameValue_trimZeros (fuel : ℕ) (d : Decimal) : SameValue (trimZeros fuel d) d := by
  induction fuel generalizing d with
  | zero => exact ⟨rfl, rfl⟩
  | succ fuel inductionHypothesis =>
      unfold trimZeros
      split_ifs with trailing
      · refine (inductionHypothesis _).trans ⟨rfl, ?_⟩
        have ten : d.coefficient = d.coefficient / 10 * 10 := by omega
        have cast : (d.coefficient : ℝ) = (d.coefficient / 10 : ℕ) * 10 := by exact_mod_cast ten
        unfold size
        rw [zpow_add_one₀ (by norm_num), cast]
        push_cast
        ring
      · exact ⟨rfl, rfl⟩

theorem sameValue_normalize (d : Decimal) : SameValue d.normalize d := by
  unfold normalize
  split_ifs with zero
  · refine ⟨rfl, ?_⟩
    rw [(size_eq_zero_iff _).mpr rfl, (size_eq_zero_iff d).mpr zero]
  · exact sameValue_trimZeros _ d

/-- The digits that the search chooses denote the number. -/
theorem denotes_shortest (tie : Tie) {x : BinaryExpansion} (small : x.significand < 2 ^ 53) :
    Denotes (shortest tie x) x := by
  unfold shortest
  dsimp only
  split_ifs with zero
  · exact ⟨rfl, fun _ => (size_eq_zero_iff _).mpr rfl, fun positive => absurd zero positive.ne'⟩
  · have positive := Nat.pos_of_ne_zero zero
    obtain ⟨d, found⟩ := Option.isSome_iff_exists.mp (searchGrids_isSome tie positive small)
    obtain ⟨negative, inside⟩ := attracts_of_searchGrids positive found
    have denotes : Denotes d x := ⟨negative, fun none => absurd none zero, fun _ => inside⟩
    rw [found, Option.getD_some]
    exact denotes.of_sameValue (sameValue_normalize d)

end Decimal

/-! ## Numerals -/

namespace Numeral

/-- The digits behind the point are as many as the places. -/
def WellFormed (n : Numeral) : Prop :=
  n.fraction < 10 ^ n.places

instance (n : Numeral) : Decidable n.WellFormed :=
  inferInstanceAs (Decidable (_ < _))

theorem wellFormed_positional (d : Decimal) : (positional d).WellFormed := by
  unfold positional WellFormed
  split
  · exact Nat.one_pos
  · exact Nat.mod_lt _ (Nat.pow_pos (by norm_num))

theorem wellFormed_scientific (d : Decimal) : (scientific d).WellFormed :=
  Nat.mod_lt _ (Nat.pow_pos (by norm_num))

theorem wellFormed_withPoint {n : Numeral} (wellFormed : n.WellFormed) :
    n.withPoint.WellFormed := by
  unfold withPoint
  split_ifs
  · exact Nat.pow_pos (by norm_num)
  · exact wellFormed

theorem sameValue_positional (d : Decimal) : (positional d).toDecimal.SameValue d := by
  unfold positional
  split
  next exponent exponentEq =>
    refine ⟨rfl, ?_⟩
    simp only [toDecimal, Decimal.size, exponentEq, Nat.pow_eq, pow_zero, mul_one, add_zero,
      Option.getD_none, Nat.cast_zero, sub_zero, zpow_zero, Int.ofNat_eq_natCast, zpow_natCast]
    push_cast
    rfl
  next exponent exponentEq =>
    refine ⟨rfl, ?_⟩
    simp only [toDecimal, Decimal.size, exponentEq, Nat.pow_eq, Nat.div_add_mod',
      Option.getD_none, zero_sub, Int.negSucc_eq]
    push_cast
    rfl

theorem sameValue_scientific (d : Decimal) : (scientific d).toDecimal.SameValue d := by
  refine ⟨rfl, ?_⟩
  simp only [scientific, toDecimal, Decimal.size, Nat.pow_eq, Nat.div_add_mod', Option.getD_some,
    add_sub_cancel_right]

theorem sameValue_withPoint {n : Numeral} (wellFormed : n.WellFormed) :
    n.withPoint.toDecimal.SameValue n.toDecimal := by
  unfold withPoint
  split_ifs with whole
  · have zero : n.fraction = 0 := by
      rw [WellFormed, whole, pow_zero, Nat.lt_one_iff] at wellFormed
      exact wellFormed
    refine ⟨rfl, ?_⟩
    simp only [toDecimal, Decimal.size, whole, zero, Nat.pow_eq, pow_zero, pow_one, mul_one,
      add_zero, Nat.cast_zero, Nat.cast_one, sub_zero, zpow_sub₀ (by norm_num : (10 : ℝ) ≠ 0),
      zpow_one]
    push_cast
    field_simp
  · exact ⟨rfl, rfl⟩

end Numeral

namespace Layout

theorem wellFormed_positional (layout : Layout) (d : Decimal) :
    (layout.positional d).WellFormed := by
  unfold positional
  split_ifs
  · exact Numeral.wellFormed_withPoint (Numeral.wellFormed_positional d)
  · exact Numeral.wellFormed_positional d

theorem sameValue_positional (layout : Layout) (d : Decimal) :
    (layout.positional d).toDecimal.SameValue d := by
  have positional := Numeral.sameValue_positional d
  unfold Layout.positional
  split_ifs
  · exact (Numeral.sameValue_withPoint (Numeral.wellFormed_positional d)).trans positional
  · exact positional

theorem wellFormed_numeral (layout : Layout) (x : Float) : (layout.numeral x).WellFormed := by
  unfold numeral compose
  dsimp only
  split_ifs
  · exact layout.wellFormed_positional _
  · exact Numeral.wellFormed_scientific _

/-- The place of the point and the power of ten do not matter. -/
theorem sameValue_compose (layout : Layout) (d : Decimal) :
    (layout.compose d).toDecimal.SameValue d := by
  unfold compose
  dsimp only
  split_ifs
  · exact layout.sameValue_positional d
  · exact Numeral.sameValue_scientific d

theorem toFloat_numeral (layout : Layout) {x : Float} (finite : x.isFinite = true) :
    (layout.numeral x).toDecimal.toFloat = x := by
  have small := significand_ofFloat_lt finite
  have denotes := Decimal.denotes_shortest layout.tie small
  exact Decimal.toFloat_of_denotes finite (denotes.of_sameValue (layout.sameValue_compose _))

/-- Every finite number is read back from its numeral. -/
theorem toFloat?_numeral (layout : Layout) {x : Float} (finite : x.isFinite = true) :
    (layout.numeral x).toFloat? = some x := by
  unfold Numeral.toFloat?
  rw [layout.toFloat_numeral finite]
  exact if_pos finite

end Layout

end CoordinateConformance
