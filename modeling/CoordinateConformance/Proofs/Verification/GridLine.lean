import CoordinateConformance.Proofs.Binary64.RealValue
import CoordinateConformance.Verification.TestCase

/-!
Contract: the lines of a grid between two borders.

A line has four roundings: of the product with its index, of the quotient by the number of
steps, of the sum with the least border, and of the two numbers that are converted. All of them
are monotone, so the lines ascend from the least border. The last line need not be the other
border. It is if the neighbours of the width lead to that border as well, or if the product is
exact.

Owns: `ascends_gridLine`, `lastLine_between`, `lastLine_eq_of_exact`.

Does **not** own: the areas of the samples.
-/

namespace CoordinateConformance

open Binary64

/-! ## Lines as rounded reals -/

/-- The value of a line, for the values of the least border and of the width. -/
noncomputable def roundedLine (least width : ℝ) (steps index : ℕ) : ℝ :=
  nearestSigned (least + nearest (nearest (width * nearest index) / nearest steps))

theorem one_le_nearest_natCast {n : ℕ} (positive : 0 < n) : 1 ≤ nearest n := by
  have one : (2 : ℝ) ^ (0 : ℤ) ≤ n := by
    rw [zpow_zero]
    exact_mod_cast positive
  simpa using two_zpow_le_nearest (by norm_num) one

section Line

variable {least width : ℝ} {steps : ℕ}

theorem roundedLine_mono (nonneg : 0 ≤ width) {first second : ℕ} (le : first ≤ second) :
    roundedLine least width steps first ≤ roundedLine least width steps second := by
  have indices : nearest first ≤ nearest second :=
    nearest_mono (Nat.cast_nonneg first) (Nat.cast_le.mpr le)
  have products : nearest (width * nearest first) ≤ nearest (width * nearest second) :=
    nearest_mono (mul_nonneg nonneg (nearest_nonneg _)) (mul_le_mul_of_nonneg_left indices nonneg)
  have quotients := nearest_mono (div_nonneg (nearest_nonneg _) (nearest_nonneg _))
    (div_le_div_of_nonneg_right products (nearest_nonneg steps))
  exact nearestSigned_mono (by linarith)

theorem roundedLine_zero : roundedLine least width steps 0 = nearestSigned least := by
  simp [roundedLine]

end Line

/-! ## Borders -/

theorem hasValue_1024 : HasValue 1024.0 (2 ^ 10) := by
  have read : (1024.0 : Float).toModel.unpack = .finite .positive (2 ^ 52) (-42) (by norm_num) :=
    rfl
  have valueEq : signedReal .positive (2 ^ 52) (-42) = 2 ^ 10 := by
    norm_num [signedReal, scaled, zpow_neg]
  exact valueEq ▸ hasValue_of_read read

theorem hasValue_neg_1024 : HasValue (-1024.0) (-2 ^ 10) := by
  have read : (-1024.0 : Float).toModel.unpack =
      .finite .negative (2 ^ 52) (-42) (by norm_num) := rfl
  have valueEq : signedReal .negative (2 ^ 52) (-42) = -2 ^ 10 := by
    norm_num [signedReal, scaled, zpow_neg]
  exact valueEq ▸ hasValue_of_read read

/-- Borders as they occur in degrees: in ascending order, and far from overflow. -/
structure Borders (least greatest : Float) : Prop where
  lower : -1024.0 ≤ least
  upper : least ≤ 1024.0
  ordered : 0.0 ≤ greatest - least
  narrow : greatest - least ≤ 1024.0

instance (least greatest : Float) : Decidable (Borders least greatest) :=
  decidable_of_iff
    (-1024.0 ≤ least ∧ least ≤ 1024.0 ∧ 0.0 ≤ greatest - least ∧ greatest - least ≤ 1024.0)
    ⟨fun ⟨lower, upper, ordered, narrow⟩ => ⟨lower, upper, ordered, narrow⟩,
      fun borders => ⟨borders.lower, borders.upper, borders.ordered, borders.narrow⟩⟩

section Lines

variable {least greatest : Float}

/-- The values of the least border and of the width. -/
structure BorderValues (least greatest : Float) (l w : ℝ) : Prop where
  least_has : HasValue least l
  width_has : HasValue (greatest - least) w
  lower : -2 ^ 10 ≤ l
  upper : l ≤ 2 ^ 10
  nonneg : 0 ≤ w
  narrow : w ≤ 2 ^ 10

theorem Borders.exists_values (borders : Borders least greatest) :
    ∃ l w, BorderValues least greatest l w := by
  obtain ⟨l, leastHas, lower, upper⟩ := exists_hasValue_of_between hasValue_neg_1024
    hasValue_1024 borders.lower borders.upper
  obtain ⟨w, widthHas, nonneg, narrow⟩ := exists_hasValue_of_between hasValue_zero hasValue_1024
    borders.ordered borders.narrow
  exact ⟨l, w, leastHas, widthHas, lower, upper, nonneg, narrow⟩

variable {l w : ℝ}

/-- Sums with numbers that are not too large do not overflow. -/
theorem BorderValues.hasValue_add (values : BorderValues least greatest l w) {x : Float} {r : ℝ}
    (has : HasValue x r) (nonneg : 0 ≤ r) (bounded : r ≤ 2 ^ 74) :
    HasValue (least + x) (nearestSigned (l + r)) := by
  refine values.least_has.add has (lt_overflowBound (abs_nonneg _) ?_)
  have power : (2 : ℝ) ^ 75 ≤ 2 ^ (1023 : ℤ) := by
    rw [← zpow_natCast]
    exact zpow_le_zpow_right₀ (by norm_num) (by norm_num)
  refine le_trans (abs_le.mpr ⟨?_, ?_⟩) power
  · linarith [values.lower]
  · linarith [values.upper]

theorem BorderValues.hasValue_gridLine (values : BorderValues least greatest l w)
    {steps index : ℕ} (positive : 0 < steps) (stepsInRange : steps < 2 ^ 64)
    (indexInRange : index < 2 ^ 64) :
    HasValue (TestCase.gridLine least (greatest - least) steps index)
      (roundedLine l w steps index) := by
  have bound : (2 : ℝ) ^ (74 : ℤ) ≤ 2 ^ (1023 : ℤ) :=
    zpow_le_zpow_right₀ (by norm_num) (by norm_num)
  have indexHas := hasValue_ofNat indexInRange
  have stepsHas := hasValue_ofNat stepsInRange
  have one_le := one_le_nearest_natCast positive
  have indexLe : nearest index ≤ 2 ^ (64 : ℤ) := by
    refine nearest_le_two_zpow (Nat.cast_nonneg index) (by norm_num) ?_
    exact_mod_cast indexInRange.le
  have productNonneg : 0 ≤ w * nearest index := mul_nonneg values.nonneg (nearest_nonneg _)
  have productLe : w * nearest index ≤ 2 ^ (74 : ℤ) := by
    calc w * nearest index ≤ 2 ^ 10 * 2 ^ (64 : ℤ) :=
          mul_le_mul values.narrow indexLe (nearest_nonneg _) (by positivity)
      _ = 2 ^ (74 : ℤ) := by norm_num
  have productHas := values.width_has.mul indexHas values.nonneg (nearest_nonneg _)
    (lt_overflowBound productNonneg (productLe.trans bound))
  have quotientNonneg : 0 ≤ nearest (w * nearest index) / nearest steps :=
    div_nonneg (nearest_nonneg _) (nearest_nonneg _)
  have quotientLe : nearest (w * nearest index) / nearest steps ≤ 2 ^ (74 : ℤ) :=
    (div_le_self (nearest_nonneg _) one_le).trans
      (nearest_le_two_zpow productNonneg (by norm_num) productLe)
  have quotientHas := productHas.div stepsHas (nearest_nonneg _) (by linarith)
    (lt_overflowBound quotientNonneg (quotientLe.trans bound))
  exact values.hasValue_add quotientHas (nearest_nonneg _)
    (by exact_mod_cast nearest_le_two_zpow quotientNonneg (by norm_num) quotientLe)

/-! ## Ascending lines -/

/-- Lines in ascending order, from the least border. -/
structure Ascends (least : Float) (size : ℕ) (line : ℕ → Float) : Prop where
  first : (line 0 == least) = true
  step : ∀ index, index + 1 < size → line index ≤ line (index + 1)

theorem ascends_gridLine (borders : Borders least greatest) {size : ℕ} (large : 2 ≤ size)
    (inRange : size < 2 ^ 64) :
    Ascends least size (TestCase.gridLine least (greatest - least) (size - 1)) := by
  obtain ⟨l, w, values⟩ := borders.exists_values
  have has : ∀ index < size, HasValue
      (TestCase.gridLine least (greatest - least) (size - 1) index)
      (roundedLine l w (size - 1) index) := fun index less =>
    values.hasValue_gridLine (by omega) (by omega) (by omega)
  constructor
  · refine ((has 0 (by omega)).beq_iff values.least_has).mpr ?_
    rw [roundedLine_zero, values.least_has.nearestSigned_eq]
  · intro index less
    refine ((has index (by omega)).le_iff (has (index + 1) less)).mpr ?_
    exact roundedLine_mono values.nonneg (Nat.le_succ index)

theorem Ascends.isNaN {size : ℕ} {line : ℕ → Float} (ascends : Ascends least size line) {index : ℕ}
    (less : index < size) : (line index).isNaN = false := by
  cases index with
  | zero => exact (Binary64.beq_iff.mp ascends.first).1
  | succ index => exact (Binary64.le_iff.mp (ascends.step index less)).2.1

theorem Ascends.mono {size : ℕ} {line : ℕ → Float} (ascends : Ascends least size line)
    {first second : ℕ} (le : first ≤ second) (less : second < size) :
    line first ≤ line second := by
  induction second, le using Nat.le_induction with
  | base => exact Binary64.le_iff.mpr ⟨ascends.isNaN less, ascends.isNaN less, le_rfl⟩
  | succ second _ inductionHypothesis =>
      exact numbers_le_trans (inductionHypothesis (by omega)) (ascends.step second less)

theorem Ascends.least_le {size : ℕ} {line : ℕ → Float} (ascends : Ascends least size line)
    {index : ℕ} (less : index < size) : least ≤ line index := by
  obtain ⟨_, number, same⟩ := Binary64.beq_iff.mp ascends.first
  obtain ⟨_, numberToo, le⟩ := Binary64.le_iff.mp (ascends.mono (Nat.zero_le index) less)
  exact Binary64.le_iff.mpr ⟨number, numberToo, same ▸ le⟩

/-! ## The last line -/

/-- The number with a significand and an exponent. -/
def ofSignificand (mantissa : ℕ) (exponent : ℤ) : Float :=
  ⟨Float.Model.pack (ofParts .positive mantissa exponent)⟩

theorem hasValue_ofSignificand {mantissa : ℕ} {exponent : ℤ} (leading : 2 ^ 52 ≤ mantissa)
    (small : mantissa < 2 ^ 53) (least : -1074 ≤ exponent) (greatest : exponent ≤ 971) :
    HasValue (ofSignificand mantissa exponent) (mantissa * 2 ^ exponent) := by
  have positive : 0 < mantissa := by omega
  have parts : ofParts .positive mantissa exponent = .finite .positive mantissa exponent positive :=
    dif_pos positive
  have canonical : Canonical (ofParts .positive mantissa exponent) := by
    rw [parts]
    exact ⟨small, least, Or.inl leading⟩
  have read : (ofSignificand mantissa exponent).toModel.unpack =
      .finite .positive mantissa exponent positive := by
    calc (ofSignificand mantissa exponent).toModel.unpack =
        saturate (ofParts .positive mantissa exponent) := unpack_pack canonical
      _ = .finite .positive mantissa exponent positive := by
        rw [parts]
        exact if_neg (not_lt.mpr greatest)
  exact hasValue_of_read read

/-- Where the last line is for any number of steps: the width that is left by a multiplication and
a division is at most one unit in the last place away. -/
def lastLineBounds (least greatest : Float) : Option (Float × Float) :=
  match (greatest - least).toModel.unpack with
  | .finite .positive mantissa exponent _ =>
      if 2 ^ 52 < mantissa ∧ mantissa + 1 < 2 ^ 53 then
        some (least + ofSignificand (mantissa - 1) exponent,
          least + ofSignificand (mantissa + 1) exponent)
      else none
  | _ => none

theorem lastLine_between (borders : Borders least greatest) {lower upper : Float}
    (bounds : lastLineBounds least greatest = some (lower, upper)) {steps : ℕ}
    (positive : 0 < steps) (inRange : steps < 2 ^ 64) :
    lower ≤ TestCase.gridLine least (greatest - least) steps steps ∧
      TestCase.gridLine least (greatest - least) steps steps ≤ upper := by
  obtain ⟨l, w, values⟩ := borders.exists_values
  have lineHas := values.hasValue_gridLine positive inRange inRange
  unfold lastLineBounds at bounds
  split at bounds
  · rename_i mantissa exponent mantissaPositive read
    split_ifs at bounds with inside
    cases bounds
    obtain ⟨above, below⟩ := inside
    obtain ⟨_, leastExponent, _, greatestExponent⟩ := unpack_finite read
    have width : w = mantissa * 2 ^ exponent :=
      values.width_has.unique (hasValue_of_read read)
    have one_le := one_le_nearest_natCast positive
    have narrow : ((mantissa + 1 : ℕ) : ℝ) * 2 ^ exponent ≤ 2 ^ 74 := by
      have twice : ((mantissa + 1 : ℕ) : ℝ) ≤ 2 * mantissa := by
        exact_mod_cast (by omega : mantissa + 1 ≤ 2 * mantissa)
      calc ((mantissa + 1 : ℕ) : ℝ) * 2 ^ exponent ≤ 2 * mantissa * 2 ^ exponent := by gcongr
        _ = 2 * w := by rw [width]; ring
        _ ≤ 2 ^ 74 := by linarith [values.narrow]
    have lowerHas := hasValue_ofSignificand (by omega : 2 ^ 52 ≤ mantissa - 1) (by omega)
      leastExponent greatestExponent
    have upperHas := hasValue_ofSignificand (by omega : 2 ^ 52 ≤ mantissa + 1) below
      leastExponent greatestExponent
    have order : ((mantissa - 1 : ℕ) : ℝ) * 2 ^ exponent ≤ (mantissa + 1 : ℕ) * 2 ^ exponent := by
      gcongr
      omega
    have quotientGe := le_nearest_quotient above.le (by omega) leastExponent one_le
    have quotientLe := nearest_quotient_le above.le below leastExponent one_le
    rw [← width] at quotientGe quotientLe
    constructor
    · refine ((values.hasValue_add lowerHas (by positivity) (order.trans narrow)).le_iff
        lineHas).mpr ?_
      exact nearestSigned_mono (by linarith)
    · refine (lineHas.le_iff (values.hasValue_add upperHas (by positivity) narrow)).mpr ?_
      exact nearestSigned_mono (by linarith)
  · cases bounds

/-- An exact product gives back the width, so that the last line is the border if the width leads
there. -/
theorem lastLine_eq_of_exact (borders : Borders least greatest) {natural : ℕ}
    (whole : (greatest - least == Float.ofNat natural) = true)
    (reaches : (least + (greatest - least) == greatest) = true) {steps : ℕ}
    (positive : 0 < steps) (natural_pos : 0 < natural) (small : natural * steps < 2 ^ 53) :
    (TestCase.gridLine least (greatest - least) steps steps == greatest) = true := by
  obtain ⟨l, w, values⟩ := borders.exists_values
  have naturalSmall : natural < 2 ^ 53 :=
    (Nat.le_mul_of_pos_right natural positive).trans_lt small
  have stepsSmall : steps < 2 ^ 53 :=
    (Nat.le_mul_of_pos_left steps natural_pos).trans_lt small
  have naturalHas : HasValue (Float.ofNat natural) (nearest natural) :=
    hasValue_ofNat (by omega)
  have width : w = natural := by
    rw [(values.width_has.beq_iff naturalHas).mp whole, nearest_natCast naturalSmall]
  have inRange : steps < 2 ^ 64 := by omega
  have lineHas := values.hasValue_gridLine positive inRange inRange
  have sumHas := values.hasValue_add values.width_has values.nonneg
    (by linarith [values.narrow])
  have quotient : nearest (nearest (w * nearest steps) / nearest steps) = w := by
    rw [width, nearest_natCast stepsSmall]
    exact nearest_quotient_exact positive small
  have same := (lineHas.beq_iff sumHas).mpr (by rw [roundedLine, quotient])
  exact numbers_beq_trans same reaches

end Lines

end CoordinateConformance
