import BoundSql.Proofs.NearestCode
import Mathlib.Data.Nat.Digits.Defs

/-!
# Shortest digits round back

`Binary.rounds_shortest`: the shortest digits of a number of double precision round to it. A hit on
a grid is a point between the halfway points (`rounds_of_fits`), a grid as fine as a quarter of the
mantissa's unit has one (`isSome_onGrid`), and the search reaches such a grid
(`step_le_quarter_last`).
-/

namespace BoundSql.Decimal

/-! ## Powers of ten and of two -/

/-- Powers of ten and of two compare as their exponents do, if a power `10 ^ a` and a power `2 ^ b`
compare as needed. -/
theorem ten_zpow_le {a b : ℕ} {k z : ℤ} (positive : a ≠ 0)
    (base : ((10 : ℚ) ^ a) ^ k ≤ ((2 : ℚ) ^ b) ^ k) (exponents : b * k ≤ a * z) :
    (10 : ℚ) ^ k ≤ 2 ^ z := by
  refine le_of_pow_le_pow_left₀ positive (by positivity) ?_
  calc ((10 : ℚ) ^ k) ^ a = ((10 : ℚ) ^ a) ^ k := by
        rw [← zpow_natCast, ← zpow_natCast, zpow_comm]
    _ ≤ ((2 : ℚ) ^ b) ^ k := base
    _ = 2 ^ (b * k) := by rw [← zpow_natCast, ← zpow_mul]
    _ ≤ 2 ^ (a * z) := zpow_le_zpow_right₀ (by norm_num) exponents
    _ = (2 ^ z) ^ a := by rw [← zpow_natCast, ← zpow_mul, mul_comm]

theorem ten_zpow_le_quarter {e k : ℤ} (least : -1074 ≤ e) (greatest : e ≤ 971)
    (last : 100000 * (k + 5) ≤ 30103 * e) : (10 : ℚ) ^ k ≤ 2 ^ (e - 2) := by
  -- upwards `10 ^ 3` is under `2 ^ 10`, downwards `10 ^ 28` is over `2 ^ 93`
  rcases le_total 0 k with up | down
  · exact ten_zpow_le (a := 3) (b := 10) (by norm_num)
      (zpow_le_zpow_left₀ up (by norm_num) (by norm_num)) (by omega)
  · refine ten_zpow_le (a := 28) (b := 93) (by norm_num) ?_ (by omega)
    obtain ⟨j, rfl⟩ : ∃ j : ℕ, k = -j := ⟨k.natAbs, by omega⟩
    rw [zpow_neg, zpow_neg, zpow_natCast, zpow_natCast]
    gcongr
    norm_num

/-! ## Grids -/

/-- The number that digits stand for. -/
def Digits.value (d : Digits) : ℚ := d.coefficient * 10 ^ d.exponent

namespace Binary

variable {n : Binary} {tie : Tie} {k : ℤ} {c : ℕ}

theorem quarter_pos (n : Binary) (k : ℤ) : 0 < n.quarter k :=
  Nat.mul_pos (Nat.pow_pos (by decide)) (Nat.pow_pos (by decide))

theorem step_pos (n : Binary) (k : ℤ) : 0 < n.step k :=
  Nat.mul_pos (Nat.pow_pos (by decide)) (Nat.pow_pos (by decide))

/-- What one part is, of which a quarter of a unit and a step of the grid are so many. -/
def part (n : Binary) (k : ℤ) : ℚ := 10 ^ k / n.step k

theorem part_pos (n : Binary) (k : ℤ) : 0 < n.part k :=
  div_pos (by positivity) (Nat.cast_pos.mpr (n.step_pos k))

theorem step_mul_part (n : Binary) (k : ℤ) : n.step k * n.part k = 10 ^ k :=
  mul_div_cancel₀ _ (Nat.cast_ne_zero.mpr (n.step_pos k).ne')

theorem quarter_mul_part (n : Binary) (k : ℤ) :
    n.quarter k * n.part k = 2 ^ (n.exponent - 2) := by
  have twos := pow_toNat_div (two_ne_zero (α := ℚ)) (n.exponent - 2)
  have tens := pow_toNat_div (by norm_num : (10 : ℚ) ≠ 0) k
  rw [neg_sub] at twos
  rw [part, ← twos, ← tens, step, quarter]
  simp only [Nat.pow_eq, Nat.cast_mul, Nat.cast_pow, Nat.cast_ofNat]
  field_simp

theorem rounds_of_fits (fits : n.fits k c = true) : 0 < c ∧ n.Rounds (c * 10 ^ k) := by
  have positive := n.part_pos k
  have ends (b : ℕ) : (b : ℚ) * 2 ^ (n.exponent - 2) = (b * n.quarter k : ℕ) * n.part k := by
    rw [← n.quarter_mul_part k, Nat.cast_mul, mul_assoc]
  have place : (c : ℚ) * 10 ^ k = (c * n.step k : ℕ) * n.part k := by
    rw [← n.step_mul_part k, Nat.cast_mul, mul_assoc]
  simp only [Binary.fits, Bool.and_eq_true, Bool.or_eq_true, decide_eq_true_eq, beq_iff_eq] at fits
  obtain ⟨present, inside⟩ := fits
  have order : n.low * n.quarter k < n.high * n.quarter k :=
    Nat.mul_lt_mul_of_pos_right (by rw [low, high]; omega) (n.quarter_pos k)
  rw [place]
  refine ⟨present, ?_, ?_, fun odd => ?_⟩
  · have least : n.low * n.quarter k ≤ c * n.step k := by omega
    rw [ends]
    exact mul_le_mul_of_nonneg_right (Nat.cast_le.mpr least) positive.le
  · have greatest : c * n.step k ≤ n.high * n.quarter k := by omega
    rw [ends]
    exact mul_le_mul_of_nonneg_right (Nat.cast_le.mpr greatest) positive.le
  · obtain ⟨above, below⟩ := inside.resolve_right (by omega)
    rw [ends, ends]
    exact ⟨mul_lt_mul_of_pos_right (Nat.cast_lt.mpr above) positive,
      mul_lt_mul_of_pos_right (Nat.cast_lt.mpr below) positive⟩

theorem fits_of_onGrid (hit : n.onGrid tie k = some c) : n.fits k c = true := by
  simp only [onGrid] at hit
  split at hit
  · next below above =>
    obtain rfl := Option.some.inj hit
    generalize 4 * n.mantissa * n.quarter k - _ = down
    generalize _ - 4 * n.mantissa * n.quarter k = up
    unfold Tie.nearer
    cases tie <;> split_ifs <;> assumption
  · next below _ => exact Option.some.inj hit ▸ below
  · next above => exact Option.some.inj hit ▸ above
  · cases hit

/-- A grid as fine as a quarter of a unit has a point close below the number. -/
theorem isSome_onGrid (tie : Tie) (pos : 0 < n.mantissa) (fine : n.step k ≤ n.quarter k) :
    (n.onGrid tie k).isSome = true := by
  have whole := Nat.div_add_mod' (4 * n.mantissa * n.quarter k) (n.step k)
  have rest := Nat.mod_lt (4 * n.mantissa * n.quarter k) (n.step_pos k)
  have quarter := n.quarter_pos k
  have below : n.fits k (4 * n.mantissa * n.quarter k / n.step k) = true := by
    have present : 0 < 4 * n.mantissa * n.quarter k / n.step k := by
      refine Nat.div_pos (fine.trans ?_) (n.step_pos k)
      exact Nat.le_mul_of_pos_left _ (by omega)
    have low : n.low * n.quarter k + n.quarter k ≤ 4 * n.mantissa * n.quarter k := by
      rw [← Nat.succ_mul]
      refine Nat.mul_le_mul_right _ ?_
      rw [Binary.low]
      split <;> omega
    have high : 4 * n.mantissa * n.quarter k < n.high * n.quarter k :=
      Nat.mul_lt_mul_of_pos_right (by rw [Binary.high]; omega) quarter
    simp only [fits, Bool.and_eq_true, Bool.or_eq_true, decide_eq_true_eq]
    exact ⟨present, .inl ⟨by omega, by omega⟩⟩
  simp only [onGrid, below]
  cases n.fits k (4 * n.mantissa * n.quarter k / n.step k + 1) <;> rfl

/-! ## Search -/

theorem exists_search (fuel : ℕ) {start : ℤ} (hit : ∃ i < fuel, (n.onGrid tie (start - i)).isSome) :
    ∃ k c, n.onGrid tie k = some c ∧ n.search tie fuel start = ⟨c, k⟩ := by
  induction fuel generalizing start with
  | zero =>
    obtain ⟨i, less, -⟩ := hit
    exact absurd less (Nat.not_lt_zero i)
  | succ fuel ih =>
    rw [search]
    rcases found : n.onGrid tie start with _ | c
    · obtain ⟨i, less, later⟩ := hit
      cases i with
      | zero => simp [found] at later
      | succ i =>
        refine ih ⟨i, by omega, ?_⟩
        rwa [show start - 1 - (i : ℤ) = start - (i + 1 : ℕ) by omega]
    · exact ⟨start, c, found, rfl⟩

theorem step_le_quarter (fine : (10 : ℚ) ^ k ≤ 2 ^ (n.exponent - 2)) : n.step k ≤ n.quarter k := by
  rw [← n.step_mul_part k, ← n.quarter_mul_part k] at fine
  exact Nat.cast_le.mp (le_of_mul_le_mul_right fine (n.part_pos k))

/-- The search goes far enough down. -/
theorem step_le_quarter_last (small : n.mantissa < 2 ^ 53) (least : -1074 ≤ n.exponent)
    (greatest : n.exponent ≤ 971) :
    n.step (n.decimalBound - 23) ≤ n.quarter (n.decimalBound - 23) := by
  have places := Nat.toDigits_length 10 n.mantissa 16 (by decide) (by omega)
  refine step_le_quarter (ten_zpow_le_quarter least greatest ?_)
  rw [decimalBound, Int.fdiv_eq_ediv_of_nonneg _ (by decide)]
  omega

/-- The shortest digits of a number other than zero round to it. -/
theorem rounds_shortest (tie : Tie) (pos : 0 < n.mantissa) (small : n.mantissa < 2 ^ 53)
    (least : -1074 ≤ n.exponent) (greatest : n.exponent ≤ 971) :
    0 < (n.shortest tie).coefficient ∧ n.Rounds (n.shortest tie).value := by
  have last := isSome_onGrid tie pos (step_le_quarter_last small least greatest)
  obtain ⟨k, c, hit, found⟩ := exists_search 24 ⟨23, by decide, last⟩
  rw [shortest, if_neg pos.ne', found]
  exact rounds_of_fits (fits_of_onGrid hit)

end Binary

end BoundSql.Decimal
