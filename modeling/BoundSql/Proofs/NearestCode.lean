import BoundSql.Decimal.Shortest
import Mathlib.Algebra.Order.Field.Power
import Mathlib.Data.Rat.Cast.Order
import Mathlib.Tactic.FieldSimp
import Mathlib.Tactic.Linarith
import Mathlib.Tactic.NormNum
import Mathlib.Tactic.Positivity
import Mathlib.Tactic.Qify
import Mathlib.Tactic.Ring

/-!
# Nearest numbers

A number rounds to a binary number of a format if it is not past halfway to a neighbour
(`Binary.Rounds`), and the code of the number of the format nearest to it is then the code of that
number (`nearest_of_rounds`). A code is known by what it holds (`Format.Codes`): the mantissa fills
the precision, unless the exponent is the least.
-/

namespace BoundSql.Decimal

/-! ## Quotients and powers -/

theorem pow_toNat_div {b : ℚ} (nonzero : b ≠ 0) (z : ℤ) :
    b ^ z.toNat / b ^ (-z).toNat = b ^ z := by
  rw [← zpow_natCast, ← zpow_natCast, ← zpow_sub₀ nonzero]
  congr 1
  omega

theorem scaleBinary_div (num den : ℕ) (power : ℤ) :
    ((scaleBinary num den power).1 : ℚ) / (scaleBinary num den power).2 =
      num / den * 2 ^ power := by
  have powers := pow_toNat_div (two_ne_zero (α := ℚ)) power
  simp only [scaleBinary, Nat.cast_mul, Nat.pow_eq, Nat.cast_pow, Nat.cast_ofNat]
  rw [mul_div_mul_comm, powers]

theorem scaleBinary_pos {den : ℕ} (pos : 0 < den) (num : ℕ) (power : ℤ) :
    0 < (scaleBinary num den power).2 :=
  Nat.mul_pos pos (Nat.pow_pos (by decide))

/-! ## Rounding -/

/-- The natural number is nearest to the quotient, and if another is as near it is the even one. -/
structure RoundsTo (v : ℚ) (r : ℕ) : Prop where
  above : (r : ℚ) - 1 / 2 ≤ v
  below : v ≤ r + 1 / 2
  odd : r % 2 = 1 → (r : ℚ) - 1 / 2 < v ∧ v < r + 1 / 2

theorem roundHalfEven_of_le {a b r : ℕ} (above : 2 * (r * b) ≤ 2 * a + b)
    (below : 2 * a ≤ 2 * (r * b) + b)
    (odd : r % 2 = 1 → 2 * (r * b) < 2 * a + b ∧ 2 * a < 2 * (r * b) + b) (pos : 0 < b) :
    roundHalfEven a b = r := by
  have whole := Nat.div_add_mod' a b
  have rest := Nat.mod_lt a pos
  have least : a / b ≤ r := by
    by_contra less
    have step := Nat.mul_le_mul_right b (Nat.not_le.mp less)
    rw [Nat.succ_mul] at step
    omega
  have most : r ≤ a / b + 1 := by
    by_contra more
    have step := Nat.mul_le_mul_right b (Nat.not_le.mp more)
    rw [Nat.succ_mul, Nat.add_mul] at step
    omega
  obtain rfl | rfl : r = a / b ∨ r = a / b + 1 := by omega
  · simp only [roundHalfEven]
    split
    · rfl
    · split <;> omega
  · rw [Nat.add_mul] at above below odd
    simp only [roundHalfEven]
    split
    · omega
    · split <;> omega

theorem roundHalfEven_eq {a b r : ℕ} (pos : 0 < b) (near : RoundsTo (a / b) r) :
    roundHalfEven a b = r := by
  have divisor : (0 : ℚ) < b := Nat.cast_pos.mpr pos
  obtain ⟨above, below, odd⟩ := near
  rw [le_div_iff₀ divisor] at above
  rw [div_le_iff₀ divisor] at below
  rw [lt_div_iff₀ divisor, div_lt_iff₀ divisor] at odd
  refine roundHalfEven_of_le ?_ ?_ (fun h => ⟨?_, ?_⟩) pos <;> qify
  · linarith
  · linarith
  · linarith [(odd h).1]
  · linarith [(odd h).2]

/-! ## Exponents -/

section Exponent

variable {num den : ℕ}

theorem div_bounds (hn : 0 < num) (hd : 0 < den) :
    (2 : ℚ) ^ ((num.log2 : ℤ) - den.log2 - 1) ≤ num / den ∧
      (num : ℚ) / den < 2 ^ ((num.log2 : ℤ) - den.log2 + 1) := by
  have least : (2 : ℚ) ^ (num.log2 : ℤ) ≤ num := by
    exact_mod_cast Nat.log2_self_le hn.ne'
  have most : (num : ℚ) < 2 ^ ((num.log2 : ℤ) + 1) := by
    exact_mod_cast Nat.lt_log2_self (n := num)
  have least' : (2 : ℚ) ^ (den.log2 : ℤ) ≤ den := by
    exact_mod_cast Nat.log2_self_le hd.ne'
  have most' : (den : ℚ) < 2 ^ ((den.log2 : ℤ) + 1) := by
    exact_mod_cast Nat.lt_log2_self (n := den)
  have pos : (0 : ℚ) < den := Nat.cast_pos.mpr hd
  have two : (2 : ℚ) ≠ 0 := by norm_num
  constructor
  · rw [le_div_iff₀ pos]
    calc (2 : ℚ) ^ ((num.log2 : ℤ) - den.log2 - 1) * den
        ≤ 2 ^ ((num.log2 : ℤ) - den.log2 - 1) * 2 ^ ((den.log2 : ℤ) + 1) := by gcongr
      _ = 2 ^ (num.log2 : ℤ) := by rw [← zpow_add₀ two]; congr 1; ring
      _ ≤ num := least
  · rw [div_lt_iff₀ pos]
    calc (num : ℚ) < 2 ^ ((num.log2 : ℤ) + 1) := most
      _ = 2 ^ ((num.log2 : ℤ) - den.log2 + 1) * 2 ^ (den.log2 : ℤ) := by
        rw [← zpow_add₀ two]; congr 1; ring
      _ ≤ 2 ^ ((num.log2 : ℤ) - den.log2 + 1) * den := by gcongr

theorem scaled_lt_iff (hd : 0 < den) (g : ℤ) (p : ℕ) :
    (scaleBinary num den (-g)).1 < (scaleBinary num den (-g)).2 * Nat.pow 2 p ↔
      (num : ℚ) / den < 2 ^ (g + p) := by
  have pos : (0 : ℚ) < (scaleBinary num den (-g)).2 := Nat.cast_pos.mpr (scaleBinary_pos hd num _)
  have scaled := scaleBinary_div num den (-g)
  have power : (0 : ℚ) < 2 ^ (-g) := by positivity
  rw [← Nat.cast_lt (α := ℚ), Nat.cast_mul, Nat.pow_eq, Nat.cast_pow, Nat.cast_ofNat, mul_comm,
    ← div_lt_iff₀ pos, scaled, ← zpow_natCast, ← lt_div_iff₀ power, ← zpow_sub₀ two_ne_zero,
    sub_neg_eq_add, add_comm]

theorem exponentOf_eq {f : Format} (hn : 0 < num) (hd : 0 < den) {e : ℤ}
    (least : f.leastExponent ≤ e) (below : (num : ℚ) / den < 2 ^ (e + f.precision))
    (above : e = f.leastExponent ∨ (2 : ℚ) ^ (e + f.precision - 1) ≤ num / den) :
    f.exponentOf num den = e := by
  obtain ⟨low, high⟩ := div_bounds hn hd
  -- the exponent that puts the highest bit of the mantissa in its place
  obtain ⟨g, guess, under, upper⟩ : ∃ g : ℤ, f.exponentOf num den = max f.leastExponent g ∧
      (2 : ℚ) ^ (g + f.precision - 1) ≤ num / den ∧ (num : ℚ) / den < 2 ^ (g + f.precision) := by
    unfold Format.exponentOf
    simp only [scaled_lt_iff hd]
    split
    · next lt => exact ⟨_, rfl, by rwa [sub_add_cancel], lt⟩
    · next le =>
      have place : (num.log2 : ℤ) - den.log2 - f.precision + 1 + f.precision =
          num.log2 - den.log2 + 1 := by
        ring
      rw [sub_add_cancel, not_lt] at le
      refine ⟨_, rfl, ?_, ?_⟩
      · rwa [place, add_sub_cancel_right]
      · rwa [place]
  have one : (1 : ℚ) < 2 := by norm_num
  rw [guess]
  have le := (zpow_lt_zpow_iff_right₀ one).mp (under.trans_lt below)
  rcases above with rfl | above
  · omega
  · have ge := (zpow_lt_zpow_iff_right₀ one).mp (above.trans_lt upper)
    omega

end Exponent

theorem nearest_eq {f : Format} {num den r : ℕ} {e : ℤ} (hn : 0 < num) (hd : 0 < den)
    (exponent : f.exponentOf num den = e) (near : RoundsTo (num / den * 2 ^ (-e)) r) :
    f.nearest num den =
      min f.infinity ((e - f.leastExponent).toNat * Nat.pow 2 (f.precision - 1) + r) := by
  have rounded := roundHalfEven_eq (scaleBinary_pos hd num (-e)) (by rwa [scaleBinary_div])
  have present : ¬ (num = 0 ∨ den = 0) := by omega
  rw [Format.nearest, if_neg present, exponent]
  exact congrArg (fun r => min f.infinity (_ + r)) rounded

/-! ## Codes -/

/-- What the code of a finite number holds. -/
structure Format.Codes (f : Format) (code : ℕ) (n : Binary) : Prop where
  code_eq : code =
    (n.exponent - f.leastExponent).toNat * Nat.pow 2 (f.precision - 1) + n.mantissa
  mantissa_lt : n.mantissa < Nat.pow 2 f.precision
  least_le : f.leastExponent ≤ n.exponent
  full : n.exponent = f.leastExponent ∨ Nat.pow 2 (f.precision - 1) ≤ n.mantissa
  tight_iff : n.tight = true ↔
    n.mantissa = Nat.pow 2 (f.precision - 1) ∧ f.leastExponent < n.exponent

theorem Format.codes_of_parts {f : Format} {code : ℕ} {n : Binary} (precise : 0 < f.precision)
    (parts : f.parts code = .finite n) : f.Codes code n := by
  have units : Nat.pow 2 f.precision = 2 * Nat.pow 2 (f.precision - 1) := by
    rw [Nat.pow_eq, Nat.pow_eq, ← pow_succ', Nat.sub_add_cancel precise]
  have unit : 0 < Nat.pow 2 (f.precision - 1) := Nat.pow_pos (by decide)
  have whole := Nat.div_add_mod' code (Nat.pow 2 (f.precision - 1))
  have rest := Nat.mod_lt code unit
  simp only [Format.parts] at parts
  split at parts
  · cases parts
  · split at parts
    · cases parts
    · split at parts
      · next subnormal =>
        cases parts
        rw [subnormal, Nat.zero_mul, Nat.zero_add] at whole
        refine ⟨?_, ?_, le_refl _, .inl rfl, ?_⟩
        · simpa using whole.symm
        · simp only
          omega
        · simp
      · next biased =>
        cases parts
        obtain ⟨b, shift⟩ := Nat.exists_eq_succ_of_ne_zero biased
        rw [shift] at whole ⊢
        refine ⟨?_, ?_, ?_, .inr (Nat.le_add_right _ _), ?_⟩
        · have exponent : (f.leastExponent + (b.succ : ℕ) - 1 - f.leastExponent).toNat = b := by
            omega
          simp only [exponent]
          rw [Nat.succ_mul] at whole
          omega
        · simp only
          omega
        · simp only
          omega
        · simp
          omega

/-! ## Halfway points -/

/-- The number rounds to the binary number: it is not past halfway to a neighbour, and not halfway
if the mantissa is odd. -/
structure Binary.Rounds (n : Binary) (v : ℚ) : Prop where
  low_le : n.low * 2 ^ (n.exponent - 2) ≤ v
  le_high : v ≤ n.high * 2 ^ (n.exponent - 2)
  odd : n.mantissa % 2 = 1 →
    n.low * 2 ^ (n.exponent - 2) < v ∧ v < n.high * 2 ^ (n.exponent - 2)

theorem roundsTo_scaled {v : ℚ} {e : ℤ} {r : ℕ} (above : (r - 1 / 2) * 2 ^ e ≤ v)
    (below : v ≤ (r + 1 / 2) * 2 ^ e)
    (odd : r % 2 = 1 → (r - 1 / 2) * 2 ^ e < v ∧ v < (r + 1 / 2) * 2 ^ e) :
    RoundsTo (v * 2 ^ (-e)) r := by
  have power : (0 : ℚ) < 2 ^ e := by positivity
  rw [zpow_neg, ← div_eq_mul_inv]
  refine ⟨?_, ?_, fun h => ?_⟩
  · rwa [le_div_iff₀ power]
  · rwa [div_le_iff₀ power]
  · rw [lt_div_iff₀ power, div_lt_iff₀ power]
    exact odd h

theorem Binary.quarter_unit (n : Binary) : (2 : ℚ) ^ n.exponent = 4 * 2 ^ (n.exponent - 2) := by
  rw [zpow_sub₀ two_ne_zero]
  norm_num
  ring

theorem Binary.high_mul (n : Binary) :
    (n.high : ℚ) * 2 ^ (n.exponent - 2) = (n.mantissa + 1 / 2) * 2 ^ n.exponent := by
  rw [n.quarter_unit, Binary.high]
  push_cast
  ring

theorem Binary.le_low_mul (n : Binary) :
    (n.mantissa - 1 / 2) * 2 ^ n.exponent ≤ (n.low : ℚ) * 2 ^ (n.exponent - 2) := by
  have gap : 4 * n.mantissa ≤ n.low + 2 := by
    rw [Binary.low]
    split <;> omega
  have gap : (4 : ℚ) * n.mantissa ≤ n.low + 2 := by exact_mod_cast gap
  have unit : (0 : ℚ) < 2 ^ (n.exponent - 2) := by positivity
  rw [n.quarter_unit]
  nlinarith

theorem Binary.low_mul_of_tight {n : Binary} (tight : n.tight = true) (pos : 0 < n.mantissa) :
    (n.low : ℚ) * 2 ^ (n.exponent - 2) = (2 * n.mantissa - 1 / 2) * 2 ^ (n.exponent - 1) := by
  have gap : n.low + 1 = 4 * n.mantissa := by
    rw [Binary.low, tight, if_pos rfl]
    omega
  have gap : (n.low : ℚ) = 4 * n.mantissa - 1 := by
    rw [eq_sub_iff_add_eq]
    exact_mod_cast gap
  have half : (2 : ℚ) ^ (n.exponent - 1) = 2 * 2 ^ (n.exponent - 2) := by
    rw [zpow_sub₀ two_ne_zero, zpow_sub₀ two_ne_zero]
    norm_num
    ring
  rw [gap, half]
  ring

theorem zpow_precision {f : Format} (precise : 0 < f.precision) (e : ℤ) :
    (2 : ℚ) ^ (e + f.precision - 1) = (Nat.pow 2 (f.precision - 1) : ℕ) * 2 ^ e := by
  have exponent : e + f.precision - 1 = (f.precision - 1 : ℕ) + e := by omega
  rw [Nat.pow_eq, exponent, zpow_add₀ two_ne_zero, zpow_natCast]
  norm_num

section Nearest

variable {f : Format} {code num den : ℕ} {n : Binary} (precise : 0 < f.precision)
  (codes : f.Codes code n) (finite : code ≤ f.infinity) (hn : 0 < num) (hd : 0 < den)
  (rounds : n.Rounds (num / den))

include codes finite hn hd rounds

theorem nearest_of_full (full : n.exponent = f.leastExponent ∨
    (2 : ℚ) ^ (n.exponent + f.precision - 1) ≤ num / den) : f.nearest num den = code := by
  obtain ⟨above, below, odd⟩ := rounds
  have places : (n.mantissa : ℚ) + 1 ≤ 2 ^ (f.precision : ℤ) := by
    exact_mod_cast codes.mantissa_lt
  have unit : (0 : ℚ) < 2 ^ n.exponent := by positivity
  rw [n.high_mul] at below odd
  have under : (num : ℚ) / den < 2 ^ (n.exponent + f.precision) := by
    rw [zpow_add₀ two_ne_zero]
    nlinarith
  have near : RoundsTo (num / den * 2 ^ (-n.exponent)) n.mantissa :=
    roundsTo_scaled (n.le_low_mul.trans above) below fun h =>
      ⟨n.le_low_mul.trans_lt (odd h).1, (odd h).2⟩
  rw [nearest_eq hn hd (exponentOf_eq hn hd codes.least_le under full) near, ← codes.code_eq]
  exact min_eq_right finite

include precise

omit finite hn hd in
/-- Only the least full mantissa has numbers that round up to it from below the power of two. -/
theorem mantissa_of_under_power (larger : n.exponent ≠ f.leastExponent)
    (under : (num : ℚ) / den < 2 ^ (n.exponent + f.precision - 1)) :
    n.mantissa = Nat.pow 2 (f.precision - 1) := by
  have full := codes.full.resolve_left larger
  have unit : (0 : ℚ) < 2 ^ n.exponent := by positivity
  have less := (n.le_low_mul.trans rounds.low_le).trans_lt under
  rw [zpow_precision precise] at less
  have less : (n.mantissa : ℚ) < (Nat.pow 2 (f.precision - 1) : ℕ) + 1 := by nlinarith
  have less : n.mantissa < Nat.pow 2 (f.precision - 1) + 1 := by exact_mod_cast less
  omega

/-- Just below a power of two the numbers lie twice as close, and what rounds up to the power has
the exponent below it. -/
theorem nearest_of_under_power (larger : n.exponent ≠ f.leastExponent)
    (under : (num : ℚ) / den < 2 ^ (n.exponent + f.precision - 1)) : f.nearest num den = code := by
  have mantissa := mantissa_of_under_power precise codes rounds larger under
  have least := codes.least_le
  have tight := codes.tight_iff.mpr ⟨mantissa, by omega⟩
  have code_eq := codes.code_eq
  have scale := zpow_precision precise n.exponent
  have unit : 0 < Nat.pow 2 (f.precision - 1) := Nat.pow_pos (by decide)
  have above := rounds.low_le
  rw [Binary.low_mul_of_tight tight (mantissa ▸ unit)] at above
  generalize power : Nat.pow 2 (f.precision - 1) = u at mantissa code_eq scale unit
  rw [mantissa] at above code_eq
  have half : (2 : ℚ) ^ n.exponent = 2 * 2 ^ (n.exponent - 1) := by
    rw [zpow_sub_one₀ two_ne_zero]
    ring
  have positive : (0 : ℚ) < 2 ^ (n.exponent - 1) := by positivity
  have one : (1 : ℚ) ≤ u := by exact_mod_cast unit
  have near : RoundsTo (num / den * 2 ^ (-(n.exponent - 1))) (2 * u) := by
    refine roundsTo_scaled ?_ ?_ (fun h => by omega)
    · rwa [Nat.cast_mul]
    · rw [scale, half] at under
      push_cast
      nlinarith
  have lower : (2 : ℚ) ^ (n.exponent - 1 + f.precision - 1) ≤ num / den := by
    have exponent : n.exponent - 1 + f.precision - 1 = n.exponent + f.precision - 1 - 1 := by ring
    rw [exponent, zpow_sub_one₀ two_ne_zero, scale, half]
    nlinarith
  have upper : (num : ℚ) / den < 2 ^ (n.exponent - 1 + f.precision) := by
    rwa [show n.exponent - 1 + f.precision = n.exponent + f.precision - 1 by ring]
  have shift : (n.exponent - f.leastExponent).toNat =
      (n.exponent - 1 - f.leastExponent).toNat + 1 := by
    omega
  rw [nearest_eq hn hd (exponentOf_eq hn hd (by omega) upper (.inr lower)) near, power]
  rw [shift, Nat.succ_mul] at code_eq
  omega

/-- What rounds to the number of a code is nearest to it. -/
theorem nearest_of_rounds : f.nearest num den = code := by
  by_cases full : n.exponent = f.leastExponent ∨
      (2 : ℚ) ^ (n.exponent + f.precision - 1) ≤ num / den
  · exact nearest_of_full codes finite hn hd rounds full
  · obtain ⟨larger, under⟩ := not_or.mp full
    exact nearest_of_under_power precise codes finite hn hd rounds larger (not_le.mp under)

end Nearest

end BoundSql.Decimal
