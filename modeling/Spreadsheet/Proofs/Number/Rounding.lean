import Mathlib.Tactic
import Spreadsheet.Number.Binary64

/-! What numbers are rounded to. Quotients are looked at as rational numbers here, and powers of
two with exponents of either sign as well.
-/

namespace Spreadsheet.Number

-----------------------------------------------------------------------------------------
-- Powers
-----------------------------------------------------------------------------------------

/-- A power with an exponent of either sign is a quotient of natural powers. -/
theorem zpow_eq_div {b : ℚ} (nonzero : b ≠ 0) (e : ℤ)
    : b ^ e = b ^ e.toNat / b ^ (-e).toNat := by
  rw [div_eq_mul_inv, ← zpow_natCast, ← zpow_natCast, ← zpow_neg, ← zpow_add₀ nonzero]
  congr 1
  omega

-----------------------------------------------------------------------------------------
-- Quotients
-----------------------------------------------------------------------------------------

/-- A quotient is rounded to a number within half a unit of it, and to an odd one only if it is
nearer than that.
-/
theorem roundHalfEven_eq {n d q : ℕ} (positive : 0 < d) (low : 2 * q * d ≤ 2 * n + d)
    (high : 2 * n ≤ 2 * q * d + d)
    (odd : q % 2 = 1 → 2 * q * d < 2 * n + d ∧ 2 * n < 2 * q * d + d)
    : roundHalfEven n d = q := by
  have whole := Nat.div_add_mod n d
  have rest := Nat.mod_lt n positive
  rw [roundHalfEven]
  generalize n / d = a at whole
  generalize n % d = r at whole rest
  have notAbove : a ≤ q := by
    by_contra above
    have : d * (q + 1) ≤ d * a := Nat.mul_le_mul_left d (by omega)
    nlinarith
  have notBelow : q ≤ a + 1 := by
    by_contra below
    have : d * (a + 2) ≤ d * q := Nat.mul_le_mul_left d (by omega)
    nlinarith
  have cases : a = q ∨ a + 1 = q := by omega
  rcases cases with rfl | rfl
  · have product : 2 * a * d = 2 * (d * a) := by ring
    rw [product] at low high odd
    split
    · rfl
    · split <;> omega
  · have product : 2 * (a + 1) * d = 2 * (d * a) + 2 * d := by ring
    rw [product] at low high odd
    split
    · omega
    · split <;> omega

/-- What a quotient is rounded to is within half a unit of it, and nearer than that if it is odd. -/
theorem roundHalfEven_bounds {n d : ℕ} (positive : 0 < d)
    : 2 * roundHalfEven n d * d ≤ 2 * n + d ∧ 2 * n ≤ 2 * roundHalfEven n d * d + d
      ∧ (roundHalfEven n d % 2 = 1
        → 2 * roundHalfEven n d * d < 2 * n + d ∧ 2 * n < 2 * roundHalfEven n d * d + d) := by
  have whole := Nat.div_add_mod n d
  have rest := Nat.mod_lt n positive
  have down : 2 * (n / d) * d = 2 * (d * (n / d)) := by ring
  have up : 2 * (n / d + 1) * d = 2 * (d * (n / d)) + 2 * d := by ring
  rw [roundHalfEven]
  split
  · rw [down]
    omega
  · split
    · rw [up]
      omega
    · rcases Nat.mod_two_eq_zero_or_one (n / d) with even | odd
      · rw [even, Nat.add_zero, down]
        omega
      · rw [odd, up]
        omega

/-- Equal quotients are rounded alike. -/
theorem roundHalfEven_congr {n d n' d' : ℕ} (positive : 0 < d) (positive' : 0 < d')
    (same : n * d' = n' * d)
    : roundHalfEven n d = roundHalfEven n' d' := by
  obtain ⟨low, high, odd⟩ := roundHalfEven_bounds (n := n') positive'
  generalize roundHalfEven n' d' = q at low high odd
  refine roundHalfEven_eq positive ?_ ?_ fun isOdd => ⟨?_, ?_⟩
  · refine Nat.le_of_mul_le_mul_right ?_ positive'
    nlinarith
  · refine Nat.le_of_mul_le_mul_right ?_ positive'
    nlinarith
  · have low := (odd isOdd).1
    refine Nat.lt_of_mul_lt_mul_right (a := d') ?_
    nlinarith
  · have high := (odd isOdd).2
    refine Nat.lt_of_mul_lt_mul_right (a := d') ?_
    nlinarith

/-- The powers of two around a positive number. -/
theorem pow_log2_bounds {n : ℕ} (positive : 0 < n)
    : (2 : ℚ) ^ (n.log2 : ℤ) ≤ n ∧ (n : ℚ) < 2 ^ ((n.log2 : ℤ) + 1) := by
  have low := Nat.log2_self_le positive.ne'
  have high := Nat.lt_log2_self (n := n)
  constructor
  · rw [zpow_natCast]
    exact_mod_cast low
  · rw [← Nat.cast_succ, zpow_natCast]
    exact_mod_cast high

/-- A quotient is compared with a power of two by products of natural numbers. -/
theorem div_lt_zpow_iff {n d : ℕ} (hd : 0 < d) (k : ℤ)
    : (n / d : ℚ) < 2 ^ k ↔ n * Nat.pow 2 (-k).toNat < d * Nat.pow 2 k.toNat := by
  have hd : (0 : ℚ) < d := Nat.cast_pos.mpr hd
  rw [zpow_eq_div two_ne_zero, div_lt_div_iff₀ hd (by positivity), ← Nat.cast_lt (α := ℚ)]
  push_cast [Nat.pow_eq]
  rw [mul_comm (d : ℚ)]

namespace Binary64

/-- The logarithm of a quotient gives the powers of two around it. -/
theorem quotientLog2_bounds {n d : ℕ} (hn : 0 < n) (hd : 0 < d)
    : (2 : ℚ) ^ quotientLog2 n d ≤ n / d ∧ (n / d : ℚ) < 2 ^ (quotientLog2 n d + 1) := by
  have positive : (0 : ℚ) < d := Nat.cast_pos.mpr hd
  obtain ⟨lowN, highN⟩ := pow_log2_bounds hn
  obtain ⟨lowD, highD⟩ := pow_log2_bounds hd
  have atLeast : (2 : ℚ) ^ ((n.log2 : ℤ) - d.log2 - 1) ≤ n / d := by
    rw [le_div_iff₀ positive]
    calc (2 : ℚ) ^ ((n.log2 : ℤ) - d.log2 - 1) * d
        ≤ 2 ^ ((n.log2 : ℤ) - d.log2 - 1) * 2 ^ ((d.log2 : ℤ) + 1) := by gcongr
      _ = 2 ^ (n.log2 : ℤ) := by rw [← zpow_add₀ two_ne_zero]; congr 1; ring
      _ ≤ n := lowN
  have below : (n / d : ℚ) < 2 ^ ((n.log2 : ℤ) - d.log2 + 1) := by
    rw [div_lt_iff₀ positive]
    calc (n : ℚ) < 2 ^ ((n.log2 : ℤ) + 1) := highN
      _ = 2 ^ ((n.log2 : ℤ) - d.log2 + 1) * 2 ^ (d.log2 : ℤ) := by
          rw [← zpow_add₀ two_ne_zero]; congr 1; ring
      _ ≤ 2 ^ ((n.log2 : ℤ) - d.log2 + 1) * d := by gcongr
  rw [quotientLog2]
  split
  · next under =>
      have under := (div_lt_zpow_iff hd _).mpr under
      exact ⟨atLeast, by rwa [sub_add_cancel]⟩
  · next reached =>
      have reached := not_lt.mp ((div_lt_zpow_iff hd _).not.mpr reached)
      exact ⟨reached, below⟩

theorem quotientLog2_lt_iff {n d : ℕ} (hn : 0 < n) (hd : 0 < d) {k : ℤ}
    : quotientLog2 n d < k ↔ (n / d : ℚ) < 2 ^ k := by
  obtain ⟨low, high⟩ := quotientLog2_bounds hn hd
  constructor
  · intro less
    exact high.trans_le (zpow_le_zpow_right₀ one_le_two less)
  · intro less
    exact (zpow_lt_zpow_iff_right₀ one_lt_two).mp (low.trans_lt less)

/-- A positive quotient is rounded in units of the exponent that leaves 53 bits. -/
theorem roundMagnitude_eq {n d q : ℕ} {e : ℤ} (hn : 0 < n) (hd : 0 < d)
    (exponent : max (quotientLog2 n d - 52) (-1074) = e)
    (low : (2 * q - 1) * (2 : ℚ) ^ e ≤ 2 * (n / d)) (high : 2 * (n / d : ℚ) ≤ (2 * q + 1) * 2 ^ e)
    (odd : q % 2 = 1 → (2 * q - 1) * (2 : ℚ) ^ e < 2 * (n / d)
      ∧ 2 * (n / d : ℚ) < (2 * q + 1) * 2 ^ e)
    : roundMagnitude n d = q + (e + 1074).toNat * Nat.pow 2 52 := by
  have positive : 0 < d * 2 ^ e.toNat := by positivity
  -- In products of natural numbers both sides are larger by the same factor.
  have factor : (0 : ℚ) < d * 2 ^ (-e).toNat := by positivity
  have scaled : ∀ a : ℚ, a * 2 ^ e * (d * 2 ^ (-e).toNat) = a * (d * 2 ^ e.toNat) := by
    intro a
    rw [zpow_eq_div two_ne_zero]
    field_simp
  have counted : 2 * (n / d : ℚ) * (d * 2 ^ (-e).toNat) = 2 * (n * 2 ^ (-e).toNat) := by
    field_simp
  have low' := mul_le_mul_of_nonneg_right low factor.le
  have high' := mul_le_mul_of_nonneg_right high factor.le
  rw [scaled, counted] at low' high'
  simp only [roundMagnitude, hn.ne', if_false, exponent, Nat.pow_eq]
  congr 1
  refine roundHalfEven_eq positive ?_ ?_ fun isOdd => ?_
  · have : (2 * q * (d * 2 ^ e.toNat) : ℚ) ≤ 2 * (n * 2 ^ (-e).toNat) + d * 2 ^ e.toNat := by
      linarith
    exact_mod_cast this
  · have : (2 * (n * 2 ^ (-e).toNat) : ℚ) ≤ 2 * q * (d * 2 ^ e.toNat) + d * 2 ^ e.toNat := by
      linarith
    exact_mod_cast this
  · obtain ⟨low, high⟩ := odd isOdd
    have low' := mul_lt_mul_of_pos_right low factor
    have high' := mul_lt_mul_of_pos_right high factor
    rw [scaled, counted] at low' high'
    constructor
    · have : (2 * q * (d * 2 ^ e.toNat) : ℚ) < 2 * (n * 2 ^ (-e).toNat) + d * 2 ^ e.toNat := by
        linarith
      exact_mod_cast this
    · have : (2 * (n * 2 ^ (-e).toNat) : ℚ) < 2 * q * (d * 2 ^ e.toNat) + d * 2 ^ e.toNat := by
        linarith
      exact_mod_cast this

/-- Equal quotients are rounded to the same magnitude. -/
theorem roundMagnitude_congr {n d n' d' : ℕ} (hd : 0 < d) (hd' : 0 < d')
    (same : (n / d : ℚ) = n' / d')
    : roundMagnitude n d = roundMagnitude n' d' := by
  have products : n * d' = n' * d := by
    have nonzero : (d : ℚ) ≠ 0 := Nat.cast_ne_zero.mpr hd.ne'
    have nonzero' : (d' : ℚ) ≠ 0 := Nat.cast_ne_zero.mpr hd'.ne'
    exact_mod_cast (div_eq_div_iff nonzero nonzero').mp same
  rcases Nat.eq_zero_or_pos n with rfl | hn
  · have zero : n' = 0 := by
      rw [Nat.zero_mul, eq_comm, Nat.mul_eq_zero] at products
      omega
    rw [zero, roundMagnitude, roundMagnitude, if_pos rfl, if_pos rfl]
  · have hn' : 0 < n' := by
      refine Nat.pos_of_ne_zero ?_
      rintro rfl
      rw [Nat.zero_mul, Nat.mul_eq_zero] at products
      omega
    have logs : quotientLog2 n d = quotientLog2 n' d' := by
      refine eq_of_forall_gt_iff fun k => ?_
      rw [quotientLog2_lt_iff hn hd, quotientLog2_lt_iff hn' hd', same]
    simp only [roundMagnitude, hn.ne', hn'.ne', if_false, logs, Nat.pow_eq]
    congr 1
    refine roundHalfEven_congr (by positivity) (by positivity) ?_
    rw [mul_mul_mul_comm, products, mul_mul_mul_comm]

-----------------------------------------------------------------------------------------
-- Finite numbers
-----------------------------------------------------------------------------------------

variable {x : Binary64}

theorem isNaN_of_isFinite (finite : x.isFinite = true) : x.isNaN = false := by
  rw [isFinite, decide_eq_true_eq] at finite
  rw [isNaN, decide_eq_false_iff_not]
  omega

theorem isInfinite_of_isFinite (finite : x.isFinite = true) : x.isInfinite = false := by
  rw [isFinite, decide_eq_true_eq] at finite
  rw [isInfinite, beq_eq_false_iff_ne]
  omega

/-- The magnitude of a number is told by its significand and scale. -/
theorem significand_add_scale (x : Binary64)
    : x.significand + (x.scale + 1074).toNat * Nat.pow 2 52 = x.magnitude.val := by
  have power : Nat.pow 2 52 = 4503599627370496 := by decide
  rw [significand, scale, power]
  split <;> omega

/-- The significand has 53 bits, or fewer at the least scale. -/
theorem significand_bounds (x : Binary64)
    : x.significand < Nat.pow 2 53 ∧ -1074 ≤ x.scale
      ∧ (x.scale = -1074 ∨ Nat.pow 2 52 ≤ x.significand) := by
  have power : Nat.pow 2 52 = 4503599627370496 := by decide
  have power' : Nat.pow 2 53 = 9007199254740992 := by decide
  rw [significand, scale, power, power']
  split <;> omega

end Binary64

end Spreadsheet.Number
