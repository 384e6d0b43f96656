import Spreadsheet.Number.Layout
import Spreadsheet.Proofs.Number.WholeNumbers

/-! Finite numbers as the rational numbers that they stand for. Whole numbers of up to 53 bits stand
for themselves, a quotient is the number nearest to the quotient of the values, and a number of
decimal places is rounded to as the value is.
-/

namespace Spreadsheet.Number

namespace Binary64

-----------------------------------------------------------------------------------------
-- Values
-----------------------------------------------------------------------------------------

/-- The absolute value of a finite number. -/
def absValue (x : Binary64) : ℚ := x.significand * 2 ^ x.scale

/-- The value of a finite number. -/
def value (x : Binary64) : ℚ := if x.negative then -x.absValue else x.absValue

variable {x y : Binary64}

theorem absValue_nonneg (x : Binary64) : 0 ≤ x.absValue := by
  rw [absValue]
  positivity

-----------------------------------------------------------------------------------------
-- Whole numbers
-----------------------------------------------------------------------------------------

theorem absValue_nearest_one (negative : Bool) {n : ℕ} (below : n < 2 ^ 53)
    : (nearest negative n 1).absValue = n := by
  rcases Nat.eq_zero_or_pos n with rfl | positive
  · have zero : (nearest negative 0 1).significand = 0 := by cases negative <;> decide
    rw [absValue, zero, Nat.cast_zero, zero_mul]
  · obtain ⟨bits, scaled, -⟩ := nearest_one_parts negative positive below
    have small : n.log2 < 53 := (Nat.log2_lt positive.ne').mpr below
    have exponents : ((52 - n.log2 : ℕ) : ℤ) + (n.log2 - 52) = 0 := by omega
    rw [absValue, bits, scaled, Nat.cast_mul, Nat.cast_pow, Nat.cast_ofNat, mul_assoc,
      ← zpow_natCast, ← zpow_add₀ two_ne_zero, exponents, zpow_zero, mul_one]

theorem isFinite_nearest_one (negative : Bool) {n : ℕ} (below : n < 2 ^ 53)
    : (nearest negative n 1).isFinite = true := by
  rcases Nat.eq_zero_or_pos n with rfl | positive
  · cases negative <;> decide
  · exact (nearest_one_parts negative positive below).2.2

/-- A whole number of up to 53 bits is its own value. -/
theorem value_ofInt {i : ℤ} (below : i.natAbs < 2 ^ 53) : (ofInt i).value = i := by
  have sign : (ofInt i).negative = decide (i < 0) := rfl
  rw [value, sign, ofInt, absValue_nearest_one _ below, Nat.cast_natAbs, Int.cast_abs]
  rcases lt_or_ge i 0 with negative | nonnegative
  · rw [if_pos (decide_eq_true negative), abs_of_neg (Int.cast_lt_zero.mpr negative), neg_neg]
  · rw [if_neg (by simpa using nonnegative), abs_of_nonneg (Int.cast_nonneg nonnegative)]

-----------------------------------------------------------------------------------------
-- Quotients
-----------------------------------------------------------------------------------------

/-- A quotient is the number nearest to the quotient of the values. -/
theorem div_eq_nearest (finite : x.isFinite = true) (finite' : y.isFinite = true)
    (nonzero : y.isZero = false) {n d : ℕ} (positive : 0 < d)
    (quotient : x.absValue / y.absValue = n / d)
    : x.div y = nearest (x.negative != y.negative) n d := by
  have unit := significand_pos nonzero
  rw [div, isNaN_of_isFinite finite, isNaN_of_isFinite finite', isInfinite_of_isFinite finite,
    isInfinite_of_isFinite finite', nonzero]
  simp only [Bool.or_self, Bool.false_eq_true, if_false, nearestScaled, nearest, Nat.pow_eq]
  congr 1
  refine roundMagnitude_congr (by positivity) positive ?_
  have scales : (2 : ℚ) ^ x.scale / 2 ^ y.scale
      = 2 ^ (x.scale - y.scale).toNat / 2 ^ (-(x.scale - y.scale)).toNat := by
    rw [← zpow_sub₀ two_ne_zero, zpow_eq_div two_ne_zero]
  rw [← quotient, absValue, absValue, mul_div_mul_comm, scales]
  push_cast
  rw [mul_div_mul_comm]

end Binary64

-----------------------------------------------------------------------------------------
-- Decimal places
-----------------------------------------------------------------------------------------

/-- A number is rounded to a nearest whole one, if there are two to the even one. -/
structure IsRounded (q : ℚ) (i : ℤ) : Prop where
  near : |q - i| ≤ 1 / 2
  even : |q - i| = 1 / 2 → Even i

theorem IsRounded.neg {q : ℚ} {i : ℤ} (rounded : IsRounded q i) : IsRounded (-q) (-i) := by
  have distance : |-q - (-i : ℤ)| = |q - i| := by
    rw [Int.cast_neg, neg_sub_neg, abs_sub_comm]
  constructor
  · rw [distance]
    exact rounded.near
  · rw [distance, even_neg]
    exact rounded.even

theorem isRounded_roundHalfEven {n d : ℕ} (positive : 0 < d)
    : IsRounded (n / d) (roundHalfEven n d) := by
  obtain ⟨low, high, odd⟩ := roundHalfEven_bounds (n := n) positive
  generalize roundHalfEven n d = q at low high odd
  have unit : (0 : ℚ) < d := Nat.cast_pos.mpr positive
  have low' : (q : ℚ) - 1 / 2 ≤ n / d := by
    have low : (2 * q * d : ℚ) ≤ 2 * n + d := by exact_mod_cast low
    rw [le_div_iff₀ unit]
    linarith
  have high' : (n / d : ℚ) ≤ q + 1 / 2 := by
    have high : (2 * n : ℚ) ≤ 2 * q * d + d := by exact_mod_cast high
    rw [div_le_iff₀ unit]
    linarith
  constructor
  · rw [Int.cast_natCast, abs_sub_le_iff]
    constructor <;> linarith
  · intro half
    rw [Int.even_coe_nat, Nat.even_iff, ← Nat.mod_two_ne_one]
    intro isOdd
    obtain ⟨above, below⟩ := odd isOdd
    have above' : (q : ℚ) - 1 / 2 < n / d := by
      have above : (2 * q * d : ℚ) < 2 * n + d := by exact_mod_cast above
      rw [lt_div_iff₀ unit]
      linarith
    have below' : (n / d : ℚ) < q + 1 / 2 := by
      have below : (2 * n : ℚ) < 2 * q * d + d := by exact_mod_cast below
      rw [div_lt_iff₀ unit]
      linarith
    refine absurd half (ne_of_lt ?_)
    rw [Int.cast_natCast, abs_sub_lt_iff]
    constructor <;> linarith

namespace Binary64

/-- A number counted in units of the last of some decimal places, rounded. -/
def units (places : ℕ) (x : Binary64) : ℤ :=
  if x.negative then -(x.roundedUnits places : ℤ) else x.roundedUnits places

theorem isRounded_units (places : ℕ) (x : Binary64)
    : IsRounded (x.value * 10 ^ places) (x.units places) := by
  have counted : x.absValue * 10 ^ places
      = (x.significand * Nat.pow 2 x.scale.toNat * Nat.pow 10 places : ℕ)
        / (Nat.pow 2 (-x.scale).toNat : ℕ) := by
    rw [absValue, zpow_eq_div two_ne_zero]
    push_cast [Nat.pow_eq]
    ring
  have rounded : IsRounded (x.absValue * 10 ^ places) (x.roundedUnits places) := by
    rw [counted]
    exact isRounded_roundHalfEven (Nat.pow_pos (by decide))
  rw [value, units]
  split
  · rw [neg_mul]
    exact rounded.neg
  · exact rounded

theorem natAbs_units (places : ℕ) (x : Binary64)
    : (x.units places).natAbs = x.roundedUnits places := by
  rw [units]
  split
  · rw [Int.natAbs_neg, Int.natAbs_natCast]
  · rw [Int.natAbs_natCast]

/-- What is left of a number after rounding has its sign. -/
theorem units_neg_iff {places : ℕ} {x : Binary64}
    : x.units places < 0 ↔ x.value < 0 ∧ x.units places ≠ 0 := by
  constructor
  · intro below
    refine ⟨?_, below.ne⟩
    have near := (isRounded_units places x).near
    have unit : (x.units places : ℚ) ≤ -1 := by exact_mod_cast Int.le_sub_one_of_lt below
    by_contra nonnegative
    have scaled : 0 ≤ x.value * 10 ^ places := mul_nonneg (not_lt.mp nonnegative) (by positivity)
    rw [abs_le] at near
    linarith
  · rintro ⟨negative, nonzero⟩
    have sign : x.negative = true := by
      by_contra positive
      rw [value, if_neg positive] at negative
      exact absurd negative (not_lt.mpr x.absValue_nonneg)
    rw [units, if_pos sign] at nonzero ⊢
    omega

end Binary64

end Spreadsheet.Number
