import Spreadsheet.Number.Shortest
import Spreadsheet.Proofs.Number.Rounding

/-! The decimal that is found for a number rounds to that number.
-/

namespace Spreadsheet.Number

namespace RoundingInterval

variable {i : RoundingInterval} {grid : ℤ} {q : ℕ}

-----------------------------------------------------------------------------------------
-- Grid points as rational numbers
-----------------------------------------------------------------------------------------

/-- What both sides of a comparison are multiplied by, so that they are natural numbers. -/
def factor (i : RoundingInterval) (grid : ℤ) : ℚ := 2 ^ (-i.scale).toNat * 10 ^ (-grid).toNat

theorem factor_pos (i : RoundingInterval) (grid : ℤ) : 0 < i.factor grid := by
  rw [factor]
  positivity

theorem binarySide_eq (i : RoundingInterval) (grid : ℤ) (n : ℕ)
    : (i.binarySide grid n : ℚ) = n * 2 ^ i.scale * i.factor grid := by
  rw [binarySide, factor, zpow_eq_div two_ne_zero]
  push_cast [Nat.pow_eq]
  field_simp

theorem gridSide_eq (i : RoundingInterval) (grid : ℤ) (q : ℕ)
    : (i.gridSide grid q : ℚ) = q * 10 ^ grid * i.factor grid := by
  rw [gridSide, factor, zpow_eq_div (by norm_num : (10 : ℚ) ≠ 0)]
  push_cast [Nat.pow_eq]
  field_simp

theorem binarySide_le_gridSide {n : ℕ}
    : i.binarySide grid n ≤ i.gridSide grid q ↔ (n * 2 ^ i.scale : ℚ) ≤ q * 10 ^ grid := by
  rw [← Nat.cast_le (α := ℚ), binarySide_eq, gridSide_eq,
    mul_le_mul_iff_left₀ (i.factor_pos grid)]

theorem gridSide_le_binarySide {n : ℕ}
    : i.gridSide grid q ≤ i.binarySide grid n ↔ (q * 10 ^ grid : ℚ) ≤ n * 2 ^ i.scale := by
  rw [← Nat.cast_le (α := ℚ), binarySide_eq, gridSide_eq,
    mul_le_mul_iff_left₀ (i.factor_pos grid)]

/-- A grid point is in the interval if it is between the ends, which count if it is closed. -/
theorem contains_iff
    : i.contains grid q = true
      ↔ ((i.low * 2 ^ i.scale : ℚ) ≤ q * 10 ^ grid ∧ (q * 10 ^ grid : ℚ) ≤ i.high * 2 ^ i.scale)
        ∧ (i.closed = false → (i.low * 2 ^ i.scale : ℚ) < q * 10 ^ grid
          ∧ (q * 10 ^ grid : ℚ) < i.high * 2 ^ i.scale) := by
  rw [contains]
  cases i.closed with
  | true =>
      simp only [if_true, decide_eq_true_eq, binarySide_le_gridSide, gridSide_le_binarySide,
        reduceCtorEq, false_implies, and_true]
  | false =>
      simp only [Bool.false_eq_true, if_false, decide_eq_true_eq, ← not_le,
        binarySide_le_gridSide, gridSide_le_binarySide, true_implies]
      exact ⟨fun h => ⟨⟨(not_le.mp h.1).le, (not_le.mp h.2).le⟩, h⟩, And.right⟩

/-- The grid point below a number and the one above it. -/
theorem floor_bounds (i : RoundingInterval) (grid : ℤ)
    : (i.floor grid * 10 ^ grid : ℚ) ≤ i.mid * 2 ^ i.scale
      ∧ (i.mid * 2 ^ i.scale : ℚ) < (i.floor grid + 1) * 10 ^ grid := by
  have unit : i.gridSide grid 1 = Nat.pow 2 (-i.scale).toNat * Nat.pow 10 grid.toNat := by
    rw [gridSide, one_mul]
  have multiple : ∀ q, i.gridSide grid q = q * i.gridSide grid 1 := by
    intro q
    rw [gridSide, unit, mul_assoc]
  have positive : 0 < i.gridSide grid 1 := by
    rw [unit, Nat.pow_eq, Nat.pow_eq]
    positivity
  constructor
  · rw [← gridSide_le_binarySide, multiple]
    exact Nat.div_mul_le_self _ _
  · rw [← Nat.cast_succ, ← not_le, ← gridSide_le_binarySide, not_le, multiple]
    rw [mul_comm]
    exact Nat.lt_mul_div_succ _ positive

-----------------------------------------------------------------------------------------
-- Search
-----------------------------------------------------------------------------------------

/-- What is found on a grid is in the interval. -/
theorem contains_of_hit? {tie : Tie} (found : i.hit? tie grid = some q)
    : i.contains grid q = true := by
  simp only [hit?] at found
  split at found
  · cases found
  · next below _ =>
      cases found
      exact below
  · next _ above =>
      cases found
      exact above
  · next below above =>
      split at found
      · cases found
        exact below
      · split at found
        · cases found
          exact above
        · cases tie with
          | up =>
              cases found
              exact above
          | even =>
              cases found
              rcases Nat.mod_two_eq_zero_or_one (i.floor grid) with even | odd
              · rwa [even]
              · rwa [odd]

/-- A grid with a point of the interval at or below the number has a hit. -/
theorem exists_hit? (tie : Tie) (inside : i.contains grid (i.floor grid) = true)
    : ∃ q, i.hit? tie grid = some q := by
  simp only [hit?, inside]
  split
  · next h _ => cases h
  · exact ⟨_, rfl⟩
  · exact ⟨_, rfl⟩
  · split
    · exact ⟨_, rfl⟩
    · split
      · exact ⟨_, rfl⟩
      · cases tie <;> exact ⟨_, rfl⟩

/-- The search finds a point of the interval if one of the grids that it tries has a hit. The
induction is on the number of grids.
-/
theorem search_contains (tie : Tie) {fuel tried : ℕ} (short : tried < fuel)
    (inside : i.contains (grid - tried) (i.floor (grid - tried)) = true)
    : i.contains (i.search tie fuel grid).exponent (i.search tie fuel grid).digits = true
      ∧ grid - tried ≤ (i.search tie fuel grid).exponent
      ∧ (i.search tie fuel grid).exponent ≤ grid := by
  induction fuel generalizing grid tried with
  | zero => exact absurd short (Nat.not_lt_zero _)
  | succ fuel ih =>
      rw [search]
      cases found : i.hit? tie grid with
      | some q => exact ⟨contains_of_hit? found, by simp, le_rfl⟩
      | none =>
          cases tried with
          | zero =>
              rw [Nat.cast_zero, sub_zero] at inside
              obtain ⟨q, hit⟩ := exists_hit? tie inside
              rw [found] at hit
              cases hit
          | succ tried =>
              have next : grid - 1 - tried = grid - (tried + 1 : ℕ) := by
                push_cast
                ring
              obtain ⟨inside, low, high⟩ := ih (Nat.lt_of_succ_lt_succ short) (next ▸ inside)
              exact ⟨inside, by rwa [← next], high.trans (by omega)⟩

-----------------------------------------------------------------------------------------
-- Fine grids
-----------------------------------------------------------------------------------------

/-- Powers of ten and of two are compared by their exponents if a power of each is. -/
theorem zpow_le_zpow_of_mul_le {g s : ℤ} {a b : ℕ} (positive : b ≠ 0) (exponents : g * b ≤ a * s)
    (powers : ((10 : ℚ) ^ a) ^ s ≤ (2 ^ b) ^ s)
    : (10 : ℚ) ^ g ≤ 2 ^ s := by
  refine le_of_pow_le_pow_left₀ positive (by positivity) ?_
  calc ((10 : ℚ) ^ g) ^ b = 10 ^ (g * b) := by rw [zpow_mul, zpow_natCast]
    _ ≤ 10 ^ (a * s) := by gcongr; norm_num
    _ = (10 ^ a) ^ s := by rw [zpow_mul, zpow_natCast]
    _ ≤ (2 ^ b) ^ s := powers
    _ = 2 ^ (s * b) := by rw [← zpow_natCast, ← zpow_mul, mul_comm]
    _ = (2 ^ s) ^ b := by rw [zpow_mul, zpow_natCast]

/-- The logarithm of two lies between three tenths and 28 by 93. -/
theorem zpow_ten_le_zpow_two {g s : ℤ} (high : 0 ≤ s → g * 10 ≤ 3 * s)
    (low : s < 0 → g * 93 ≤ 28 * s)
    : (10 : ℚ) ^ g ≤ 2 ^ s := by
  rcases lt_or_ge s 0 with negative | nonnegative
  · refine zpow_le_zpow_of_mul_le (a := 28) (b := 93) (by decide) (low negative) ?_
    obtain ⟨k, rfl⟩ : ∃ k : ℕ, s = -k := ⟨(-s).toNat, by omega⟩
    rw [zpow_neg, zpow_neg, zpow_natCast, zpow_natCast]
    gcongr
    norm_num
  · refine zpow_le_zpow_of_mul_le (a := 3) (b := 10) (by decide) (high nonnegative) ?_
    obtain ⟨k, rfl⟩ := Int.eq_ofNat_of_zero_le nonnegative
    rw [zpow_natCast, zpow_natCast]
    gcongr
    norm_num

/-- A grid finer than the interval has a point at or below the number. -/
theorem contains_floor (below : i.low + 1 ≤ i.mid) (above : i.mid < i.high)
    (fine : (10 : ℚ) ^ grid ≤ 2 ^ i.scale)
    : i.contains grid (i.floor grid) = true := by
  obtain ⟨low, high⟩ := i.floor_bounds grid
  have unit : (0 : ℚ) < 2 ^ i.scale := by positivity
  have below : (i.low + 1 : ℚ) * 2 ^ i.scale ≤ i.mid * 2 ^ i.scale := by
    gcongr
    exact_mod_cast below
  have above : (i.mid : ℚ) * 2 ^ i.scale < i.high * 2 ^ i.scale := by
    gcongr
  rw [add_mul, one_mul] at below high
  rw [contains_iff]
  have strict : (i.low * 2 ^ i.scale : ℚ) < i.floor grid * 10 ^ grid
      ∧ (i.floor grid * 10 ^ grid : ℚ) < i.high * 2 ^ i.scale :=
    ⟨by linarith, by linarith⟩
  exact ⟨⟨strict.1.le, strict.2.le⟩, fun _ => strict⟩

end RoundingInterval

-----------------------------------------------------------------------------------------
-- Numbers
-----------------------------------------------------------------------------------------

namespace Binary64

variable {x : Binary64}

theorem scale_le (finite : x.isFinite = true) : x.scale ≤ 971 := by
  have power : Nat.pow 2 52 = 4503599627370496 := by decide
  rw [isFinite, decide_eq_true_eq, infinityMagnitude, power] at finite
  rw [scale, power]
  omega

theorem significand_pos (nonzero : x.isZero = false) : 0 < x.significand := by
  have power : Nat.pow 2 52 = 4503599627370496 := by decide
  rw [isZero, beq_eq_false_iff_ne] at nonzero
  rw [significand, power]
  split <;> omega

/-- The decimal that is found lies in the interval of the number, on a grid near enough to it. -/
theorem shortest_contains (tie : Tie) (finite : x.isFinite = true) (nonzero : x.isZero = false)
    : (RoundingInterval.of x).contains (x.shortest tie).exponent (x.shortest tie).digits = true
      ∧ -350 ≤ (x.shortest tie).exponent ∧ (x.shortest tie).exponent ≤ 350 := by
  obtain ⟨bits, least, -⟩ := significand_bounds x
  have greatest := scale_le finite
  have positive := significand_pos nonzero
  let i := RoundingInterval.of x
  have low : i.low + 1 ≤ i.mid := by
    simp only [i, RoundingInterval.of]
    split <;> omega
  have high : i.high = 4 * x.significand + 2 := rfl
  have logLow : 2 ≤ i.high.log2 := (Nat.le_log2 (by omega)).mpr (by omega)
  have logHigh : i.high.log2 < 55 := by
    have power : Nat.pow 2 53 = 9007199254740992 := by decide
    exact (Nat.log2_lt (by omega)).mpr (by omega)
  have scale : i.scale = x.scale - 2 := rfl
  have grid : i.coarseGrid = ((i.high.log2 : Int) + 1 + i.scale) * 30103 / 100000 + 1 := rfl
  have fine : (10 : ℚ) ^ (i.coarseGrid - (19 : ℕ)) ≤ 2 ^ i.scale := by
    refine RoundingInterval.zpow_ten_le_zpow_two (fun _ => ?_) fun _ => ?_ <;> omega
  have inside := RoundingInterval.contains_floor low (Nat.lt_add_of_pos_right (by decide)) fine
  obtain ⟨contained, above, below⟩ :=
    RoundingInterval.search_contains tie (by decide : 19 < 20) inside
  exact ⟨contained, le_trans (by omega) above, below.trans (by omega)⟩

-----------------------------------------------------------------------------------------
-- Rounding back
-----------------------------------------------------------------------------------------

/-- What the ends of the interval of a number are, in quarters of the unit of its significand. -/
structure Surrounds (i : RoundingInterval) (x : Binary64) : Prop where
  scale : i.scale = x.scale - 2
  high : i.high = 4 * x.significand + 2
  closed : i.closed = false ↔ x.significand % 2 = 1
  low : 4 * x.significand ≤ i.low + 2
  lowest : x.significand = Nat.pow 2 52 → -1074 < x.scale → 4 * x.significand = i.low + 1

theorem surrounds (x : Binary64) : Surrounds (RoundingInterval.of x) x where
  scale := rfl
  high := rfl
  closed := by
    rw [RoundingInterval.of, beq_eq_false_iff_ne]
    omega
  low := by
    simp only [RoundingInterval.of]
    split <;> omega
  lowest m t := by simp only [RoundingInterval.of, m, t, and_self, if_true]

theorem zpow_eq_units {t e : ℤ} (k : ℕ) (same : e = t + k) : (2 : ℚ) ^ e = 2 ^ k * 2 ^ t := by
  rw [same, zpow_add₀ two_ne_zero, zpow_natCast, mul_comm]

section Rounding

variable {n d : ℕ} (hn : 0 < n) (hd : 0 < d)

include hn hd

/-- A quotient within half a unit of the significand is rounded to the number. -/
theorem roundMagnitude_of_near (exponent : max (quotientLog2 n d - 52) (-1074) = x.scale)
    (above : (4 * x.significand - 2) * (2 : ℚ) ^ (x.scale - 2) ≤ n / d)
    (below : (n / d : ℚ) ≤ (4 * x.significand + 2) * 2 ^ (x.scale - 2))
    (strict : x.significand % 2 = 1
      → (4 * x.significand - 2) * (2 : ℚ) ^ (x.scale - 2) < n / d
        ∧ (n / d : ℚ) < (4 * x.significand + 2) * 2 ^ (x.scale - 2))
    : roundMagnitude n d = x.magnitude.val := by
  have quarters : (2 : ℚ) ^ x.scale = 2 ^ 2 * 2 ^ (x.scale - 2) := zpow_eq_units 2 (by omega)
  rw [roundMagnitude_eq hn hd exponent (q := x.significand), significand_add_scale]
  · rw [quarters]
    linarith
  · rw [quarters]
    linarith
  · intro odd
    obtain ⟨above, below⟩ := strict odd
    rw [quarters]
    constructor <;> linarith

/-- Just below a power of two the unit is half as large, and what is nearer to the power than half
of that is rounded to it.
-/
theorem roundMagnitude_of_below_power (leading : x.significand = Nat.pow 2 52)
    (normal : -1074 < x.scale) (lower : quotientLog2 n d < x.scale + 52)
    (near : (2 ^ 54 - 1) * (2 : ℚ) ^ (x.scale - 2) ≤ n / d)
    : roundMagnitude n d = x.magnitude.val := by
  have power : Nat.pow 2 52 = 4503599627370496 := by decide
  have unit : (0 : ℚ) < 2 ^ (x.scale - 2) := by positivity
  have upper := (quotientLog2_lt_iff hn hd).mp lower
  rw [zpow_eq_units (t := x.scale - 2) 54 (by omega)] at upper
  have longer : ¬ quotientLog2 n d < x.scale + 51 := by
    rw [quotientLog2_lt_iff hn hd, zpow_eq_units (t := x.scale - 2) 53 (by omega)]
    nlinarith
  have halves : (2 : ℚ) ^ (x.scale - 1) = 2 ^ 1 * 2 ^ (x.scale - 2) := zpow_eq_units 1 (by omega)
  have exponent : max (quotientLog2 n d - 52) (-1074) = x.scale - 1 := by omega
  rw [roundMagnitude_eq hn hd exponent (q := 2 ^ 53)]
  · have whole := significand_add_scale x
    rw [leading, power] at whole
    rw [power]
    omega
  · rw [halves]
    push_cast
    linarith
  · rw [halves]
    push_cast
    linarith
  · intro odd
    omega

end Rounding

/-- A quotient in the interval of a number is rounded to the number. -/
theorem roundMagnitude_of_contains (nonzero : x.isZero = false) {q n d : ℕ} {grid : ℤ}
    (hd : 0 < d) (inside : (RoundingInterval.of x).contains grid q = true)
    (value : (n / d : ℚ) = q * 10 ^ grid)
    : roundMagnitude n d = x.magnitude.val := by
  have power : Nat.pow 2 52 = 4503599627370496 := by decide
  have power' : Nat.pow 2 53 = 9007199254740992 := by decide
  obtain ⟨bits, least, full⟩ := significand_bounds x
  have positive := significand_pos nonzero
  rw [RoundingInterval.contains_iff, ← value] at inside
  have ends := surrounds x
  generalize RoundingInterval.of x = i at inside ends
  have unit : (0 : ℚ) < 2 ^ (x.scale - 2) := by positivity
  rw [ends.scale, ends.high] at inside
  obtain ⟨⟨above, below⟩, strict⟩ := inside
  push_cast at below strict
  have bottom : (4 * x.significand - 2) * (2 : ℚ) ^ (x.scale - 2) ≤ i.low * 2 ^ (x.scale - 2) := by
    have low : (4 * x.significand : ℚ) ≤ i.low + 2 := by exact_mod_cast ends.low
    gcongr
    linarith
  have quotient : 2 * 2 ^ (x.scale - 2) ≤ (n / d : ℚ) := by
    have positive : (1 : ℚ) ≤ x.significand := by exact_mod_cast positive
    nlinarith
  have numerator : 0 < n := by
    rcases Nat.eq_zero_or_pos n with rfl | positive
    · rw [Nat.cast_zero, zero_div] at quotient
      linarith
    · exact positive
  have shorter : quotientLog2 n d < x.scale + 53 := by
    have bits : (x.significand : ℚ) + 1 ≤ 2 ^ 53 := by exact_mod_cast bits
    rw [quotientLog2_lt_iff numerator hd, zpow_eq_units (t := x.scale - 2) 55 (by omega)]
    nlinarith
  by_cases lowered : -1074 < x.scale ∧ quotientLog2 n d < x.scale + 52
  · obtain ⟨normal, lower⟩ := lowered
    have leading : x.significand = Nat.pow 2 52 := by
      have upper := (quotientLog2_lt_iff numerator hd).mp lower
      rw [zpow_eq_units (t := x.scale - 2) 54 (by omega)] at upper
      have : (4 * x.significand - 2 : ℚ) < 2 ^ 54 := by nlinarith
      have : 4 * x.significand < 2 ^ 54 + 2 := by
        have : (4 * x.significand : ℚ) < 2 ^ 54 + 2 := by linarith
        exact_mod_cast this
      omega
    refine roundMagnitude_of_below_power numerator hd leading normal lower ?_
    have low := ends.lowest leading normal
    rw [leading] at low
    have low : (i.low : ℚ) = 2 ^ 54 - 1 := by
      have : (2 ^ 54 : ℚ) = i.low + 1 := by exact_mod_cast low
      linarith
    rwa [low] at above
  · refine roundMagnitude_of_near numerator hd (by omega) (bottom.trans above) below fun odd => ?_
    obtain ⟨above, below⟩ := strict (ends.closed.mpr odd)
    exact ⟨bottom.trans_lt above, below⟩

end Binary64

end Spreadsheet.Number
