import Spreadsheet.Proofs.Number.NumberReading

/-! Whole numbers that are written with digits and read as binary numbers. Up to 53 bits nothing is
lost on the way.
-/

namespace Spreadsheet.Number

open Binary64

theorem readBinary64?_repr (n : Nat) : readBinary64? (Nat.repr n).toList = some (.ofNat n) := by
  have digits : ∀ c ∈ (Nat.repr n).toList, c.isDigit = true := by
    intro c member
    rw [Nat.toList_repr] at member
    exact isDigit_of_mem_toDigits member
  have filled : (Nat.repr n).toList ≠ [] := by
    rw [Nat.toList_repr]
    exact Nat.toDigits_ne_nil
  have value : digitsValue (Nat.repr n).toList = n := by
    rw [digitsValue_eq, Nat.toList_repr, Nat.ofDigitChars_ten_toDigits]
  have literal := readLiteral?_digits digits filled
  obtain ⟨c, rest, spelled⟩ := List.exists_cons_of_ne_nil filled
  rw [value] at literal
  rw [spelled] at digits literal ⊢
  have read : readBinary64? (c :: rest)
      = (readLiteral? (c :: rest)).map (Literal.toBinary64 false) :=
    readBinary64?_digits false (digits c List.mem_cons_self)
  rw [read, literal, Option.map_some, Literal.toBinary64]
  split
  · next zero =>
      have zero : n = 0 := zero
      rw [zero]
      rfl
  · rw [if_neg (by dsimp only; omega), if_neg (by dsimp only; omega)]
    simp only [Int.toNat_zero, Int.neg_zero, Nat.pow_zero, Nat.pow_eq, Nat.mul_one]
    rfl

namespace Binary64

theorem quotientLog2_one {n : Nat} (positive : 0 < n) : quotientLog2 n 1 = n.log2 := by
  have unit : Nat.log2 1 = 0 := by decide
  rw [quotientLog2, unit, Int.natCast_zero, Int.sub_zero, if_neg]
  have reached := Nat.log2_self_le positive.ne'
  simp only [Int.toNat_neg_natCast, Int.toNat_natCast, Nat.pow_eq, Nat.pow_zero, Nat.mul_one,
    Nat.one_mul, Nat.not_lt]
  exact reached

/-- A whole number takes up all bits of its significand. -/
theorem roundMagnitude_one {n : Nat} (positive : 0 < n) (below : n < 2 ^ 53)
    : roundMagnitude n 1 = n * 2 ^ (52 - n.log2) + (n.log2 + 1022) * 2 ^ 52 := by
  have small : n.log2 < 53 := (Nat.log2_lt positive.ne').mpr below
  have exponent : max ((n.log2 : Int) - 52) (-1074) = n.log2 - 52 := by omega
  have up : (-((n.log2 : Int) - 52)).toNat = 52 - n.log2 := by omega
  have down : ((n.log2 : Int) - 52).toNat = 0 := by omega
  have shift : ((n.log2 : Int) - 52 + 1074).toNat = n.log2 + 1022 := by omega
  have whole (a : Nat) : roundHalfEven a 1 = a := by
    rw [roundHalfEven, Nat.div_one, Nat.mod_one, if_pos (by decide)]
  rw [roundMagnitude, if_neg positive.ne', quotientLog2_one positive]
  dsimp only
  rw [exponent, up, down, shift]
  simp only [Nat.pow_eq, Nat.pow_zero, Nat.mul_one, whole]

/-- A whole number has a significand of 53 bits, whatever its sign. -/
theorem nearest_one_parts (negative : Bool) {n : Nat} (positive : 0 < n) (below : n < 2 ^ 53)
    : (nearest negative n 1).significand = n * 2 ^ (52 - n.log2)
      ∧ (nearest negative n 1).scale = n.log2 - 52
      ∧ (nearest negative n 1).isFinite = true := by
  have small : n.log2 < 53 := (Nat.log2_lt positive.ne').mpr below
  -- The significand lies between the powers of two on both sides of 53 bits.
  have low : 2 ^ 52 ≤ n * 2 ^ (52 - n.log2) := by
    calc 2 ^ 52 = 2 ^ n.log2 * 2 ^ (52 - n.log2) := by rw [← Nat.pow_add]; congr 1; omega
      _ ≤ n * 2 ^ (52 - n.log2) := Nat.mul_le_mul_right _ (Nat.log2_self_le positive.ne')
  have high : n * 2 ^ (52 - n.log2) < 2 ^ 53 := by
    calc n * 2 ^ (52 - n.log2) < 2 ^ (n.log2 + 1) * 2 ^ (52 - n.log2) :=
          Nat.mul_lt_mul_of_pos_right Nat.lt_log2_self (by positivity)
      _ = 2 ^ 53 := by rw [← Nat.pow_add]; congr 1; omega
  have magnitude := roundMagnitude_one positive below
  generalize n * 2 ^ (52 - n.log2) = significand at low high magnitude ⊢
  have power : (2 : Nat) ^ 52 = 4503599627370496 := by decide
  have power' : (2 : Nat) ^ 53 = 9007199254740992 := by decide
  have bound : infinityMagnitude = 2047 * 4503599627370496 := by decide
  rw [power] at low magnitude
  rw [power'] at high
  have value : (nearest negative n 1).magnitude.val
      = significand + (n.log2 + 1022) * 4503599627370496 := by
    have least : min (roundMagnitude n 1) infinityMagnitude = roundMagnitude n 1 := by
      rw [magnitude, bound]
      omega
    exact least.trans magnitude
  refine ⟨?_, ?_, ?_⟩
  · rw [Binary64.significand, value, Nat.pow_eq, power, if_neg (by omega)]
    omega
  · rw [scale, value, Nat.pow_eq, power]
    omega
  · rw [isFinite, value, bound, decide_eq_true_eq]
    omega

/-- A whole number is its own whole part, and a greater one than the limit is cut to it. -/
theorem floorUpTo_ofNat (limit : Nat) {n : Nat} (positive : 0 < n) (below : n < 2 ^ 53)
    : (ofNat n).floorUpTo limit = min limit n := by
  have small : n.log2 < 53 := (Nat.log2_lt positive.ne').mpr below
  obtain ⟨bits, scaled, finite⟩ := nearest_one_parts false positive below
  have back : n * 2 ^ (52 - n.log2) / 2 ^ (52 - n.log2) = n :=
    Nat.mul_div_cancel n (by positivity)
  have noUp : ((n.log2 : Int) - 52).toNat = 0 := by omega
  have down : (-((n.log2 : Int) - 52)).toNat = 52 - n.log2 := by omega
  have plain : (nearest false n 1).negative = false := rfl
  rw [ofNat, floorUpTo, isNaN_of_isFinite finite, isInfinite_of_isFinite finite, plain, bits,
    scaled, noUp, down]
  simp only [Bool.or_self, Bool.false_eq_true, if_false, Nat.pow_eq, Nat.pow_zero, Nat.mul_one,
    back]

end Binary64

end Spreadsheet.Number
