import Spreadsheet.Proofs.Number.Values

/-! Numbers that are written with a fixed number of decimal places. The digits of their units are
split into those of the whole part and those of the rest, which are as many as there are places.
-/

namespace Spreadsheet.Number

/-- A number is written with exactly so many digits. -/
structure WrittenIn (places n : ℕ) (ds : List Char) : Prop where
  length_eq : ds.length = places
  isDigit : ∀ c ∈ ds, c.isDigit = true
  value_eq : Nat.ofDigitChars 10 ds 0 = n

/-- The digits of a number are those of its whole part and then those of the rest, by induction on
the number of places: the last place is split off first.
-/
theorem exists_toDigits_eq_append (places : ℕ) {n : ℕ} (reached : 10 ^ places ≤ n)
    : ∃ rest, Nat.toDigits 10 n = Nat.toDigits 10 (n / 10 ^ places) ++ rest
      ∧ WrittenIn places (n % 10 ^ places) rest := by
  induction places generalizing n with
  | zero =>
      refine ⟨[], ?_, rfl, nofun, (Nat.mod_one n).symm⟩
      rw [pow_zero, Nat.div_one, List.append_nil]
  | succ places ih =>
      have tens : 10 ^ places ≤ n / 10 := by
        rw [Nat.le_div_iff_mul_le (by decide), ← pow_succ]
        exact reached
      have several : 10 ≤ n := by
        have := Nat.pow_pos (n := places) (show 0 < 10 by decide)
        omega
      have single : n % 10 < 10 := Nat.mod_lt n (by decide)
      obtain ⟨rest, split, written⟩ := ih tens
      refine ⟨rest ++ [(n % 10).digitChar], ?_, ?_, ?_, ?_⟩
      · rw [Nat.toDigits_of_base_le (by decide) several, split, Nat.div_div_eq_div_mul,
          ← pow_succ', List.append_assoc]
      · rw [List.length_append, written.length_eq, List.length_singleton]
      · intro c member
        rcases List.mem_append.mp member with before | last
        · exact written.isDigit c before
        · rw [List.mem_singleton.mp last, Nat.isDigit_digitChar]
          exact decide_eq_true single
      · have last : (n % 10).digitChar.toNat - '0'.toNat = n % 10 := by
          rw [Nat.toNat_digitChar_of_lt_ten single]
          exact Nat.add_sub_cancel_left 48 _
        rw [Nat.ofDigitChars_append, written.value_eq, Nat.ofDigitChars_cons, Nat.ofDigitChars_nil,
          last, pow_succ', Nat.mod_mul, Nat.add_comm]

/-- Units are split into the digits of the whole part and those of the rest. Units that make up no
whole are filled up with zeros first.
-/
theorem exists_splitUnits {places : ℕ} (positive : 0 < places) (units : ℕ)
    : ∃ rest, Binary64.splitUnits places units = (Nat.toDigits 10 (units / 10 ^ places), rest)
      ∧ WrittenIn places (units % 10 ^ places) rest := by
  simp only [Binary64.splitUnits]
  rcases Nat.lt_or_ge units (10 ^ places) with small | reached
  · have short : (Nat.toDigits 10 units).length ≤ places :=
      (Nat.length_toDigits_le_iff (by decide) positive).mpr small
    have filled : zeros (places + 1 - (Nat.toDigits 10 units).length) ++ Nat.toDigits 10 units
        = ['0'] ++ (zeros (places - (Nat.toDigits 10 units).length) ++ Nat.toDigits 10 units) := by
      rw [Nat.succ_sub short, zeros, List.replicate_succ]
      rfl
    have length : (zeros (places - (Nat.toDigits 10 units).length)
        ++ Nat.toDigits 10 units).length = places := by
      rw [List.length_append, zeros, List.length_replicate]
      omega
    refine ⟨zeros (places - (Nat.toDigits 10 units).length) ++ Nat.toDigits 10 units, ?_, length,
      ?_, ?_⟩
    · rw [filled, List.length_append, length, Nat.add_sub_cancel, Nat.div_eq_of_lt small]
      rfl
    · intro c member
      exact (List.mem_append.mp member).elim isDigit_of_mem_zeros isDigit_of_mem_toDigits
    · rw [Nat.ofDigitChars_append, zeros, Nat.ofDigitChars_replicate_zero, Nat.mul_zero,
        Nat.ofDigitChars_ten_toDigits, Nat.mod_eq_of_lt small]
  · obtain ⟨rest, split, written⟩ := exists_toDigits_eq_append places reached
    have long : places + 1 - (Nat.toDigits 10 units).length = 0 := by
      have whole := Nat.length_toDigits_pos (b := 10) (n := units / 10 ^ places)
      rw [split, List.length_append, written.length_eq]
      omega
    refine ⟨rest, ?_, written⟩
    rw [long, zeros, List.replicate_zero, List.nil_append, split, List.length_append,
      written.length_eq, Nat.add_sub_cancel, List.take_left' rfl, List.drop_left' rfl]

-----------------------------------------------------------------------------------------
-- Values of texts
-----------------------------------------------------------------------------------------

/-- The number that a literal stands for. -/
def Literal.value (l : Literal) : ℚ := l.digits * 10 ^ l.exponent

/-- The number that a decimal text stands for, behind a minus sign the negative one. -/
def decimal? : List Char → Option ℚ
  | '-' :: ds => (readLiteral? ds).map fun l => -l.value
  | ds => (readLiteral? ds).map Literal.value

/-- A fraction behind its point, which is left out if there is no fraction. -/
def pointed (fraction : List Char) : List Char := if fraction = [] then [] else '.' :: fraction

/-- The value of digits that are divided by ten as often as there are digits behind the point. -/
def pointedValue (whole fraction : List Char) : ℚ :=
  Nat.ofDigitChars 10 (whole ++ fraction) 0 / 10 ^ fraction.length

/-- The digits of units are worth the units, each of them so many decimal places. -/
theorem WrittenIn.pointedValue_eq {places n : ℕ} {rest : List Char}
    (written : WrittenIn places (n % 10 ^ places) rest)
    : pointedValue (Nat.toDigits 10 (n / 10 ^ places)) rest = n / 10 ^ places := by
  rw [pointedValue, Nat.ofDigitChars_append, Nat.ofDigitChars_ten_toDigits]
  rw [Nat.ofDigitChars_eq_ofDigitChars_zero, written.length_eq, written.value_eq, Nat.div_add_mod]

section Decimals

variable {whole fraction : List Char} (digits : ∀ c ∈ whole, c.isDigit = true) (filled : whole ≠ [])
  (decimals : ∀ c ∈ fraction, c.isDigit = true)

include digits filled decimals

theorem exists_readLiteral?_pointed
    : ∃ l, readLiteral? (whole ++ pointed fraction) = some l
      ∧ l.value = pointedValue whole fraction := by
  rw [pointed]
  split
  · next none =>
      refine ⟨_, by rw [List.append_nil, readLiteral?_digits digits filled], ?_⟩
      rw [Literal.value, pointedValue, digitsValue_eq, none, List.append_nil, List.length_nil,
        zpow_zero, pow_zero, mul_one, div_one]
  · refine ⟨_, readLiteral?_point digits filled decimals, ?_⟩
    rw [Literal.value, pointedValue, digitsValue_eq, zpow_neg, zpow_natCast, div_eq_mul_inv]

/-- A decimal text stands for the value of its digits, with a minus sign in front of it too. -/
theorem decimal?_pointed
    : decimal? (whole ++ pointed fraction) = some (pointedValue whole fraction)
      ∧ decimal? ('-' :: (whole ++ pointed fraction)) = some (-pointedValue whole fraction) := by
  obtain ⟨l, read, value⟩ := exists_readLiteral?_pointed digits filled decimals
  obtain ⟨c, rest, spelled⟩ := List.exists_cons_of_ne_nil filled
  have unsigned : c ≠ '-' := ne_of_isDigit (digits c (by simp [spelled])) rfl
  constructor
  · rw [decimal?, read, Option.map_some, value]
    rw [spelled]
    exact fun _ same => unsigned (List.cons.inj same).1
  · rw [decimal?, read, Option.map_some, value]

end Decimals

namespace Binary64

/-- The text with some decimal places stands for the absolute value, rounded to them. -/
theorem decimal?_fixedUnsigned {places : ℕ} (positive : 0 < places) (x : Binary64)
    : decimal? (x.fixedUnsigned places) = some ((x.units places).natAbs / 10 ^ places : ℚ) := by
  obtain ⟨rest, split, written⟩ := exists_splitUnits positive (x.units places).natAbs
  have filled : rest ≠ [] := by
    rintro rfl
    exact positive.ne written.length_eq
  have text : x.fixedUnsigned places
      = Nat.toDigits 10 ((x.units places).natAbs / 10 ^ places) ++ pointed rest := by
    rw [fixedUnsigned, ← natAbs_units, split, pointed, if_neg filled]
  rw [text, (decimal?_pointed (fun _ => isDigit_of_mem_toDigits) Nat.toDigits_ne_nil
    written.isDigit).1, written.pointedValue_eq]

end Binary64

end Spreadsheet.Number
