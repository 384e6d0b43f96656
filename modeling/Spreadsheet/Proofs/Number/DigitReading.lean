import Spreadsheet.Number.Reader
import Spreadsheet.Text.Blank

/-! Decimal digits are read back as the number that they were written for.
-/

namespace Spreadsheet.Number

/-- A run of digits is worth what they stand for in base ten. -/
theorem digitsValue_eq (ds : List Char) : digitsValue ds = Nat.ofDigitChars 10 ds 0 :=
  digitsValue_eq_foldl ds

theorem isDigit_of_mem_toDigits {n : Nat} {c : Char} (member : c ∈ Nat.toDigits 10 n)
    : c.isDigit = true :=
  Nat.isDigit_of_mem_toDigits (by decide) (by decide) member

theorem toNat_of_isDigit {c : Char} (digit : c.isDigit = true) : 48 ≤ c.toNat ∧ c.toNat ≤ 57 := by
  simpa [Char.isDigit, UInt32.le_iff_toNat_le] using digit

/-- A digit is no white space. -/
theorem isBlank_of_isDigit {c : Char} (digit : c.isDigit = true) : Text.isBlank c = false := by
  have value := toNat_of_isDigit digit
  simp [Text.isBlank]
  omega

theorem toNat_of_isAlpha {c : Char} (letter : c.isAlpha = true)
    : (65 ≤ c.toNat ∧ c.toNat ≤ 90) ∨ 97 ≤ c.toNat ∧ c.toNat ≤ 122 := by
  rcases Bool.or_eq_true_iff.mp letter with upper | lower
  · obtain ⟨low, high⟩ := of_decide_eq_true upper
    exact .inl ⟨UInt32.le_iff_toNat_le.mp low, UInt32.le_iff_toNat_le.mp high⟩
  · obtain ⟨low, high⟩ := Bool.and_eq_true_iff.mp lower
    exact .inr ⟨UInt32.le_iff_toNat_le.mp (of_decide_eq_true low),
      UInt32.le_iff_toNat_le.mp (of_decide_eq_true high)⟩

/-- A digit is no letter. -/
theorem isAlpha_of_isDigit {c : Char} (digit : c.isDigit = true) : c.isAlpha = false := by
  have value := toNat_of_isDigit digit
  rw [Bool.eq_false_iff]
  intro letter
  have other := toNat_of_isAlpha letter
  omega

theorem ne_of_isDigit {c d : Char} (digit : c.isDigit = true) (other : d.isDigit = false)
    : c ≠ d := by
  rintro rfl
  rw [digit] at other
  cases other

/-- A run of digits is read as its value if that is below the limit. -/
theorem readNat?_eq_ite {limit : Nat} {ds : List Char} (filled : ds ≠ [])
    (digits : ∀ c ∈ ds, c.isDigit = true)
    : readNat? limit ds = if digitsValue ds < limit then some (digitsValue ds) else none := by
  have all : ds.all Char.isDigit = true := List.all_eq_true.mpr digits
  cases ds with
  | nil => exact absurd rfl filled
  | cons first rest =>
      have noPlus : first ≠ '+' := ne_of_isDigit (digits first List.mem_cons_self) rfl
      unfold readNat?
      split
      · next same => exact absurd (List.cons.inj same).1 noPlus
      · simp only [List.isEmpty_cons, all, Bool.not_true, Bool.or_self, Bool.false_eq_true,
          if_false]

theorem readNat?_of_isDigit {limit : Nat} {ds : List Char} (filled : ds ≠ [])
    (digits : ∀ c ∈ ds, c.isDigit = true) (below : digitsValue ds < limit)
    : readNat? limit ds = some (digitsValue ds) := by
  rw [readNat?_eq_ite filled digits, if_pos below]

/-- A natural number that is written out is read back if it is below the limit. -/
theorem readNat?_repr {limit n : Nat} (below : n < limit)
    : readNat? limit (Nat.repr n).toList = some n := by
  have value : digitsValue (Nat.toDigits 10 n) = n := by
    rw [digitsValue_eq, Nat.ofDigitChars_ten_toDigits]
  rw [Nat.toList_repr, readNat?_of_isDigit Nat.toDigits_ne_nil
    (fun _ => isDigit_of_mem_toDigits) (by rwa [value]), value]

/-- Different numbers are written differently. -/
theorem repr_injective {m n : Nat} (same : Nat.repr m = Nat.repr n) : m = n := by
  have digits := congrArg (fun s => Nat.ofDigitChars 10 s.toList 0) same
  simpa only [Nat.toList_repr, Nat.ofDigitChars_ten_toDigits] using digits

end Spreadsheet.Number
