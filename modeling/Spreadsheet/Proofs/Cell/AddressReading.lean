import Mathlib.Data.List.Shortlex
import Mathlib.Data.List.TakeWhile
import Mathlib.Data.Nat.Digits.Defs
import Spreadsheet.Proofs.Cell.AddressText

/-! Which texts are addresses: column letters in bijective base 26 before a row number. The value
of letters is defined by their places here, apart from the loop that reads them, and the letters
of columns grow with the column. Numbers on the way stay small however many letters there are.
-/

namespace Spreadsheet.Cell

open Spreadsheet.Text Spreadsheet.Number

-----------------------------------------------------------------------------------------
-- The value of letters
-----------------------------------------------------------------------------------------

/-- The number of a run of letters in bijective base 26, where no letter is worth nothing: each
is worth its place in the alphabet, 26 times as much for each letter behind it.
-/
def lettersNumber (letters : List Char) : Nat :=
  Nat.ofDigits 26 (letters.reverse.map letterValue)

theorem lettersNumber_cons (c : Char) (rest : List Char)
    : lettersNumber (c :: rest) = letterValue c * 26 ^ rest.length + lettersNumber rest := by
  rw [lettersNumber, List.reverse_cons, List.map_append, Nat.ofDigits_append, List.length_map,
    List.length_reverse, List.map_singleton, Nat.ofDigits_singleton, Nat.add_comm, Nat.mul_comm,
    lettersNumber]

example : lettersNumber ['X', 'f', 'd'] = maxColumns := by decide

/-- No letters are worth nothing, if there are any. -/
theorem one_le_lettersNumber {letters : List Char} (filled : letters ≠ [])
    : 1 ≤ lettersNumber letters := by
  cases letters with
  | nil => exact absurd rfl filled
  | cons c rest =>
      have first : 1 ≤ letterValue c := Nat.le_add_left 1 _
      rw [lettersNumber_cons]
      exact Nat.le_add_right_of_le (Nat.mul_pos first (Nat.pow_pos (by decide)))

theorem letterValue_le {c : Char} (letter : c.isAlpha = true) : letterValue c ≤ 26 := by
  have all : ∀ k : Fin 58, (Char.ofNat (65 + k)).isAlpha = true →
      letterValue (Char.ofNat (65 + k)) ≤ 26 := by decide
  have range := toNat_of_isAlpha letter
  have same : Char.ofNat (65 + (c.toNat - 65)) = c := by
    rw [Nat.add_sub_cancel' (by omega), Char.ofNat_toNat]
  have bounded := all ⟨c.toNat - 65, by omega⟩
  simp only [same] at bounded
  exact bounded letter

/-- Letters are read with their value behind what was read before, unless that is beyond the last
column. The induction is on the letters; the early end of the reading loses nothing, because more
letters only make the value greater.
-/
theorem lettersValue_eq_ok_iff {letters : List Char} {n value : Nat} (start : n ≤ maxColumns)
    : lettersValue n letters = .ok value ↔
      (∀ c ∈ letters, c.isAlpha = true)
      ∧ n * 26 ^ letters.length + lettersNumber letters = value ∧ value ≤ maxColumns := by
  induction letters generalizing n with
  | nil =>
      have whole : n * 26 ^ ([] : List Char).length + lettersNumber [] = n :=
        Nat.mul_one n
      rw [lettersValue, whole, Except.ok.injEq]
      constructor
      · rintro rfl
        exact ⟨fun _ member => absurd member List.not_mem_nil, rfl, start⟩
      · exact fun read => read.2.1
  | cons c rest ih =>
      have whole : n * 26 ^ (c :: rest).length + lettersNumber (c :: rest)
          = (n * 26 + letterValue c) * 26 ^ rest.length + lettersNumber rest := by
        rw [lettersNumber_cons, List.length_cons, Nat.pow_succ]
        ring
      rw [whole, List.forall_mem_cons, lettersValue]
      by_cases letter : c.isAlpha = true
      · by_cases beyond : maxColumns < n * 26 + letterValue c
        · have grown : n * 26 + letterValue c ≤ (n * 26 + letterValue c) * 26 ^ rest.length :=
            Nat.le_mul_of_pos_right _ (Nat.pow_pos (by decide))
          simp only [letter, beyond, Bool.not_true, Bool.false_eq_true, if_false, if_true,
            reduceCtorEq, false_iff]
          omega
        · simp only [letter, beyond, Bool.not_true, Bool.false_eq_true, if_false,
            ih (Nat.not_lt.mp beyond), true_and]
      · simp only [letter, Bool.not_false, if_true, reduceCtorEq, false_and]

/-- The value of column letters with numbers that have to stay below a limit: there is none if a
product or a sum on the way does not.
-/
def lettersValueBelow? (limit n : Nat) : List Char → Option (Except AddressError Nat)
  | [] => some (.ok n)
  | c :: rest =>
    if !c.isAlpha then some (.error (.badColumnLetter c))
    else if limit ≤ n * 26 ∨ limit ≤ n * 26 + letterValue c then none
    else
      let n := n * 26 + letterValue c
      if maxColumns < n then some (.error (.columnOutOfBounds (n - 1)))
      else lettersValueBelow? limit n rest

/-- No number grows large, by induction on the letters: one that is beyond the last column is
the last one.
-/
theorem lettersValueBelow?_eq {limit : Nat} (room : maxColumns * 26 + 26 < limit)
    (letters : List Char) {n : Nat} (start : n ≤ maxColumns)
    : lettersValueBelow? limit n letters = some (lettersValue n letters) := by
  induction letters generalizing n with
  | nil => rfl
  | cons c rest ih =>
      rw [lettersValueBelow?, lettersValue]
      by_cases letter : c.isAlpha = true
      · have value := letterValue_le letter
        have small : ¬(limit ≤ n * 26 ∨ limit ≤ n * 26 + letterValue c) := by omega
        by_cases beyond : maxColumns < n * 26 + letterValue c
        · simp only [letter, small, beyond, Bool.not_true, Bool.false_eq_true, if_false, if_true]
        · simp only [letter, small, beyond, Bool.not_true, Bool.false_eq_true, if_false,
            ih (Nat.not_lt.mp beyond)]
      · simp only [letter, Bool.not_false, if_true]

-----------------------------------------------------------------------------------------
-- The order of columns
-----------------------------------------------------------------------------------------

/-- Shorter texts first, and texts of one length as in a dictionary. -/
abbrev ShortlexBefore (s t : List Char) : Prop := List.Shortlex (· < ·) s t

/-- What decides the order of two texts of one length decides it whatever follows. -/
theorem lex_append {s t : List Char} (sameLength : s.length = t.length)
    (before : List.Lex (· < ·) s t) (u v : List Char)
    : List.Lex (· < ·) (s ++ u) (t ++ v) := by
  induction before with
  | nil => cases sameLength
  | cons _ ih => exact .cons (ih (Nat.succ.inj sameLength))
  | rel less => exact .rel less

theorem ShortlexBefore.concat {s t : List Char} (before : ShortlexBefore s t) (c d : Char)
    : ShortlexBefore (s ++ [c]) (t ++ [d]) := by
  rcases List.shortlex_def.mp before with shorter | ⟨sameLength, before⟩
  · exact .of_length_lt (by simpa using shorter)
  · exact .of_lex (by simpa using sameLength) (lex_append sameLength before [c] [d])

/-- The last letter of a number is that of its last digit, the others are those of what is left
of it.
-/
theorem lettersBefore_eq_concat {n : Nat} (positive : n ≠ 0)
    : lettersBefore [] n
      = lettersBefore [] ((n - 1) / 26) ++ [Char.ofNat ('A'.toNat + (n - 1) % 26)] := by
  rw [lettersBefore, if_neg positive, lettersBefore_eq_append]

theorem letter_lt_letter (j k : Fin 26) (less : j < k)
    : Char.ofNat ('A'.toNat + j) < Char.ofNat ('A'.toNat + k) := by
  revert j k
  decide

/-- The letters of a greater number come later, by induction on it: numbers that differ before
their last digit are told apart there, and all others by their last letter.
-/
theorem shortlexBefore_lettersBefore {m n : Nat} (less : m < n)
    : ShortlexBefore (lettersBefore [] m) (lettersBefore [] n) := by
  induction n using Nat.strongRecOn generalizing m with
  | ind n ih =>
      rw [lettersBefore_eq_concat (n := n) (by omega)]
      by_cases zero : m = 0
      · rw [zero, lettersBefore, if_pos rfl]
        exact .of_length_lt (by simp)
      · rw [lettersBefore_eq_concat zero]
        rcases Nat.lt_or_eq_of_le (Nat.div_le_div_right (c := 26) (Nat.sub_le_sub_right less.le 1))
          with front | front
        · exact (ih _ (by omega) front).concat _ _
        · rw [front]
          have last := letter_lt_letter ⟨(m - 1) % 26, Nat.mod_lt _ (by decide)⟩
            ⟨(n - 1) % 26, Nat.mod_lt _ (by decide)⟩ (by
              rw [Fin.mk_lt_mk]
              omega)
          exact .append_left ((List.shortlex_singleton_iff _ _).mpr last) _

/-- Columns stand in the order of their letters. -/
theorem shortlexBefore_columnLetters_iff (first second : Nat)
    : ShortlexBefore (columnLetters first).toList (columnLetters second).toList
      ↔ first < second := by
  rw [toList_columnLetters, toList_columnLetters]
  constructor
  · intro before
    by_contra later
    rcases Nat.lt_or_eq_of_le (Nat.not_lt.mp later) with less | same
    · exact asymm before (shortlexBefore_lettersBefore (Nat.succ_lt_succ less))
    · exact irrefl _ (same ▸ before)
  · exact fun less => shortlexBefore_lettersBefore (Nat.succ_lt_succ less)

/-- No two columns have the same letters. -/
theorem columnLetters_injective : Function.Injective columnLetters := by
  intro first second same
  by_contra other
  rcases Nat.lt_or_gt_of_ne other with less | less
  · exact irrefl _ (same ▸ (shortlexBefore_columnLetters_iff first second).mpr less)
  · exact irrefl _ (same ▸ (shortlexBefore_columnLetters_iff second first).mpr less)

-----------------------------------------------------------------------------------------
-- Texts of addresses
-----------------------------------------------------------------------------------------

/-- A letter is no white space. -/
theorem isBlank_of_isAlpha {c : Char} (letter : c.isAlpha = true) : isBlank c = false := by
  have value := toNat_of_isAlpha letter
  simp [isBlank]
  omega

/-- A run of letters names a column if its value is that of one, counted from one. -/
theorem columnIndex_ofList_eq_ok_iff {letters : List Char} {column : Nat} (filled : letters ≠ [])
    (all : ∀ c ∈ letters, c.isAlpha = true)
    : columnIndex (String.ofList letters) = .ok column ↔
      lettersNumber letters = column + 1 ∧ column + 1 ≤ maxColumns := by
  have trimmed : trimChars letters = letters :=
    trimChars_eq_self fun c member => isBlank_of_isAlpha (all c member)
  have positive := one_le_lettersNumber filled
  rw [columnIndex, String.toList_ofList, trimmed, if_neg (by simpa using filled), map_eq_ok]
  simp only [lettersValue_eq_ok_iff (Nat.zero_le maxColumns), Nat.zero_mul, Nat.zero_add]
  constructor
  · rintro ⟨_, ⟨-, rfl, inside⟩, rfl⟩
    omega
  · rintro ⟨value, inside⟩
    exact ⟨column + 1, ⟨all, value, inside⟩, rfl⟩

/-- A row number is that of a row of a sheet, counted from one. -/
theorem rowIndex_eq_ok_iff {number row : Nat}
    : rowIndex number = .ok row ↔ number = row + 1 ∧ row + 1 ≤ maxRows := by
  simp only [rowIndex]
  split
  · simp only [reduceCtorEq, false_iff]
    omega
  · split
    · simp only [reduceCtorEq, false_iff]
      omega
    · next zero inside =>
        rw [Except.ok.injEq]
        omega

namespace Address

/-- A text spells the position of a sheet by letters that are worth its column and then by digits
that are worth its row, both counted from one.
-/
structure Spelling (a : Address) (text letters digits : List Char) : Prop where
  text_eq : text = letters ++ digits
  lettered : letters ≠ []
  isAlpha : ∀ c ∈ letters, c.isAlpha = true
  column : lettersNumber letters = a.column + 1
  column_le : a.column + 1 ≤ maxColumns
  numbered : digits ≠ []
  isDigit : ∀ c ∈ digits, c.isDigit = true
  row : Nat.ofDigitChars 10 digits 0 = a.row + 1
  row_le : a.row + 1 ≤ maxRows

variable {s : String} {a : Address}

/-- What is left of a text without the white space around it and the dollar signs in it. -/
def cleaned (s : String) : List Char := (trimChars s.toList).filter (· != '$')

/-- Letters and digits are read as the position whose column and row they are the numbers of. -/
theorem parse_eq_ok_iff_of_span {letters digits : List Char}
    (split : cleaned s = letters ++ digits) (lettered : letters ≠ [])
    (alpha : ∀ c ∈ letters, c.isAlpha = true) (numbered : digits ≠ [])
    (digit : ∀ c ∈ digits, c.isDigit = true)
    : parse s = .ok a ↔
      (lettersNumber letters = a.column + 1 ∧ a.column + 1 ≤ maxColumns)
      ∧ Nat.ofDigitChars 10 digits 0 = a.row + 1 ∧ a.row + 1 ≤ maxRows := by
  obtain ⟨front, back⟩ := span_isAlpha alpha digit
  have someLetter : letters.isEmpty = false := List.isEmpty_eq_false_iff.mpr lettered
  have someDigit : digits.isEmpty = false := List.isEmpty_eq_false_iff.mpr numbered
  have all : digits.all Char.isDigit = true := List.all_eq_true.mpr digit
  rw [← columnIndex_ofList_eq_ok_iff lettered alpha, ← rowIndex_eq_ok_iff, ← digitsValue_eq]
  rw [cleaned] at split
  simp only [parse, split, front, back, someLetter, someDigit, all, Bool.not_true,
    Bool.false_eq_true, if_false, readNat?_eq_ite numbered digit, bind_eq_ok]
  constructor
  · rintro ⟨column, columnRead, read⟩
    split at read
    · cases read
    · next number found =>
        obtain ⟨row, rowRead, same⟩ := bind_eq_ok.mp read
        cases same
        obtain ⟨-, value⟩ := Option.ite_none_right_eq_some.mp found
        cases value
        exact ⟨columnRead, rowRead⟩
  · rintro ⟨columnRead, rowRead⟩
    have below : digitsValue digits < rowNumberLimit := by
      have bounded := rowIndex_eq_ok_iff.mp rowRead
      exact Nat.lt_of_le_of_lt (bounded.1 ▸ bounded.2) (by decide)
    refine ⟨a.column, columnRead, ?_⟩
    rw [if_pos below]
    exact bind_eq_ok.mpr ⟨a.row, rowRead, rfl⟩

/-- What is read has letters in front, and digits are all that follows them. -/
theorem span_of_parse (read : parse s = .ok a)
    : (cleaned s).takeWhile Char.isAlpha ≠ [] ∧ (cleaned s).dropWhile Char.isAlpha ≠ []
      ∧ ∀ c ∈ (cleaned s).dropWhile Char.isAlpha, c.isDigit = true := by
  simp only [parse] at read
  split at read
  · cases read
  split at read
  · cases read
  split at read
  · cases read
  next numbered lettered all =>
    refine ⟨fun none => lettered (List.isEmpty_iff.mpr none),
      fun none => numbered (List.isEmpty_iff.mpr none), ?_⟩
    simpa [cleaned] using all

/-- A text is an address if, cleaned, it spells one. -/
theorem parse_eq_ok_iff
    : parse s = .ok a ↔ ∃ letters digits, a.Spelling (cleaned s) letters digits := by
  constructor
  · intro read
    have parts : cleaned s
        = (cleaned s).takeWhile Char.isAlpha ++ (cleaned s).dropWhile Char.isAlpha :=
      List.takeWhile_append_dropWhile.symm
    have alpha : ∀ c ∈ (cleaned s).takeWhile Char.isAlpha, c.isAlpha = true :=
      fun _ member => List.mem_takeWhile_imp member
    obtain ⟨lettered, numbered, digit⟩ := span_of_parse read
    obtain ⟨⟨column, column_le⟩, row, row_le⟩ :=
      (parse_eq_ok_iff_of_span parts lettered alpha numbered digit).mp read
    exact ⟨_, _, parts, lettered, alpha, column, column_le, numbered, digit, row, row_le⟩
  · rintro ⟨letters, digits, spelled⟩
    exact (parse_eq_ok_iff_of_span spelled.text_eq spelled.lettered spelled.isAlpha
      spelled.numbered spelled.isDigit).mpr
      ⟨⟨spelled.column, spelled.column_le⟩, spelled.row, spelled.row_le⟩

/-- Texts are read as the addresses that they spell, and no others are. So the text of each
position of a sheet is read back, the letters of columns are in the order of the columns and all
different, and no run of letters, however long, leads to a number that a word does not hold.
-/
theorem parse_bijectiveBase26
    : (∀ s a, parse s = .ok a ↔ ∃ letters digits, a.Spelling (cleaned s) letters digits)
      ∧ (∀ a : Address, a.OnSheet → parse a.text = .ok a)
      ∧ Function.Injective columnLetters
      ∧ (∀ first second, ShortlexBefore (columnLetters first).toList (columnLetters second).toList
          ↔ first < second)
      ∧ ∀ letters, lettersValueBelow? (wordLimit 32) 0 letters = some (lettersValue 0 letters) :=
  ⟨fun _ _ => parse_eq_ok_iff, fun _ onSheet => parse_text onSheet, columnLetters_injective,
    shortlexBefore_columnLetters_iff,
    fun letters => lettersValueBelow?_eq (by decide) letters (Nat.zero_le _)⟩

end Address

end Spreadsheet.Cell
