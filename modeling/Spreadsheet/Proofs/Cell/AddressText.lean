import Spreadsheet.Proofs.Cell.AddressBounds
import Spreadsheet.Proofs.Number.DigitReading

/-! The texts of addresses and ranges are read back.
-/

namespace Spreadsheet

open Spreadsheet.Text Spreadsheet.Cell Spreadsheet.Number

-----------------------------------------------------------------------------------------
-- Texts without blanks
-----------------------------------------------------------------------------------------

namespace Text

theorem dropWhile_isBlank {s : List Char} (solid : ∀ c ∈ s, isBlank c = false)
    : s.dropWhile isBlank = s := by
  cases s with
  | nil => rfl
  | cons c rest => rw [List.dropWhile_cons, solid c List.mem_cons_self]; rfl

/-- Nothing is trimmed from a text without white space. -/
theorem trimChars_eq_self {s : List Char} (solid : ∀ c ∈ s, isBlank c = false)
    : trimChars s = s := by
  have reversed : ∀ c ∈ s.reverse, isBlank c = false :=
    fun c member => solid c (List.mem_reverse.mp member)
  rw [trimChars, trimStart, trimEnd, dropWhile_isBlank solid, dropWhile_isBlank reversed,
    List.reverse_reverse]

theorem trim_eq_self {s : String} (solid : ∀ c ∈ s.toList, isBlank c = false) : trim s = s := by
  rw [trim, trimChars_eq_self solid, String.ofList_toList]

/-- A text without a character of the class is one piece, by induction on it. -/
theorem splitAtEach_eq_singleton {p : Char → Bool} {s : List Char} (whole : ∀ c ∈ s, p c = false)
    : splitAtEach p s = [s] := by
  induction s with
  | nil => rfl
  | cons c rest ih =>
      rw [splitAtEach, whole c List.mem_cons_self,
        ih fun d member => whole d (List.mem_cons_of_mem c member)]
      rfl

theorem splitAtEach_ne_nil (p : Char → Bool) (s : List Char) : splitAtEach p s ≠ [] := by
  cases s with
  | nil => exact List.cons_ne_nil _ _
  | cons c rest =>
      rw [splitAtEach]
      split
      · exact List.cons_ne_nil _ _
      · split <;> exact List.cons_ne_nil _ _

/-- Pieces end at each character of the class, by induction on what stands before it. -/
theorem splitAtEach_append_cons {p : Char → Bool} (s : List Char) {c : Char} (stop : p c = true)
    (rest : List Char)
    : splitAtEach p (s ++ c :: rest) = splitAtEach p s ++ splitAtEach p rest := by
  induction s with
  | nil =>
      rw [List.nil_append, splitAtEach.eq_2, if_pos stop]
      rfl
  | cons d s ih =>
      rw [List.cons_append, splitAtEach, splitAtEach, ih]
      split
      · rfl
      · cases pieces : splitAtEach p s with
        | nil => exact absurd pieces (splitAtEach_ne_nil p s)
        | cons piece others => rfl

/-- The first piece ends at the first character of the class. -/
theorem splitAtEach_append {p : Char → Bool} {s : List Char} (whole : ∀ c ∈ s, p c = false)
    {c : Char} (stop : p c = true) (rest : List Char)
    : splitAtEach p (s ++ c :: rest) = s :: splitAtEach p rest := by
  rw [splitAtEach_append_cons s stop, splitAtEach_eq_singleton whole, List.singleton_append]

/-- No piece holds a character of the class. -/
theorem not_of_mem_splitAtEach {p : Char → Bool} {s piece : List Char}
    (member : piece ∈ splitAtEach p s) {c : Char} (inside : c ∈ piece)
    : p c = false := by
  induction s generalizing piece with
  | nil =>
      cases List.mem_singleton.mp member
      cases inside
  | cons d rest ih =>
      rw [splitAtEach] at member
      split at member
      · rcases List.mem_cons.mp member with rfl | later
        · cases inside
        · exact ih later inside
      · next whole =>
          have fresh : p d = false := Bool.not_eq_true _ ▸ whole
          split at member
          · next none => exact absurd none (splitAtEach_ne_nil p rest)
          · next first others pieces =>
              rw [pieces] at ih
              rcases List.mem_cons.mp member with rfl | later
              · rcases List.mem_cons.mp inside with rfl | behind
                · exact fresh
                · exact ih List.mem_cons_self behind
              · exact ih (List.mem_cons_of_mem _ later) inside

end Text

namespace Cell

-----------------------------------------------------------------------------------------
-- Column letters
-----------------------------------------------------------------------------------------

theorem lettersBefore_eq_append (known : List Char) (n : Nat)
    : lettersBefore known n = lettersBefore [] n ++ known := by
  induction n using Nat.strongRecOn generalizing known with
  | ind n ih =>
      rw [lettersBefore, lettersBefore.eq_def []]
      split
      · rfl
      · rw [ih _ (by omega), ih _ (by omega) [_], List.append_assoc]
        rfl

/-- Column letters are neither white space nor one of the signs of addresses. -/
structure IsColumnLetter (c : Char) : Prop where
  isAlpha : c.isAlpha = true
  notBlank : isBlank c = false
  notDollar : c ≠ '$'
  notColon : c ≠ ':'

/-- The letter of each digit in base 26 is worth one more than the digit. -/
theorem isColumnLetter_ofNat (k : Fin 26)
    : IsColumnLetter (Char.ofNat ('A'.toNat + k))
      ∧ letterValue (Char.ofNat ('A'.toNat + k)) = k + 1 := by
  have all : ∀ k : Fin 26, ((Char.ofNat ('A'.toNat + k)).isAlpha = true
      ∧ isBlank (Char.ofNat ('A'.toNat + k)) = false ∧ Char.ofNat ('A'.toNat + k) ≠ '$'
      ∧ Char.ofNat ('A'.toNat + k) ≠ ':') ∧ letterValue (Char.ofNat ('A'.toNat + k)) = k + 1 := by
    decide
  obtain ⟨⟨isAlpha, notBlank, notDollar, notColon⟩, value⟩ := all k
  exact ⟨⟨isAlpha, notBlank, notDollar, notColon⟩, value⟩

/-- The last letter of a number is that of its last digit. -/
theorem lettersBefore_of_pos {n : Nat} (positive : n ≠ 0)
    : ∃ c, IsColumnLetter c ∧ letterValue c = (n - 1) % 26 + 1
      ∧ lettersBefore [] n = lettersBefore [] ((n - 1) / 26) ++ [c] := by
  have letter := isColumnLetter_ofNat ⟨(n - 1) % 26, Nat.mod_lt _ (by decide)⟩
  refine ⟨_, letter.1, letter.2, ?_⟩
  rw [lettersBefore, if_neg positive, lettersBefore_eq_append]

/-- All letters of a column are letters, by induction on the number. -/
theorem isColumnLetter_of_mem {n : Nat} {c : Char} (member : c ∈ lettersBefore [] n)
    : IsColumnLetter c := by
  induction n using Nat.strongRecOn with
  | ind n ih =>
      by_cases zero : n = 0
      · rw [zero, lettersBefore, if_pos rfl] at member
        cases member
      · obtain ⟨last, letter, -, spelled⟩ := lettersBefore_of_pos zero
        rw [spelled, List.mem_append, List.mem_singleton] at member
        rcases member with member | rfl
        · exact ih _ (by omega) member
        · exact letter

/-- Reading the letters of a number gives the number, whatever follows them. The induction is on
the number, which loses its last digit to what follows.
-/
theorem lettersValue_lettersBefore {n : Nat} (inside : n ≤ maxColumns) (rest : List Char)
    : lettersValue 0 (lettersBefore [] n ++ rest) = lettersValue n rest := by
  induction n using Nat.strongRecOn generalizing rest with
  | ind n ih =>
      by_cases zero : n = 0
      · rw [zero, lettersBefore, if_pos rfl, List.nil_append]
      · obtain ⟨last, letter, value, spelled⟩ := lettersBefore_of_pos zero
        have whole : (n - 1) / 26 * 26 + letterValue last = n := by
          rw [value]
          omega
        rw [spelled, List.append_assoc, ih _ (by omega) (by omega), List.singleton_append,
          lettersValue, letter.isAlpha, whole]
        simp only [Bool.not_true, Bool.false_eq_true, if_false, Nat.not_lt.mpr inside]

theorem toList_columnLetters (column : Nat)
    : (columnLetters column).toList = lettersBefore [] (column + 1) := String.toList_ofList

theorem columnLetters_ne_nil (column : Nat) : (columnLetters column).toList ≠ [] := by
  obtain ⟨_, _, _, spelled⟩ := lettersBefore_of_pos (Nat.succ_ne_zero column)
  rw [toList_columnLetters, spelled]
  exact List.append_ne_nil_of_right_ne_nil _ (List.cons_ne_nil _ _)

theorem isColumnLetter_of_mem_columnLetters {column : Nat} {c : Char}
    (member : c ∈ (columnLetters column).toList)
    : IsColumnLetter c := by
  rw [toList_columnLetters] at member
  exact isColumnLetter_of_mem member

/-- The letters of a column name it. -/
theorem columnIndex_columnLetters {column : Nat} (inside : column < maxColumns)
    : columnIndex (columnLetters column) = .ok column := by
  have read := lettersValue_lettersBefore (n := column + 1) inside []
  have filled := columnLetters_ne_nil column
  rw [List.append_nil, ← toList_columnLetters] at read
  rw [columnIndex, trimChars_eq_self fun c member =>
    (isColumnLetter_of_mem_columnLetters member).notBlank]
  rw [List.isEmpty_eq_false_iff.mpr filled, read]
  rfl

-----------------------------------------------------------------------------------------
-- Addresses
-----------------------------------------------------------------------------------------

namespace Address

variable {a : Address}

theorem toList_text (a : Address)
    : a.text.toList = (columnLetters a.column).toList ++ Nat.toDigits 10 a.rowNumber := by
  rw [text, String.toList_append, Nat.toList_repr]

/-- The text of an address holds no white space and no sign but letters and digits. -/
theorem of_mem_text {c : Char} (member : c ∈ a.text.toList)
    : isBlank c = false ∧ c ≠ '$' ∧ c ≠ ':' := by
  rw [toList_text, List.mem_append] at member
  rcases member with member | member
  · have letter := isColumnLetter_of_mem_columnLetters member
    exact ⟨letter.notBlank, letter.notDollar, letter.notColon⟩
  · have digit := isDigit_of_mem_toDigits member
    exact ⟨isBlank_of_isDigit digit, ne_of_isDigit digit rfl, ne_of_isDigit digit rfl⟩

/-- Letters end where digits start. -/
theorem span_isAlpha {letters digits : List Char} (alpha : ∀ c ∈ letters, c.isAlpha = true)
    (digit : ∀ c ∈ digits, c.isDigit = true)
    : (letters ++ digits).takeWhile Char.isAlpha = letters
      ∧ (letters ++ digits).dropWhile Char.isAlpha = digits := by
  rw [List.takeWhile_append_of_pos alpha, List.dropWhile_append_of_pos alpha]
  cases digits with
  | nil => exact ⟨List.append_nil _, rfl⟩
  | cons first rest =>
      have noLetter := isAlpha_of_isDigit (digit first List.mem_cons_self)
      simp only [List.takeWhile_cons, List.dropWhile_cons, noLetter, Bool.false_eq_true, if_false,
        List.append_nil, and_self]

theorem span_isAlpha_text (a : Address)
    : a.text.toList.takeWhile Char.isAlpha = (columnLetters a.column).toList
      ∧ a.text.toList.dropWhile Char.isAlpha = Nat.toDigits 10 a.rowNumber := by
  rw [toList_text]
  exact span_isAlpha (fun _ member => (isColumnLetter_of_mem_columnLetters member).isAlpha)
    fun _ member => isDigit_of_mem_toDigits member

/-- An address on a sheet is read back from its text, whatever dollar signs stand in it. -/
theorem parse_of_filter {s : String} (onSheet : a.OnSheet)
    (solid : ∀ c ∈ s.toList, isBlank c = false)
    (cleaned : s.toList.filter (· != '$') = a.text.toList)
    : parse s = .ok a := by
  have trimmed : trimChars s.toList = s.toList := trimChars_eq_self solid
  obtain ⟨letters, digits⟩ := span_isAlpha_text a
  have number := readNat?_repr onSheet.isNumbered
  rw [Nat.toList_repr] at number
  have row : rowIndex a.rowNumber = .ok a.row := by
    rw [rowNumber, rowIndex, if_neg (Nat.succ_ne_zero _), Nat.add_sub_cancel,
      if_neg (Nat.not_le.mpr onSheet.row)]
  have named : (Nat.toDigits 10 a.rowNumber).isEmpty = false :=
    List.isEmpty_eq_false_iff.mpr Nat.toDigits_ne_nil
  have lettered : (columnLetters a.column).toList.isEmpty = false :=
    List.isEmpty_eq_false_iff.mpr (columnLetters_ne_nil a.column)
  have all : (Nat.toDigits 10 a.rowNumber).all Char.isDigit = true :=
    List.all_eq_true.mpr fun _ member => isDigit_of_mem_toDigits member
  simp only [parse, trimmed, cleaned, letters, digits, named, lettered, all, String.ofList_toList,
    columnIndex_columnLetters onSheet.column, number, row]
  rfl

/-- The text of an address on a sheet is read back. -/
theorem parse_text (onSheet : a.OnSheet) : parse a.text = .ok a :=
  parse_of_filter onSheet (fun _ member => (of_mem_text member).1)
    (List.filter_eq_self.mpr fun _ member => bne_iff_ne.mpr (of_mem_text member).2.1)

end Address

-----------------------------------------------------------------------------------------
-- Ranges
-----------------------------------------------------------------------------------------

namespace Range

variable {r : Range}

/-- The range between the corners that are named, in whatever order they stand. -/
def normalized (r : Range) : Range := ofCorners r.topLeft r.bottomRight

/-- The text is neither blank anywhere nor cut by a colon. -/
def IsCorner (s : String) : Prop := ∀ c ∈ s.toList, isBlank c = false ∧ c ≠ ':'

theorem IsCorner.noColon {s : String} (corner : IsCorner s) : ∀ c ∈ s.toList, (c == ':') = false :=
  fun c member => beq_false_of_ne (corner c member).2

/-- A single corner is read as a range of one cell. -/
theorem parse_corner {s : String} {a : Address} (corner : IsCorner s)
    (read : Address.parse s = .ok a)
    : parse s = .ok (.single a) := by
  have trimmed : trim s = s := trim_eq_self fun c member => (corner c member).1
  have pieces : splitAtChar ':' s = [s] := by
    rw [splitAtChar, splitAtEach_eq_singleton corner.noColon, List.map_singleton,
      String.ofList_toList]
  simp only [parse, trimmed, pieces, read]
  rfl

/-- Two corners are read with a colon between them, in whatever order they stand. -/
theorem parse_corners {s t : String} {a b : Address} (corner : IsCorner s) (corner' : IsCorner t)
    (read : Address.parse s = .ok a) (read' : Address.parse t = .ok b)
    : parse (s ++ ":" ++ t) = .ok (ofCorners a b) := by
  have solid : ∀ c ∈ (s ++ ":" ++ t).toList, isBlank c = false := by
    intro c member
    simp only [String.toList_append, List.mem_append] at member
    rcases member with (member | member) | member
    · exact (corner c member).1
    · cases List.mem_singleton.mp member
      decide
    · exact (corner' c member).1
  have pieces : splitAtChar ':' (s ++ ":" ++ t) = [s, t] := by
    have spelled : (s ++ ":" ++ t).toList = s.toList ++ ':' :: t.toList := by
      simp only [String.toList_append, List.append_assoc]
      rfl
    rw [splitAtChar, spelled, splitAtEach_append corner.noColon (beq_self_eq_true ':'),
      splitAtEach_eq_singleton corner'.noColon]
    simp only [List.map_cons, List.map_nil, String.ofList_toList]
  simp only [parse, trim_eq_self solid, pieces, read, read']
  rfl

/-- The range of one cell has its corners in order. -/
theorem normalized_of_isSingle (single : r.isSingle = true) : r.normalized = .single r.topLeft := by
  have same : r.topLeft = r.bottomRight := beq_iff_eq.mp single
  rw [normalized, ← same, ofCorners, Nat.min_self, Nat.max_self, Nat.min_self, Nat.max_self]
  rfl

/-- The text of a range on a sheet is read back with its corners in order. -/
theorem parse_text (onSheet : r.OnSheet) : parse r.text = .ok r.normalized := by
  have corner : ∀ a : Address, IsCorner a.text := fun _ _ member =>
    ⟨(Address.of_mem_text member).1, (Address.of_mem_text member).2.2⟩
  have topLeft := Address.parse_text onSheet.topLeft
  have bottomRight := Address.parse_text onSheet.bottomRight
  rw [text]
  split
  · next single => rw [normalized_of_isSingle single, parse_corner (corner _) topLeft]
  · exact parse_corners (corner _) (corner _) topLeft bottomRight

theorem normalized_ofCorners (a b : Address) : (ofCorners a b).normalized = ofCorners a b := by
  simp only [normalized, ofCorners, Range.mk.injEq, Address.mk.injEq]
  omega

/-- A range that is read has its corners in order. -/
theorem normalized_of_parse {s : String} (read : parse s = .ok r) : r.normalized = r := by
  simp only [parse] at read
  split at read
  · obtain ⟨a, -, read⟩ := bind_eq_ok.mp read
    cases read
    simp [normalized, ofCorners, single]
  · obtain ⟨a, -, read⟩ := bind_eq_ok.mp read
    obtain ⟨b, -, read⟩ := bind_eq_ok.mp read
    cases read
    exact normalized_ofCorners a b
  · cases read

end Range

end Cell

end Spreadsheet
