import Spreadsheet.Proofs.Cell.AddressText
import Spreadsheet.Proofs.Number.NumberReading
import Spreadsheet.Proofs.Time.Calendar
import Spreadsheet.Time.Reader
import Spreadsheet.Time.Text

/-! Timestamps that are written to the second are read back. Their fields have as many digits as a
reader of timestamps takes, and no year has more as long as it is one of the first ten thousand.
-/

namespace Spreadsheet.Time

open Spreadsheet.Number

-----------------------------------------------------------------------------------------
-- Fields
-----------------------------------------------------------------------------------------

section Fields

variable {width n : Nat}

theorem toList_padded
    : (padded width n).toList
      = zeros (width - (Nat.toDigits 10 n).length) ++ Nat.toDigits 10 n :=
  String.toList_ofList

theorem isDigit_of_mem_padded {c : Char} (member : c ∈ (padded width n).toList)
    : c.isDigit = true := by
  rw [toList_padded] at member
  rcases List.mem_append.mp member with zero | digit
  · exact isDigit_of_mem_zeros zero
  · exact isDigit_of_mem_toDigits digit

/-- A field is filled up to its width. -/
theorem length_padded (positive : 0 < width) (fits : n < 10 ^ width)
    : (padded width n).toList.length = width := by
  have short : (Nat.toDigits 10 n).length ≤ width :=
    (Nat.length_toDigits_le_iff (by decide) positive).mpr fits
  rw [toList_padded, List.length_append, zeros, List.length_replicate]
  omega

theorem digitsValue_padded : digitsValue (padded width n).toList = n := by
  rw [toList_padded, digitsValue_eq, Nat.ofDigitChars_append, zeros,
    Nat.ofDigitChars_replicate_zero, Nat.mul_zero, Nat.ofDigitChars_ten_toDigits]

/-- A field is read back, and what stands behind it is left. -/
theorem readExactDigits?_padded (positive : 0 < width) (fits : n < 10 ^ width) (rest : List Char)
    : readExactDigits? width ((padded width n).toList ++ rest) = some (n, rest) := by
  have length := length_padded positive fits
  have digits : (padded width n).toList.all Char.isDigit = true :=
    List.all_eq_true.mpr fun _ => isDigit_of_mem_padded
  rw [readExactDigits?, List.take_left' length, List.drop_left' length]
  simp only [length, digits, decide_true, Bool.and_self, if_true, digitsValue_padded]

end Fields

-----------------------------------------------------------------------------------------
-- Moments
-----------------------------------------------------------------------------------------

namespace DateTime

/-- A moment that a timestamp to the second can name: a whole second of a day that exists, in one of
the first ten thousand years. A leap second follows the last second of a minute.
-/
structure IsStampable (t : DateTime) : Prop where
  date : t.date.isValid
  year : 0 ≤ t.date.year ∧ t.date.year ≤ 9999
  second : t.second < 86400
  whole : t.nanosecond = 0 ∨ t.nanosecond = 1000000000 ∧ t.second % 60 = 59

variable {t : DateTime}

theorem IsStampable.fields_lt (stampable : t.IsStampable)
    : t.date.month < 10 ^ 2 ∧ t.date.day < 10 ^ 2 :=
  (Date.isCalendarDay_of_isValid stampable.date).fields_lt

/-- The hours, minutes and seconds of a moment give it back, on its date. -/
theorem IsStampable.of?_eq (stampable : t.IsStampable)
    : of? t.date (t.second / 3600) (t.second / 60 % 60)
        (t.second % 60 + t.nanosecond / 1000000000) 0 = some t := by
  obtain ⟨date, second, nanosecond⟩ := t
  have below : second < 86400 := stampable.second
  have hours : second / 3600 < 24 := by omega
  have minutes : second / 60 % 60 < 60 := by omega
  have seconds : second % 60 < 60 := by omega
  have whole : 3600 * (second / 3600) + 60 * (second / 60 % 60) + second % 60 = second := by omega
  rcases stampable.whole with zero | ⟨leap, last⟩
  · cases (zero : nanosecond = 0)
    simp only [of?, Nat.zero_div, Nat.add_zero]
    rw [if_neg (by simp; omega), if_neg (by omega), whole]
  · cases (leap : nanosecond = 1000000000)
    have last : second % 60 = 59 := last
    rw [last] at whole
    simp only [of?, last]
    rw [if_neg (by simp; omega)]
    simp only [if_true, whole]

/-- A timestamp field by field, with what stands behind it. -/
theorem toList_toSecondText (years : 0 ≤ t.date.year ∧ t.date.year ≤ 9999) (rest : List Char)
    : t.toSecondText.toList ++ rest
      = (padded 4 t.date.year.natAbs).toList ++ '-' ::
        ((padded 2 t.date.month).toList ++ '-' ::
        ((padded 2 t.date.day).toList ++ 'T' ::
        ((padded 2 (t.second / 3600)).toList ++ ':' ::
        ((padded 2 (t.second / 60 % 60)).toList ++ ':' ::
        ((padded 2 (t.second % 60 + t.nanosecond / 1000000000)).toList ++ rest))))) := by
  have unsigned : yearText t.date.year = padded 4 t.date.year.natAbs := by
    rw [yearText, if_neg (by omega), if_neg (by omega), String.empty_append]
  simp [toSecondText, Date.hyphenated, unsigned, List.append_assoc]

theorem of_mem_toSecondText (years : 0 ≤ t.date.year ∧ t.date.year ≤ 9999) {c : Char}
    (member : c ∈ t.toSecondText.toList)
    : c.isDigit = true ∨ c ∈ ['-', ':', 'T'] := by
  have fields := toList_toSecondText years []
  rw [List.append_nil] at fields
  rw [fields] at member
  simp only [List.mem_append, List.mem_cons, List.not_mem_nil, or_false] at member ⊢
  have digit {width n : Nat} : c ∈ (padded width n).toList → c.isDigit = true :=
    isDigit_of_mem_padded
  rcases member with h | h | h | h | h | h | h | h | h | h | h
  · exact .inl (digit h)
  · exact .inr (.inl h)
  · exact .inl (digit h)
  · exact .inr (.inl h)
  · exact .inl (digit h)
  · exact .inr (.inr (.inr h))
  · exact .inl (digit h)
  · exact .inr (.inr (.inl h))
  · exact .inl (digit h)
  · exact .inr (.inr (.inl h))
  · exact .inl (digit h)

/-- A timestamp in universal time is read as its moment. -/
theorem readTimestamp?_toSecondText (stampable : t.IsStampable)
    : readTimestamp? (t.toSecondText.toList ++ ['Z']) = some (t, 0) := by
  have years := stampable.year
  have below := stampable.second
  have year : (t.date.year.natAbs : Int) = t.date.year := by omega
  have seconds : t.second % 60 + t.nanosecond / 1000000000 < 10 ^ 2 := by
    rcases stampable.whole with zero | ⟨leap, -⟩ <;> omega
  have date : Date.of? t.date.year t.date.month t.date.day = some t.date := if_pos stampable.date
  have field {n : Nat} (fits : n < 10 ^ 2) (rest : List Char)
      : readExactDigits? 2 ((padded 2 n).toList ++ rest) = some (n, rest) :=
    readExactDigits?_padded (by decide) fits rest
  rw [toList_toSecondText years, readTimestamp?]
  refine Option.bind_eq_some_iff.mpr ⟨_, readExactDigits?_padded (by decide) (by omega) _, ?_⟩
  refine Option.bind_eq_some_iff.mpr ⟨_, rfl, ?_⟩
  refine Option.bind_eq_some_iff.mpr ⟨_, field stampable.fields_lt.1 _, ?_⟩
  refine Option.bind_eq_some_iff.mpr ⟨_, rfl, ?_⟩
  refine Option.bind_eq_some_iff.mpr ⟨_, field stampable.fields_lt.2 _, ?_⟩
  refine Option.bind_eq_some_iff.mpr ⟨_, rfl, ?_⟩
  refine Option.bind_eq_some_iff.mpr ⟨_, field (by omega) _, ?_⟩
  refine Option.bind_eq_some_iff.mpr ⟨_, rfl, ?_⟩
  refine Option.bind_eq_some_iff.mpr ⟨_, field (by omega) _, ?_⟩
  refine Option.bind_eq_some_iff.mpr ⟨_, rfl, ?_⟩
  refine Option.bind_eq_some_iff.mpr ⟨_, field seconds _, ?_⟩
  refine Option.bind_eq_some_iff.mpr ⟨(0, ['Z']), rfl, ?_⟩
  refine Option.bind_eq_some_iff.mpr ⟨(0, []), rfl, ?_⟩
  rw [year]
  refine Option.bind_eq_some_iff.mpr ⟨_, date, ?_⟩
  refine Option.bind_eq_some_iff.mpr ⟨_, stampable.of?_eq, ?_⟩
  rfl

/-- No time passes. -/
theorem IsStampable.minusSeconds_zero (stampable : t.IsStampable) : t.minusSeconds 0 = t := by
  obtain ⟨date, second, nanosecond⟩ := t
  have below : second < 86400 := stampable.second
  have days : (second : Int) / 86400 = 0 := by omega
  have rest : ((second : Int) % 86400).toNat = second := by omega
  simp only [minusSeconds, Int.sub_zero, days, rest, Int.add_zero,
    Date.ofDayNumber_dayNumber stampable.date]

/-- A timestamp holds no white space. -/
theorem IsStampable.solid (stampable : t.IsStampable)
    : ∀ c ∈ (t.toSecondText ++ "Z").toList, Text.isBlank c = false := by
  intro c member
  rw [String.toList_append] at member
  have mark : ∀ c ∈ ['-', ':', 'T'], (!Text.isBlank c) = true := List.all_eq_true.mp rfl
  have zone : ∀ c ∈ "Z".toList, (!Text.isBlank c) = true := List.all_eq_true.mp rfl
  rcases List.mem_append.mp member with field | last
  · rcases of_mem_toSecondText stampable.year field with digit | sign
    · exact isBlank_of_isDigit digit
    · exact Bool.not_eq_true' _ ▸ mark c sign
  · exact Bool.not_eq_true' _ ▸ zone c last

/-- A moment that a timestamp can name is the one that is read from it. -/
theorem ofTimestamp?_toSecondText (stampable : t.IsStampable)
    : ofTimestamp? (t.toSecondText ++ "Z") = some t := by
  have spelled : (t.toSecondText ++ "Z").toList = t.toSecondText.toList ++ ['Z'] :=
    String.toList_append
  rw [ofTimestamp?, Text.trimChars_eq_self stampable.solid, spelled,
    readTimestamp?_toSecondText stampable, Option.map_some]
  exact congrArg some stampable.minusSeconds_zero

end DateTime

end Spreadsheet.Time
