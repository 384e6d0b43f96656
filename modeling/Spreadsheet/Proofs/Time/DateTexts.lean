import Spreadsheet.Proofs.Time.Timestamps

/-! Texts of dates and times. Dates with hyphens are read back, whatever the year, and different
dates have different texts with slashes. What is read is a moment of a day that exists: a fraction
has at most nine digits, so that only a leap second has more nanoseconds than a second.
-/

namespace Spreadsheet.Time

open Spreadsheet.Number

-----------------------------------------------------------------------------------------
-- Fields
-----------------------------------------------------------------------------------------

/-- Digits are read up to the width of their field, or up to the first other character. -/
theorem readDigits?_append {width : Nat} {ds rest : List Char} (filled : ds ≠ [])
    (digits : ∀ c ∈ ds, c.isDigit = true) (fits : ds.length ≤ width)
    (stop : ds.length = width ∨ ∀ c ∈ rest.head?, c.isDigit = false)
    : readDigits? width (ds ++ rest) = some (digitsValue ds, rest) := by
  have behind : (rest.take (width - ds.length)).takeWhile Char.isDigit = [] := by
    rcases stop with full | other
    · rw [full, Nat.sub_self, List.take_zero, List.takeWhile_nil]
    · cases rest with
      | nil => rw [List.take_nil, List.takeWhile_nil]
      | cons c rest =>
          cases width - ds.length with
          | zero => rfl
          | succ k =>
              have none : ¬ c.isDigit = true := Bool.eq_false_iff.mp (other c rfl)
              rw [List.take_succ_cons, List.takeWhile_cons_of_neg none]
  have taken : ((ds ++ rest).take width).takeWhile Char.isDigit = ds := by
    rw [List.take_append, List.take_of_length_le fits, List.takeWhile_append_of_pos digits, behind,
      List.append_nil]
  simp only [readDigits?, taken, List.isEmpty_iff, filled, if_false, List.drop_left]

theorem padded_ne_nil (width n : Nat) : (padded width n).toList ≠ [] := by
  rw [toList_padded]
  exact List.append_ne_nil_of_right_ne_nil _ Nat.toDigits_ne_nil

theorem exists_padded_eq_cons (width n : Nat)
    : ∃ c ds, (padded width n).toList = c :: ds ∧ c.isDigit = true := by
  obtain ⟨c, ds, spelled⟩ := List.exists_cons_of_ne_nil (padded_ne_nil width n)
  refine ⟨c, ds, spelled, @isDigit_of_mem_padded width n c ?_⟩
  rw [spelled]
  exact List.mem_cons_self

theorem trimStart_cons {c : Char} (solid : Text.isBlank c = false) (rest : List Char)
    : Text.trimStart (c :: rest) = c :: rest :=
  List.dropWhile_cons_of_neg (Bool.eq_false_iff.mp solid)

theorem trimStart_padded {width n : Nat} (rest : List Char)
    : Text.trimStart ((padded width n).toList ++ rest) = (padded width n).toList ++ rest := by
  obtain ⟨c, ds, spelled, digit⟩ := exists_padded_eq_cons width n
  rw [spelled, List.cons_append, trimStart_cons (isBlank_of_isDigit digit)]

theorem readField?_padded {n : Nat} (fits : n < 10 ^ 2) (rest : List Char)
    : readField? ((padded 2 n).toList ++ rest) = some (n, rest) := by
  have length := length_padded (by decide) fits
  rw [readField?, trimStart_padded, readDigits?_append (padded_ne_nil _ _)
    (fun _ => isDigit_of_mem_padded) length.le (.inl length), digitsValue_padded]

/-- A field of any width is read up to the character behind it. -/
theorem readDigits?_padded (width n : Nat) {c : Char} (other : c.isDigit = false)
    (rest : List Char)
    : readDigits? ((padded width n).toList ++ c :: rest).length
        ((padded width n).toList ++ c :: rest) = some (n, c :: rest) := by
  have fits : (padded width n).toList.length ≤ ((padded width n).toList ++ c :: rest).length := by
    rw [List.length_append]
    exact Nat.le_add_right _ _
  have stop : ∀ d ∈ (c :: rest).head?, d.isDigit = false := by
    rintro d ⟨⟩
    exact other
  rw [readDigits?_append (padded_ne_nil _ _) (fun _ => isDigit_of_mem_padded) fits (.inr stop),
    digitsValue_padded]

/-- A field and what stands behind it are told by the text. -/
theorem eq_of_padded_append {width m n : Nat} {c : Char} {s t : List Char}
    (other : c.isDigit = false)
    (same : (padded width m).toList ++ c :: s = (padded width n).toList ++ c :: t)
    : m = n ∧ s = t := by
  have read := readDigits?_padded width m other s
  rw [same, readDigits?_padded width n other, Option.some.injEq, Prod.mk.injEq, List.cons.injEq]
    at read
  exact ⟨read.1.symm, read.2.2.symm⟩

/-- A year is read back from its text, of as many digits as it has. -/
theorem readYear?_yearText (year : Int) (rest : List Char)
    : readYear? ((yearText year).toList ++ '-' :: rest) = some (year, '-' :: rest) := by
  have long := readDigits?_padded 4 year.natAbs (c := '-') rfl rest
  rw [yearText, String.toList_append]
  by_cases negative : year < 0
  · have value : -(year.natAbs : Int) = year := by omega
    have sign : "-".toList = ['-'] := rfl
    rw [if_pos negative, sign, List.cons_append, List.nil_append, readYear?, List.cons_append,
      trimStart_cons rfl]
    simp only [long, Option.map_some, value]
  · have value : (year.natAbs : Int) = year := by omega
    rw [if_neg negative]
    by_cases big : 9999 < year
    · have sign : "+".toList = ['+'] := rfl
      rw [if_pos big, sign, List.cons_append, List.nil_append, readYear?, List.cons_append,
        trimStart_cons rfl]
      simp only [long, Option.map_some, value]
    · have length := length_padded (n := year.natAbs) (show 0 < 4 by decide) (by omega)
      obtain ⟨c, ds, spelled, digit⟩ := exists_padded_eq_cons 4 year.natAbs
      have short : readDigits? 4 ((padded 4 year.natAbs).toList ++ '-' :: rest)
          = some (year.natAbs, '-' :: rest) := by
        rw [readDigits?_append (padded_ne_nil _ _) (fun _ => isDigit_of_mem_padded) length.le
          (.inl length), digitsValue_padded]
      rw [if_neg big, String.toList_empty, List.nil_append, readYear?, trimStart_padded]
      rw [spelled, List.cons_append] at short ⊢
      split
      · next same => exact absurd (List.cons.inj same).1 (ne_of_isDigit digit rfl)
      · next same => exact absurd (List.cons.inj same).1 (ne_of_isDigit digit rfl)
      · simp only [short, Option.map_some, value]

-----------------------------------------------------------------------------------------
-- Dates
-----------------------------------------------------------------------------------------

theorem yearText_injective : Function.Injective yearText := by
  intro year year' same
  have read := readYear?_yearText year []
  rw [same, readYear?_yearText, Option.some.injEq] at read
  exact (Prod.mk.inj read).1.symm

namespace Date

variable {d : Date}

theorem toList_hyphenated (d : Date)
    : d.hyphenated.toList
      = (yearText d.year).toList ++ '-' ::
        ((padded 2 d.month).toList ++ '-' :: ((padded 2 d.day).toList ++ [])) := by
  simp [hyphenated]

/-- A date is read back from its text. -/
theorem readLocalDate?_hyphenated (valid : d.isValid)
    : readLocalDate? d.hyphenated.toList = some (d, []) := by
  obtain ⟨month, day⟩ := (isCalendarDay_of_isValid valid).fields_lt
  have found : of? d.year d.month d.day = some d := if_pos valid
  rw [toList_hyphenated, readLocalDate?]
  refine Option.bind_eq_some_iff.mpr ⟨_, readYear?_yearText _ _, ?_⟩
  refine Option.bind_eq_some_iff.mpr ⟨_, rfl, ?_⟩
  refine Option.bind_eq_some_iff.mpr ⟨_, readField?_padded month _, ?_⟩
  refine Option.bind_eq_some_iff.mpr ⟨_, rfl, ?_⟩
  refine Option.bind_eq_some_iff.mpr ⟨_, readField?_padded day _, ?_⟩
  exact Option.bind_eq_some_iff.mpr ⟨_, found, rfl⟩

/-- Dates with the same text are the same: slashes end day and month, whatever their digits. -/
theorem slashed_injective : Function.Injective slashed := by
  intro d d' same
  have spelled (d : Date) : d.slashed.toList = (padded 2 d.day).toList ++ '/' ::
      ((padded 2 d.month).toList ++ '/' :: (yearText d.year).toList) := by
    simp [slashed]
  have texts := congrArg String.toList same
  rw [spelled, spelled] at texts
  obtain ⟨day, rest⟩ := eq_of_padded_append rfl texts
  obtain ⟨month, years⟩ := eq_of_padded_append rfl rest
  have year := yearText_injective (String.toList_inj.mp years)
  obtain ⟨_, _, _⟩ := d
  cases year
  cases month
  cases day
  rfl

/-- The text of a date holds no white space. -/
theorem isBlank_of_mem_hyphenated {c : Char} (member : c ∈ d.hyphenated.toList)
    : Text.isBlank c = false := by
  have digit {width n : Nat} (member : c ∈ (padded width n).toList) : Text.isBlank c = false :=
    isBlank_of_isDigit (isDigit_of_mem_padded member)
  simp only [toList_hyphenated, yearText, String.toList_append, List.mem_append, List.mem_cons,
    List.not_mem_nil, or_false] at member
  rcases member with (sign | year) | rfl | month | rfl | day
  · split at sign
    · cases List.mem_singleton.mp sign
      rfl
    · split at sign
      · cases List.mem_singleton.mp sign
        rfl
      · cases sign
  · exact digit year
  · rfl
  · exact digit month
  · rfl
  · exact digit day

end Date

/-- A text that is read as a date without a time. -/
def IsDateText (text : String) (d : Date) : Prop :=
  readLocalDate? (Text.trimChars text.toList) = some (d, [])

/-- A date is read from its text. -/
theorem isDateText_hyphenated {d : Date} (valid : d.isValid) : IsDateText d.hyphenated d := by
  rw [IsDateText, Text.trimChars_eq_self fun _ => Date.isBlank_of_mem_hyphenated,
    Date.readLocalDate?_hyphenated valid]

-----------------------------------------------------------------------------------------
-- Moments that are read
-----------------------------------------------------------------------------------------

namespace DateTime

/-- A moment of a day that exists. A leap second follows the last second of a minute. -/
structure IsMoment (t : DateTime) : Prop where
  date : t.date.isValid
  second : t.second < 86400
  nanosecond : t.nanosecond < 2000000000
  leap : 1000000000 ≤ t.nanosecond → t.second % 60 = 59

theorem isMoment_ofDate {d : Date} (valid : d.isValid) : (ofDate d).IsMoment :=
  ⟨valid, Nat.zero_lt_succ _, Nat.zero_lt_succ _, nofun⟩

/-- Second 60 of a minute is kept as more than a second behind second 59. -/
theorem isMoment_of? {d : Date} {hour minute second nanosecond : Nat} {t : DateTime}
    (valid : d.isValid) (short : nanosecond < 1000000000)
    (made : of? d hour minute second nanosecond = some t)
    : t.IsMoment := by
  simp only [of?] at made
  split at made
  · cases made
  · next inside =>
      simp only [Bool.or_eq_true, decide_eq_true_eq, not_or] at inside
      split at made
      · cases made
        refine ⟨valid, ?_, ?_, ?_⟩ <;> dsimp only <;> omega
      · cases made
        refine ⟨valid, ?_, ?_, ?_⟩ <;> dsimp only <;> omega

end DateTime

section Reading

variable {s rest : List Char} {d : Date} {t : DateTime}

theorem isValid_of_of? {year : Int} {month day : Nat} (made : Date.of? year month day = some d)
    : d.isValid := by
  simp only [Date.of?] at made
  split at made
  · next valid =>
      cases made
      exact valid
  · cases made

/-- A field is made up of the digits that are read from it. -/
theorem exists_of_readDigits? {width n : Nat}
    (read : readDigits? width s = some (n, rest))
    : ∃ ds, s = ds ++ rest ∧ ds.length ≤ width ∧ (∀ c ∈ ds, c.isDigit = true)
      ∧ digitsValue ds = n := by
  simp only [readDigits?] at read
  split at read
  · cases read
  · obtain ⟨rfl, rfl⟩ := Prod.mk.inj (Option.some.inj read)
    have front : (s.take width).takeWhile Char.isDigit <+: s.take width :=
      List.takeWhile_prefix Char.isDigit
    have digits : ((s.take width).takeWhile Char.isDigit).all Char.isDigit = true :=
      List.all_takeWhile
    generalize (s.take width).takeWhile Char.isDigit = ds at front digits
    obtain ⟨after, rfl⟩ := front.trans (List.take_prefix width s)
    refine ⟨ds, ?_, ?_, List.all_eq_true.mp digits, rfl⟩
    · rw [List.drop_left]
    · exact Nat.le_trans front.length_le (List.length_take_le _ _)

/-- A fraction is less than a second: the digits behind the ninth are not counted. -/
theorem readFraction?_lt {n : Nat} (read : readFraction? s = some (n, rest)) : n < 1000000000 := by
  unfold readFraction? at read
  split at read
  · next digits =>
      split at read
      · cases read
      · next m after field =>
          obtain ⟨rfl, -⟩ := Prod.mk.inj (Option.some.inj read)
          obtain ⟨ds, rfl, fits, digits, rfl⟩ := exists_of_readDigits? field
          rw [List.length_append, Nat.add_sub_cancel, Nat.pow_eq]
          calc digitsValue ds * 10 ^ (9 - ds.length)
              < 10 ^ ds.length * 10 ^ (9 - ds.length) :=
                Nat.mul_lt_mul_of_pos_right (digitsValue_lt digits) (Nat.pow_pos (by decide))
            _ = 1000000000 := by rw [← Nat.pow_add, Nat.add_sub_cancel' fits]
  · obtain ⟨rfl, -⟩ := Prod.mk.inj (Option.some.inj read)
    decide

theorem isValid_of_readLocalDate? (read : readLocalDate? s = some (d, rest)) : d.isValid := by
  simp only [readLocalDate?, Option.bind_eq_bind, Option.bind_eq_some_iff, Option.pure_def,
    Option.some.injEq, Prod.exists, Prod.mk.injEq] at read
  obtain ⟨_, _, -, _, -, _, _, -, _, -, _, _, -, date, made, rfl, -⟩ := read
  exact isValid_of_of? made

theorem isMoment_of_readLocalTime? (valid : d.isValid) (read : readLocalTime? d s = some t)
    : t.IsMoment := by
  simp only [readLocalTime?, Option.bind_eq_bind, Option.bind_eq_some_iff, Prod.exists] at read
  obtain ⟨_, _, -, _, -, _, _, -, _, -, _, _, -, nanosecond, _, fraction, made⟩ := read
  split at made
  · exact DateTime.isMoment_of? valid (readFraction?_lt fraction) made
  · cases made

theorem isMoment_of_readLocal? (read : readLocal? s = some t) : t.IsMoment := by
  obtain ⟨⟨d, rest⟩, date, time⟩ := Option.bind_eq_some_iff.mp read
  have valid := isValid_of_readLocalDate? date
  dsimp only at time
  split at time
  · cases time
    exact DateTime.isMoment_ofDate valid
  · exact isMoment_of_readLocalTime? valid time
  · exact isMoment_of_readLocalTime? valid time

theorem isMoment_of_readTimestamp? {offset : Int} (read : readTimestamp? s = some (t, offset))
    : t.IsMoment := by
  rw [readTimestamp?] at read
  obtain ⟨⟨year, _⟩, -, read⟩ := Option.bind_eq_some_iff.mp read
  obtain ⟨_, -, read⟩ := Option.bind_eq_some_iff.mp read
  obtain ⟨⟨month, _⟩, -, read⟩ := Option.bind_eq_some_iff.mp read
  obtain ⟨_, -, read⟩ := Option.bind_eq_some_iff.mp read
  obtain ⟨⟨day, _⟩, -, read⟩ := Option.bind_eq_some_iff.mp read
  -- What follows the date is read in the same way whatever separates it from the date.
  dsimp -zeta only at read
  extract_lets time at read
  obtain ⟨_, read⟩ : ∃ s, time s = some (t, offset) := by
    split at read
    · exact ⟨_, read⟩
    · exact ⟨_, read⟩
    · exact ⟨_, read⟩
    · cases read
  obtain ⟨⟨hour, _⟩, -, read⟩ := Option.bind_eq_some_iff.mp read
  obtain ⟨_, -, read⟩ := Option.bind_eq_some_iff.mp read
  obtain ⟨⟨minute, _⟩, -, read⟩ := Option.bind_eq_some_iff.mp read
  obtain ⟨_, -, read⟩ := Option.bind_eq_some_iff.mp read
  obtain ⟨⟨second, _⟩, -, read⟩ := Option.bind_eq_some_iff.mp read
  obtain ⟨⟨nanosecond, _⟩, fraction, read⟩ := Option.bind_eq_some_iff.mp read
  obtain ⟨_, -, read⟩ := Option.bind_eq_some_iff.mp read
  obtain ⟨date, found, read⟩ := Option.bind_eq_some_iff.mp read
  obtain ⟨moment, made, last⟩ := Option.bind_eq_some_iff.mp read
  split at last
  · cases last
    exact DateTime.isMoment_of? (isValid_of_of? found) (readFraction?_lt fraction) made
  · cases last

/-- Whatever text is read, its moment is one of a day that exists. -/
theorem DateTime.isMoment_of_ofText? {text : String} (read : ofText? text = some t)
    : t.IsMoment := by
  simp only [ofText?] at read
  split at read
  · next found =>
      cases read
      exact isMoment_of_readLocal? found
  · obtain ⟨⟨moment, offset⟩, found, rfl⟩ := Option.map_eq_some_iff.mp read
    exact isMoment_of_readTimestamp? found

end Reading

end Spreadsheet.Time
