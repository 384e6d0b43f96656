import Mathlib.Tactic.IntervalCases
import Spreadsheet.Time.Date

/-! Dates and their day numbers stand for each other. Years are taken to start in March: then months
have their places whatever the year, and a leap day is the last day of its year.
-/

namespace Spreadsheet.Time.Date

-----------------------------------------------------------------------------------------
-- Years that start in March
-----------------------------------------------------------------------------------------

/-- The month of a day is found by its place in the year. -/
theorem month_of_inYear {m k : Nat} (inMonth : k < daysFromMarch (m + 1) - daysFromMarch m)
    : (5 * (daysFromMarch m + k) + 2) / 153 = m := by
  simp only [daysFromMarch] at inMonth ⊢
  omega

/-- The year of a day is found by its place in the cycle: centuries, spans of four years and single
years are counted off, and the last day of a leap year is not taken for the first of the next one.
-/
theorem year_of_inCycle {q b e k n : Nat} (century : q < 4) (span : b < 25) (year : e < 4)
    (inYear : k ≤ 365) (leap : k = 365 → e = 3 ∧ (b = 24 → q = 3))
    (place : n = 36524 * q + 1461 * b + 365 * e + k)
    : (n - n / 1460 + n / 36524 - n / 146096) / 365 = 100 * q + 4 * b + e := by
  have centuries : n / 36524 - n / 146096 = q := by omega
  have order : n / 146096 ≤ n / 36524 := by omega
  have spans : n / 1460 = 25 * q + b + (24 * q + b + 365 * e + k) / 1460 := by omega
  have early : (24 * q + b + 365 * e + k) / 1460 ≤ k := by omega
  have late : k - (24 * q + b + 365 * e + k) / 1460 < 365 := by omega
  generalize (24 * q + b + 365 * e + k) / 1460 = f at *
  omega

/-- In a year that starts in March, the day in its month gives back year, month and day. -/
theorem ofDayNumber_march {y : Int} {m k : Nat}
    (inMonth : k < daysFromMarch (m + 1) - daysFromMarch m) (inYear : daysFromMarch m + k ≤ 365)
    (leap : daysFromMarch m + k = 365 → isLeapYear (y + 1))
    : ofDayNumber (marchOfYearZero + daysToMarch y + daysFromMarch m + k)
      = if m < 10 then ⟨y, m + 3, k + 1⟩ else ⟨y + 1, m - 9, k + 1⟩ := by
  obtain ⟨c, q, b, e, century, span, year, rfl⟩ : ∃ (c : Int) (q b e : Nat),
      q < 4 ∧ b < 25 ∧ e < 4 ∧ y = 400 * c + (100 * q + 4 * b + e : Nat) := by
    refine ⟨y / 400, (y % 400 / 100).toNat, (y % 100 / 4).toNat, (y % 4).toNat, ?_⟩
    omega
  have leap : daysFromMarch m + k = 365 → e = 3 ∧ (b = 24 → q = 3) := by
    intro last
    have leap := leap last
    simp only [isLeapYear, Bool.and_eq_true, Bool.or_eq_true, beq_iff_eq, bne_iff_ne] at leap
    omega
  have found := month_of_inYear inMonth
  obtain ⟨place, spot⟩ : ∃ place, place = daysFromMarch m + k := ⟨_, rfl⟩
  rw [← spot] at found inYear leap
  obtain ⟨n, counted⟩ : ∃ n, n = 36524 * q + 1461 * b + 365 * e + place := ⟨_, rfl⟩
  have fours : (400 * c + (100 * q + 4 * b + e : Nat)) / 4 = 100 * c + (25 * q + b) := by omega
  have hundreds : (400 * c + (100 * q + 4 * b + e : Nat)) / 100 = 4 * c + q := by omega
  have cycles : (400 * c + (100 * q + 4 * b + e : Nat)) / 400 = c := by omega
  have days : marchOfYearZero + daysToMarch (400 * c + (100 * q + 4 * b + e : Nat))
        + daysFromMarch m + k - marchOfYearZero
      = 146097 * c + n := by
    simp only [daysToMarch, fours, hundreds, cycles]
    omega
  have cycle : (146097 * c + n) / 146097 = c := by omega
  have inCycle : ((146097 * c + n) % 146097).toNat = n := by omega
  have before
      : 365 * (100 * q + 4 * b + e) + (100 * q + 4 * b + e) / 4 - (100 * q + 4 * b + e) / 100
      = 36524 * q + 1461 * b + 365 * e := by
    have fours : (100 * q + 4 * b + e) / 4 = 25 * q + b := by omega
    have hundreds : (100 * q + 4 * b + e) / 100 = q := by omega
    omega
  have behind : n - (36524 * q + 1461 * b + 365 * e) = place := by omega
  have day : place - daysFromMarch m = k := by omega
  simp only [ofDayNumber, days, cycle, inCycle,
    year_of_inCycle century span year inYear leap counted, before, behind, found, day]

-----------------------------------------------------------------------------------------
-- Calendar years
-----------------------------------------------------------------------------------------

theorem dayNumber_add_three (year : Int) (m k : Nat)
    : dayNumber ⟨year, m + 3, k + 1⟩
      = marchOfYearZero + daysToMarch year + daysFromMarch m + k := by
  have march : 3 ≤ m + 3 := Nat.le_add_left 3 m
  simp only [dayNumber, march, if_true, Nat.add_sub_cancel]
  omega

/-- January and February end the year before. -/
theorem dayNumber_of_lt {year : Int} {month : Nat} (k : Nat) (wintry : ¬ 3 ≤ month)
    : dayNumber ⟨year, month, k + 1⟩
      = marchOfYearZero + daysToMarch (year - 1) + daysFromMarch (month + 9) + k := by
  simp only [dayNumber, wintry, if_false]
  omega

/-- From March on, months have their length in every year. -/
theorem daysInMonth_add_three {year : Int} {m : Nat} (month : m < 10)
    : daysInMonth year (m + 3) = daysFromMarch (m + 1) - daysFromMarch m := by
  interval_cases m <;> rfl

/-- The month and the day exist in the year, whatever year that is. -/
structure IsCalendarDay (d : Date) : Prop where
  month : 1 ≤ d.month ∧ d.month ≤ 12
  day : 1 ≤ d.day ∧ d.day ≤ daysInMonth d.year d.month

theorem isCalendarDay_of_isValid {d : Date} (valid : d.isValid) : d.IsCalendarDay := by
  simp only [isValid, Bool.and_eq_true, decide_eq_true_eq] at valid
  obtain ⟨⟨⟨⟨_, first⟩, last⟩, positive⟩, inMonth⟩ := valid
  exact ⟨⟨first, last⟩, positive, inMonth⟩

/-- A day of the calendar is found by its number. -/
theorem IsCalendarDay.ofDayNumber_dayNumber {d : Date} (calendar : d.IsCalendarDay)
    : ofDayNumber d.dayNumber = d := by
  obtain ⟨year, month, day⟩ := d
  obtain ⟨⟨first, last⟩, positive, inMonth⟩ := calendar
  dsimp only at first last positive inMonth
  obtain ⟨k, rfl⟩ : ∃ k, day = k + 1 := ⟨day - 1, by omega⟩
  by_cases march : 3 ≤ month
  · obtain ⟨m, rfl⟩ : ∃ m, month = m + 3 := ⟨month - 3, by omega⟩
    rw [daysInMonth_add_three (by omega)] at inMonth
    have early : daysFromMarch m + k < 337 := by
      simp only [daysFromMarch] at inMonth ⊢
      omega
    rw [dayNumber_add_three, ofDayNumber_march (by omega) (by omega) (by omega), if_pos (by omega)]
  · have wintry : month = 1 ∨ month = 2 := by omega
    rw [dayNumber_of_lt k march]
    rcases wintry with rfl | rfl
    · have inMonth : k < 31 := inMonth
      have place : daysFromMarch (1 + 9) + k < 337 := Nat.add_lt_add_left inMonth 306
      rw [ofDayNumber_march inMonth (by omega) (by omega), if_neg (by decide), Int.sub_add_cancel]
    · have inMonth : k < if isLeapYear year then 29 else 28 := inMonth
      have place : daysFromMarch (2 + 9) + k = 337 + k := rfl
      have leap : daysFromMarch (2 + 9) + k = 365 → isLeapYear (year - 1 + 1) := by
        intro last
        rw [Int.sub_add_cancel]
        by_contra common
        rw [if_neg common] at inMonth
        omega
      have length : k < 29 := by
        split at inMonth <;> omega
      rw [ofDayNumber_march (Nat.lt_succ_of_lt length) (by omega) leap, if_neg (by decide),
        Int.sub_add_cancel]

/-- A date that exists is found by its day number. -/
theorem ofDayNumber_dayNumber {d : Date} (valid : d.isValid) : ofDayNumber d.dayNumber = d :=
  (isCalendarDay_of_isValid valid).ofDayNumber_dayNumber

-----------------------------------------------------------------------------------------
-- Following days
-----------------------------------------------------------------------------------------

theorem daysInMonth_bounds (year : Int) (month : Nat)
    : 1 ≤ daysInMonth year month ∧ daysInMonth year month ≤ 31 := by
  unfold daysInMonth
  split
  · split <;> decide
  all_goals decide

/-- Months and days are written with two digits. -/
theorem IsCalendarDay.fields_lt {d : Date} (calendar : d.IsCalendarDay)
    : d.month < 10 ^ 2 ∧ d.day < 10 ^ 2 := by
  have length := daysInMonth_bounds d.year d.month
  have month := calendar.month
  have day := calendar.day
  omega

/-- The day after a day: in the same month, on the first of the next one, or on New Year. -/
def next (d : Date) : Date :=
  if d.day < daysInMonth d.year d.month then ⟨d.year, d.month, d.day + 1⟩
  else if d.month < 12 then ⟨d.year, d.month + 1, 1⟩
  else ⟨d.year + 1, 1, 1⟩

variable {d : Date}

theorem IsCalendarDay.next (calendar : d.IsCalendarDay) : d.next.IsCalendarDay := by
  obtain ⟨month, day⟩ := calendar
  unfold Date.next
  split
  · next inside => exact ⟨month, Nat.le_add_left 1 d.day, inside⟩
  · split
    · next early =>
        exact ⟨⟨Nat.le_add_left 1 d.month, early⟩, Nat.le_refl 1, (daysInMonth_bounds _ _).1⟩
    · exact ⟨⟨Nat.le_refl 1, Nat.le_add_left 1 11⟩, Nat.le_refl 1, (daysInMonth_bounds _ _).1⟩

theorem dayNumber_succ_day (year : Int) (month day : Nat)
    : dayNumber ⟨year, month, day + 1⟩ = dayNumber ⟨year, month, day⟩ + 1 := by
  simp only [dayNumber]
  split <;> omega

/-- A leap day makes the years from March to March longer, too. -/
theorem daysToMarch_pred (year : Int)
    : daysToMarch year = daysToMarch (year - 1) + if isLeapYear year then 366 else 365 := by
  have leap : isLeapYear year = true ↔ year % 4 = 0 ∧ (year % 100 ≠ 0 ∨ year % 400 = 0) := by
    simp [isLeapYear]
  simp only [daysToMarch, leap]
  split <;> omega

/-- The first day of a month follows the last one of the month before. -/
theorem dayNumber_succ_month {year : Int} {month : Nat} (first : 1 ≤ month) (early : month < 12)
    : dayNumber ⟨year, month + 1, 1⟩
      = dayNumber ⟨year, month, daysInMonth year month⟩ + 1 := by
  by_cases march : 3 ≤ month
  · obtain ⟨m, rfl⟩ : ∃ m, month = m + 3 := ⟨month - 3, by omega⟩
    obtain ⟨k, length⟩ : ∃ k, daysFromMarch (m + 1) = daysFromMarch m + (k + 1) := by
      refine ⟨daysFromMarch (m + 1) - daysFromMarch m - 1, ?_⟩
      simp only [daysFromMarch]
      omega
    have start : dayNumber ⟨year, m + 3 + 1, 1⟩
        = marchOfYearZero + daysToMarch year + daysFromMarch (m + 1) + (0 : Nat) :=
      dayNumber_add_three year (m + 1) 0
    rw [daysInMonth_add_three (by omega), start, length, Nat.add_sub_cancel_left,
      dayNumber_add_three]
    omega
  · have wintry : month = 1 ∨ month = 2 := by omega
    rcases wintry with rfl | rfl
    · simp only [dayNumber, daysFromMarch, daysInMonth]
      omega
    · have years := daysToMarch_pred year
      by_cases leap : isLeapYear year = true
      · rw [if_pos leap] at years
        simp only [dayNumber, daysFromMarch, daysInMonth, leap, if_true]
        omega
      · rw [if_neg leap] at years
        simp only [dayNumber, daysFromMarch, daysInMonth, leap, Bool.false_eq_true, if_false]
        omega

theorem dayNumber_succ_year (year : Int)
    : dayNumber ⟨year + 1, 1, 1⟩ = dayNumber ⟨year, 12, 31⟩ + 1 := by
  simp only [dayNumber, daysFromMarch, Int.add_sub_cancel]
  omega

/-- The day after a day has the next number. -/
theorem IsCalendarDay.dayNumber_next (calendar : d.IsCalendarDay)
    : d.next.dayNumber = d.dayNumber + 1 := by
  obtain ⟨year, month, day⟩ := d
  obtain ⟨⟨first, last⟩, positive, inMonth⟩ := calendar
  dsimp only at first last positive inMonth
  simp only [Date.next]
  split
  · exact dayNumber_succ_day year month day
  · next outside =>
      cases Nat.le_antisymm inMonth (Nat.not_lt.mp outside)
      split
      · next early => exact dayNumber_succ_month first early
      · next late =>
          cases Nat.le_antisymm last (Nat.not_lt.mp late)
          exact dayNumber_succ_year year

/-- No day that a date can name is further than this from the first one. -/
theorem natAbs_dayNumber_le (valid : d.isValid) : d.dayNumber.natAbs ≤ 100000000 := by
  have length := daysInMonth_bounds d.year d.month
  simp only [isValid, Bool.and_eq_true, decide_eq_true_eq] at valid
  simp only [minYear, maxYear] at valid
  have bounds : -100000000 ≤ d.dayNumber ∧ d.dayNumber ≤ 100000000 := by
    simp only [dayNumber, daysToMarch, daysFromMarch, marchOfYearZero]
    split <;> omega
  omega

end Spreadsheet.Time.Date
