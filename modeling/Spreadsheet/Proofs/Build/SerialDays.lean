import Spreadsheet.Build.Amount
import Spreadsheet.Proofs.Number.Values
import Spreadsheet.Proofs.Time.DateTexts

/-! Days as they are numbered in cells and as they are written for readers. They agree except at the
very end of a day, where milliseconds are rounded up to midnight or belong to a leap second.
-/

namespace Spreadsheet.Time

open Spreadsheet.Number

namespace DateTime

variable {t : DateTime}

-----------------------------------------------------------------------------------------
-- Days of moments
-----------------------------------------------------------------------------------------

/-- The day that the milliseconds of a moment fall on, counted from 1899-12-30. -/
def serialDay (t : DateTime) : Date := Date.ofDayNumber (t.milliseconds / 86400000)

/-- So near to the end of its day that a moment is counted to the next one: in a leap second or, on
days before the first one, later than the last whole millisecond.
-/
def RunsOver (t : DateTime) : Prop :=
  t.second = 86399
    ∧ (1000000000 ≤ t.nanosecond ∨ t.date.dayNumber < 0 ∧ 999000000 < t.nanosecond)

instance (t : DateTime) : Decidable t.RunsOver := inferInstanceAs (Decidable (_ ∧ _))

/-- Milliseconds before day 0 are rounded up, those after it are rounded down. -/
theorem milliseconds_div (moment : t.IsMoment)
    : t.milliseconds / 86400000 = t.date.dayNumber + if t.RunsOver then 1 else 0 := by
  obtain ⟨-, second, nanosecond, leap⟩ := moment
  have unit : Int.sign 1000000 = 1 := rfl
  rw [milliseconds, nanoseconds, Int.tdiv_eq_ediv, unit]
  by_cases runsOver : t.RunsOver
  · rw [if_pos runsOver]
    obtain ⟨last, late⟩ := runsOver
    split <;> omega
  · rw [if_neg runsOver]
    rw [RunsOver] at runsOver
    split <;> omega

theorem serialDay_eq (moment : t.IsMoment)
    : t.serialDay = if t.RunsOver then t.date.next else t.date := by
  have calendar := Date.isCalendarDay_of_isValid moment.date
  rw [serialDay, milliseconds_div moment]
  split
  · rw [← calendar.dayNumber_next, calendar.next.ofDayNumber_dayNumber]
  · rw [Int.add_zero, calendar.ofDayNumber_dayNumber]

-----------------------------------------------------------------------------------------
-- Days without a time
-----------------------------------------------------------------------------------------

theorem milliseconds_ofDate (d : Date) : (ofDate d).milliseconds = 86400000 * d.dayNumber := by
  have whole : (d.dayNumber * 86400 + (0 : Nat)) * 1000000000 + (0 : Nat)
      = 86400000 * d.dayNumber * 1000000 := by omega
  rw [milliseconds, nanoseconds, ofDate, whole, Int.mul_tdiv_cancel _ (by decide)]

/-- A day without a time is divided without a remainder. -/
theorem serial_ofDate {d : Date} (valid : d.isValid)
    : (ofDate d).serial = Binary64.ofInt d.dayNumber := by
  have bound := Date.natAbs_dayNumber_le valid
  have count : (86400000 * d.dayNumber).natAbs < 2 ^ 53 := by omega
  have quotient : (Binary64.ofInt (86400000 * d.dayNumber)).absValue
      / (Binary64.ofNat 86400000).absValue = d.dayNumber.natAbs / (1 : Nat) := by
    rw [Binary64.ofInt, Binary64.absValue_nearest_one _ count, Binary64.ofNat,
      Binary64.absValue_nearest_one _ (by decide), Int.natAbs_mul, Nat.cast_mul, Nat.cast_one,
      div_one]
    exact mul_div_cancel_left₀ _ (by decide)
  have finite : (Binary64.ofInt (86400000 * d.dayNumber)).isFinite = true :=
    Binary64.isFinite_nearest_one _ count
  have sign : ((Binary64.ofInt (86400000 * d.dayNumber)).negative
      != (Binary64.ofNat 86400000).negative) = decide (d.dayNumber < 0) := by
    have negative : (Binary64.ofInt (86400000 * d.dayNumber)).negative
        = decide (86400000 * d.dayNumber < 0) := rfl
    have positive : (Binary64.ofNat 86400000).negative = false := rfl
    rw [negative, positive, Bool.bne_false, decide_eq_decide]
    omega
  rw [serial, milliseconds_ofDate, Binary64.div_eq_nearest finite (by decide) (by decide)
    Nat.one_pos quotient, sign, Binary64.ofInt]

theorem value_serial_ofDate {d : Date} (valid : d.isValid)
    : (ofDate d).serial.value = d.dayNumber := by
  have bound := Date.natAbs_dayNumber_le valid
  rw [serial_ofDate valid, Binary64.value_ofInt (by omega)]

/-- A text of a date is read as the start of its day. -/
theorem ofText?_of_isDateText {text : String} {d : Date} (dated : IsDateText text d)
    : ofText? text = some (ofDate d) := by
  have found : readLocal? (Text.trimChars text.toList) = some (ofDate d) :=
    Option.bind_eq_some_iff.mpr ⟨_, dated, rfl⟩
  simp only [ofText?, found]

end DateTime

end Spreadsheet.Time

namespace Spreadsheet.Build

open Spreadsheet.Time

-----------------------------------------------------------------------------------------
-- Days as they are written
-----------------------------------------------------------------------------------------

/-- The day that is written for a text is the one that its number in a cell falls on, unless the
moment runs over: then the number falls on the next day. The number of a day without a time is the
number of the day itself, so that days that follow each other have numbers that do.
-/
theorem dateText?_faithful (text : String)
    : (∀ t, DateTime.ofText? text = some t →
        t.serialDay.IsCalendarDay ∧ t.serialDay.dayNumber = t.milliseconds / 86400000
        ∧ t.serialDay = (if t.RunsOver then t.date.next else t.date)
        ∧ (dateText? text = some t.serialDay.slashed ↔ ¬ t.RunsOver))
      ∧ (∀ d, IsDateText text d →
        DateTime.ofText? text = some (.ofDate d)
        ∧ (DateTime.ofDate d).milliseconds = 86400000 * d.dayNumber
        ∧ (DateTime.ofDate d).serial.value = d.dayNumber
        ∧ dateText? text = some d.slashed)
      ∧ (∀ d : Date, d.isValid → IsDateText d.hyphenated d)
      ∧ ∀ d : Date, d.isValid → d.next.isValid →
        (DateTime.ofDate d.next).serial.value = (DateTime.ofDate d).serial.value + 1 := by
  refine ⟨fun t read => ?_, fun d dated => ?_, fun d => isDateText_hyphenated,
    fun d valid following => ?_⟩
  · have moment := DateTime.isMoment_of_ofText? read
    have calendar := Date.isCalendarDay_of_isValid moment.date
    have day := DateTime.serialDay_eq moment
    have count := DateTime.milliseconds_div moment
    have written : dateText? text = some t.date.slashed := by
      rw [dateText?, read, Option.map_some]
    rw [written, Option.some.injEq, Date.slashed_injective.eq_iff]
    by_cases runsOver : t.RunsOver
    · rw [if_pos runsOver] at day count
      have other : t.date ≠ t.date.next := by
        intro same
        have following := calendar.dayNumber_next
        rw [← same] at following
        omega
      rw [day, count, if_pos runsOver]
      exact ⟨calendar.next, calendar.dayNumber_next, rfl,
        iff_of_false other (not_not_intro runsOver)⟩
    · rw [if_neg runsOver] at day count
      rw [day, count, if_neg runsOver, Int.add_zero]
      exact ⟨calendar, rfl, rfl, iff_of_true rfl runsOver⟩
  · have read := DateTime.ofText?_of_isDateText dated
    refine ⟨read, DateTime.milliseconds_ofDate d,
      DateTime.value_serial_ofDate (isValid_of_readLocalDate? dated), ?_⟩
    rw [dateText?, read, Option.map_some]
    rfl
  · rw [DateTime.value_serial_ofDate following, DateTime.value_serial_ofDate valid,
      (Date.isCalendarDay_of_isValid valid).dayNumber_next, Int.cast_add, Int.cast_one]

theorem dateText?_faithful_leapDay
    : IsDateText "2024-02-29" ⟨2024, 2, 29⟩
      ∧ (DateTime.ofDate ⟨2024, 2, 29⟩).serial.value = 45351
      ∧ (DateTime.ofDate ⟨2024, 3, 1⟩).serial.value
        = (DateTime.ofDate ⟨2024, 2, 29⟩).serial.value + 1
      ∧ dateText? "2024-02-29T23:59:59.9999"
        = some (⟨⟨2024, 2, 29⟩, 86399, 999900000⟩ : DateTime).serialDay.slashed := by
  obtain ⟨-, dates, texts, days⟩ := dateText?_faithful "2024-02-29"
  have valid : (⟨2024, 2, 29⟩ : Date).isValid = true := by decide
  have count : (⟨2024, 2, 29⟩ : Date).dayNumber = 45351 := by decide
  have spelled : (⟨2024, 2, 29⟩ : Date).hyphenated = "2024-02-29" := by decide +kernel
  have dated := texts ⟨2024, 2, 29⟩ valid
  rw [spelled] at dated
  obtain ⟨-, -, number, -⟩ := dates _ dated
  rw [count] at number
  have early : ¬ (⟨⟨2024, 2, 29⟩, 86399, 999900000⟩ : DateTime).RunsOver := by decide
  obtain ⟨moments, -⟩ := dateText?_faithful "2024-02-29T23:59:59.9999"
  obtain ⟨-, -, -, sameDay⟩ :=
    moments ⟨⟨2024, 2, 29⟩, 86399, 999900000⟩ (by decide +kernel)
  exact ⟨dated, number, days ⟨2024, 2, 29⟩ valid (by decide), sameDay.mpr early⟩

/-- The last moments of a day can have a number of the next day: less than a millisecond before day
0, and in a leap second.
-/
theorem dateText?_lastMoments
    : (DateTime.ofText? "1899-12-29T23:59:59.9999" = some ⟨⟨1899, 12, 29⟩, 86399, 999900000⟩
        ∧ (⟨⟨1899, 12, 29⟩, 86399, 999900000⟩ : DateTime).milliseconds = 0
        ∧ (⟨⟨1899, 12, 29⟩, 86399, 999900000⟩ : DateTime).serialDay = ⟨1899, 12, 30⟩
        ∧ dateText? "1899-12-29T23:59:59.9999" = some "29/12/1899")
      ∧ (DateTime.ofText? "1999-12-31T23:59:60" = some ⟨⟨1999, 12, 31⟩, 86399, 1000000000⟩
        ∧ (⟨⟨1999, 12, 31⟩, 86399, 1000000000⟩ : DateTime).milliseconds = 36526 * 86400000
        ∧ (⟨⟨1999, 12, 31⟩, 86399, 1000000000⟩ : DateTime).serialDay = ⟨2000, 1, 1⟩
        ∧ dateText? "1999-12-31T23:59:60" = some "31/12/1999") := by
  decide +kernel

end Spreadsheet.Build
