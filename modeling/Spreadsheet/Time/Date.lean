/-! Calendar dates and times of day. Dates follow the Gregorian rules in all years, before and
after their introduction; days are counted from 1899-12-30, the day that spreadsheets number 0.
-/

namespace Spreadsheet.Time

/-- Leap years: those divisible by 4, of the centuries only those divisible by 400. -/
def isLeapYear (year : Int) : Bool := year % 4 == 0 && (year % 100 != 0 || year % 400 == 0)

/-- The number of days in a month. -/
def daysInMonth (year : Int) (month : Nat) : Nat :=
  match month with
  | 2 => if isLeapYear year then 29 else 28
  | 4 | 6 | 9 | 11 => 30
  | _ => 31

structure Date where
  year : Int
  month : Nat
  day : Nat
deriving DecidableEq, Repr

/-- The first and last year a date may have. -/
def minYear : Int := -262143

def maxYear : Int := 262142

namespace Date

/-- The month and the day exist in the year, and the year is one that dates may have. -/
def isValid (d : Date) : Bool :=
  minYear ≤ d.year && d.year ≤ maxYear && 1 ≤ d.month && d.month ≤ 12 &&
    1 ≤ d.day && d.day ≤ daysInMonth d.year d.month

/-- A date, if there is one with this year, month and day. -/
def of? (year : Int) (month day : Nat) : Option Date :=
  let d : Date := ⟨year, month, day⟩
  if d.isValid then some d else none

/-- Days from 1 March of year 0 to 1 March of a year: January and February count as the end
of the year before, so that a leap day is the last day of such a year. -/
def daysToMarch (year : Int) : Int := 365 * year + year / 4 - year / 100 + year / 400

/-- Days from 1 March to the first day of the month that is `month` months later. -/
def daysFromMarch (month : Nat) : Nat := (153 * month + 2) / 5

/-- The day number of 1 March of year 0. -/
def marchOfYearZero : Int := -693899

/-- Days from 1899-12-30 to a date. -/
def dayNumber (d : Date) : Int :=
  if 3 ≤ d.month then
    marchOfYearZero + daysToMarch d.year + daysFromMarch (d.month - 3) + d.day - 1
  else
    marchOfYearZero + daysToMarch (d.year - 1) + daysFromMarch (d.month + 9) + d.day - 1

/-- The date a number of days after 1899-12-30: the year that starts in March is found in its
cycle of 400 years, then the month in that year, then the day. -/
def ofDayNumber (n : Int) : Date :=
  let days := n - marchOfYearZero
  let cycle := days / 146097
  let inCycle := (days % 146097).toNat
  let yearInCycle := (inCycle - inCycle / 1460 + inCycle / 36524 - inCycle / 146096) / 365
  let inYear := inCycle - (365 * yearInCycle + yearInCycle / 4 - yearInCycle / 100)
  let month := (5 * inYear + 2) / 153
  let day := inYear - daysFromMarch month + 1
  let year := 400 * cycle + yearInCycle
  if month < 10 then ⟨year, month + 3, day⟩ else ⟨year + 1, month - 9, day⟩

end Date

/-- A date and a time of day. Nanoseconds from a whole second on belong to a leap second that
follows the last second of a minute. -/
structure DateTime where
  date : Date
  second : Nat
  nanosecond : Nat
deriving DecidableEq, Repr

namespace DateTime

/-- Midnight at the start of a day. -/
def ofDate (date : Date) : DateTime := ⟨date, 0, 0⟩

/-- A time on a day: 24 hours of 60 minutes; second 60 is a leap second. -/
def of? (date : Date) (hour minute second nanosecond : Nat) : Option DateTime :=
  if 24 ≤ hour || 60 ≤ minute || 61 ≤ second then none
  else if second = 60 then some ⟨date, 3600 * hour + 60 * minute + 59, 1000000000 + nanosecond⟩
  else some ⟨date, 3600 * hour + 60 * minute + second, nanosecond⟩

/-- The time a number of seconds earlier. -/
def minusSeconds (t : DateTime) (seconds : Int) : DateTime :=
  let s := (t.second : Int) - seconds
  ⟨Date.ofDayNumber (t.date.dayNumber + s / 86400), (s % 86400).toNat, t.nanosecond⟩

/-- Nanoseconds since the start of 1899-12-30. -/
def nanoseconds (t : DateTime) : Int :=
  (t.date.dayNumber * 86400 + t.second) * 1000000000 + t.nanosecond

/-- Whole milliseconds since the start of 1899-12-30, rounded towards it. -/
def milliseconds (t : DateTime) : Int := t.nanoseconds.tdiv 1000000

end DateTime

end Spreadsheet.Time
