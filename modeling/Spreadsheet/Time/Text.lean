import Spreadsheet.Number.Layout
import Spreadsheet.Time.Date

/-! The written forms of dates and times, and the numbers that stand for them in cells.
-/

namespace Spreadsheet.Time

open Spreadsheet.Number

/-- A number with at least `width` digits. -/
def padded (width n : Nat) : String :=
  let ds := Nat.toDigits 10 n
  String.ofList (zeros (width - ds.length) ++ ds)

/-- A year with at least four digits; a sign stands before negative years and long ones. -/
def yearText (year : Int) : String :=
  (if year < 0 then "-" else if 9999 < year then "+" else "") ++ padded 4 year.natAbs

namespace Date

/-- Day, month and year between slashes. -/
def slashed (d : Date) : String :=
  padded 2 d.day ++ "/" ++ padded 2 d.month ++ "/" ++ yearText d.year

/-- Year, month and day between hyphens. -/
def hyphenated (d : Date) : String :=
  yearText d.year ++ "-" ++ padded 2 d.month ++ "-" ++ padded 2 d.day

end Date

namespace DateTime

/-- Date and time to the second; a leap second is written as second 60. -/
def toSecondText (t : DateTime) : String :=
  let second := t.second % 60 + t.nanosecond / 1000000000
  t.date.hyphenated ++ "T" ++ padded 2 (t.second / 3600) ++ ":" ++
    padded 2 (t.second / 60 % 60) ++ ":" ++ padded 2 second

/-- The fraction of the second in three, six or nine digits, as few as show all of it. -/
def fractionText (t : DateTime) : String :=
  let n := t.nanosecond % 1000000000
  if n = 0 then ""
  else if n % 1000000 = 0 then "." ++ padded 3 (n / 1000000)
  else if n % 1000 = 0 then "." ++ padded 6 (n / 1000)
  else "." ++ padded 9 n

/-- Date and time with the fraction of the second. -/
def text (t : DateTime) : String := t.toSecondText ++ t.fractionText

/-- Days since 1899-12-30 with the time of day as the fraction. -/
def serial (t : DateTime) : Binary64 := (Binary64.ofInt t.milliseconds).div (.ofNat 86400000)

end DateTime

end Spreadsheet.Time
