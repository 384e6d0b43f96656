import Spreadsheet.Number.Layout
import Spreadsheet.Time.Reader
import Spreadsheet.Time.Text

/-! Texts of amounts, percentages and dates for readers of a report. Amounts group their digits
by points and have a comma before the fraction.
-/

namespace Spreadsheet.Build

open Spreadsheet.Number

/-- The symbol behind amounts that name none. -/
def defaultCurrency : String := "₫"

/-- Digits in groups of three from the right with points between. -/
def groupDigits : List Char → List Char
  | [] => []
  | c :: rest =>
    if rest.length % 3 = 0 ∧ rest ≠ [] then c :: '.' :: groupDigits rest
    else c :: groupDigits rest

/-- A fraction without the zeros at its end. -/
def trimZeros (ds : List Char) : List Char := (ds.reverse.dropWhile (· == '0')).reverse

/-- A finite amount rounded to three places: the sign unless nothing is left of it, the grouped
digits, and what remains of the fraction. -/
def amountText (x : Binary64) : List Char :=
  let (whole, fraction) := Binary64.splitUnits 3 (x.roundedUnits 3)
  let fraction := trimZeros fraction
  let isNegative := x.negative && (whole.any (· != '0') || !fraction.isEmpty)
  signText isNegative ++ groupDigits whole ++
    (if fraction.isEmpty then [] else ',' :: fraction)

/-- An amount with its currency symbol. -/
def currencyText (x : Binary64) (symbol : String) : String :=
  match x.specialText? with
  | some t => String.ofList t ++ symbol
  | none => String.ofList (amountText x) ++ symbol

/-- A share as a percentage with two places. -/
def percentageText (x : Binary64) : String :=
  String.ofList ((x.mul 100).fixed 2) ++ "%"

/-- The day of a date or time in day, month and year. -/
def dateText? (text : String) : Option String :=
  (Time.DateTime.ofText? text).map fun t => t.date.slashed

end Spreadsheet.Build
