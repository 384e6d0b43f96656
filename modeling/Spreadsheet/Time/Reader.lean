import Spreadsheet.Number.Reader
import Spreadsheet.Text.Blank
import Spreadsheet.Time.Date

/-! Reading dates and times. Two grammars: a lenient one for local dates and times, where
fields may have fewer digits and white space in front, and the strict one of Internet
timestamps with an offset.
-/

namespace Spreadsheet.Time

open Spreadsheet.Number Spreadsheet.Text

/-- Up to `width` digits at the front, at least one. -/
def readDigits? (width : Nat) (s : List Char) : Option (Nat × List Char) :=
  let ds := (s.take width).takeWhile Char.isDigit
  if ds.isEmpty then none else some (digitsValue ds, s.drop ds.length)

/-- Exactly `width` digits at the front. -/
def readExactDigits? (width : Nat) (s : List Char) : Option (Nat × List Char) :=
  let ds := s.take width
  if ds.length = width && ds.all Char.isDigit then some (digitsValue ds, s.drop width)
  else none

/-- One given character at the front. -/
def readChar? (c : Char) : List Char → Option (List Char)
  | d :: rest => if d = c then some rest else none
  | [] => none

/-- A field of up to two digits behind white space. -/
def readField? (s : List Char) : Option (Nat × List Char) := readDigits? 2 (trimStart s)

/-- A year behind white space: up to four digits, or any number of them behind a sign. -/
def readYear? (s : List Char) : Option (Int × List Char) :=
  match trimStart s with
  | '-' :: rest => (readDigits? rest.length rest).map fun (n, rest) => (-(n : Int), rest)
  | '+' :: rest => (readDigits? rest.length rest).map fun (n, rest) => ((n : Int), rest)
  | rest => (readDigits? 4 rest).map fun (n, rest) => ((n : Int), rest)

/-- A fraction of a second in nanoseconds, if a point comes next. The point needs a digit, and
digits behind the ninth are skipped. -/
def readFraction? : List Char → Option (Nat × List Char)
  | '.' :: rest =>
    match readDigits? 9 rest with
    | none => none
    | some (n, after) =>
      let taken := rest.length - after.length
      some (n * Nat.pow 10 (9 - taken), after.dropWhile Char.isDigit)
  | s => some (0, s)

/-- A local date at the front: year, month and day between hyphens. -/
def readLocalDate? (s : List Char) : Option (Date × List Char) := do
  let (year, s) ← readYear? s
  let s ← readChar? '-' s
  let (month, s) ← readField? s
  let s ← readChar? '-' s
  let (day, s) ← readField? s
  let date ← Date.of? year month day
  return (date, s)

/-- A local time of day on a date, up to the end of the text. -/
def readLocalTime? (date : Date) (s : List Char) : Option DateTime := do
  let (hour, s) ← readField? s
  let s ← readChar? ':' s
  let (minute, s) ← readField? s
  let s ← readChar? ':' s
  let (second, s) ← readField? s
  let (nanosecond, s) ← readFraction? s
  if s.isEmpty then DateTime.of? date hour minute second nanosecond else none

/-- A local date, or a local date and time with `T` or white space between them. -/
def readLocal? (s : List Char) : Option DateTime := do
  let (date, rest) ← readLocalDate? s
  match rest with
  | [] => return .ofDate date
  | 'T' :: time => readLocalTime? date time
  | time => readLocalTime? date (trimStart time)

/-- An offset in seconds: `Z`, or a sign, two digits of hours and two of minutes. -/
def readOffset? : List Char → Option (Int × List Char)
  | 'Z' :: rest | 'z' :: rest => some (0, rest)
  | sign :: rest => do
    let negative ← if sign = '+' then some false
      else if sign = '-' || sign = '−' then some true else none
    let (hours, rest) ← readExactDigits? 2 rest
    let rest ← readChar? ':' rest
    let (minutes, rest) ← readExactDigits? 2 rest
    if 24 ≤ hours || 60 ≤ minutes then none
    else
      let seconds : Int := 3600 * hours + 60 * minutes
      return (if negative then -seconds else seconds, rest)
  | [] => none

/-- An Internet timestamp: the local time and its offset in seconds. -/
def readTimestamp? (s : List Char) : Option (DateTime × Int) := do
  let (year, s) ← readExactDigits? 4 s
  let s ← readChar? '-' s
  let (month, s) ← readExactDigits? 2 s
  let s ← readChar? '-' s
  let (day, s) ← readExactDigits? 2 s
  let s ← match s with
    | 'T' :: rest | 't' :: rest | ' ' :: rest => some rest
    | _ => none
  let (hour, s) ← readExactDigits? 2 s
  let s ← readChar? ':' s
  let (minute, s) ← readExactDigits? 2 s
  let s ← readChar? ':' s
  let (second, s) ← readExactDigits? 2 s
  let (nanosecond, s) ← readFraction? s
  let (offset, s) ← readOffset? s
  let date ← Date.of? year month day
  let time ← DateTime.of? date hour minute second nanosecond
  if s.isEmpty then return (time, offset) else none

/-- The local time of an ISO 8601 text, white space around it aside: a date, a date and time,
or a timestamp whose offset is only checked. -/
def DateTime.ofText? (text : String) : Option DateTime :=
  let s := trimChars text.toList
  match readLocal? s with
  | some t => some t
  | none => (readTimestamp? s).map (·.1)

/-- The moment of an Internet timestamp in universal time, white space around it aside. -/
def DateTime.ofTimestamp? (text : String) : Option DateTime :=
  (readTimestamp? (trimChars text.toList)).map fun (t, offset) => t.minusSeconds offset

end Spreadsheet.Time
