import Spreadsheet.Number.Reader
import Spreadsheet.Text.Blank

/-! Cell addresses such as `AB12`: column letters in bijective base 26 and a row number.
Rows and columns are counted from zero here and from one in the written form. Row numbers are
32-bit words, and a sum of them that does not fit in such a word ends the program. The functions
here add without that limit; which sums fit is asked before by those that use them.
-/

namespace Spreadsheet.Cell

open Spreadsheet.Text

/-- A sheet has this many rows. -/
def maxRows : Nat := 1048576

/-- A sheet has this many columns. -/
def maxColumns : Nat := 16384

/-- Row numbers are words, all of them less than this number. -/
def rowNumberLimit : Nat := Number.wordLimit 32

structure Address where
  row : Nat
  column : Nat
deriving DecidableEq, Repr

/-- Why a text names no cell, no row or no column of a sheet. -/
inductive AddressError where
  | noRowNumber (text : String)
  | noColumnLetters (text : String)
  | badRowNumber (text : String)
  | emptyColumn
  | badColumnLetter (letter : Char)
  | rowNumberZero
  | rowOutOfBounds (row : Nat)
  | columnOutOfBounds (column : Nat)
deriving DecidableEq, Repr

/-- The cause behind the words that announce a bad address. -/
def AddressError.message : AddressError → String
  | .noRowNumber text => badAddress ("no row number in '" ++ text ++ "'")
  | .noColumnLetters text => badAddress ("no column letters in '" ++ text ++ "'")
  | .badRowNumber text => badAddress ("invalid row number in '" ++ text ++ "'")
  | .emptyColumn => badAddress "empty column letters"
  | .badColumnLetter letter => badAddress ("invalid column letter '" ++ letter.toString ++ "'")
  | .rowNumberZero => badAddress "row numbers start at 1"
  | .rowOutOfBounds row =>
    "Row index " ++ Nat.repr row ++ " out of bounds (max: " ++ Nat.repr (maxRows - 1) ++ ")"
  | .columnOutOfBounds column =>
    "Column index " ++ Nat.repr column ++ " out of bounds (max: " ++
      Nat.repr (maxColumns - 1) ++ ")"
where
  badAddress (detail : String) : String := "Invalid cell address: " ++ detail

/-- The place of a letter in the alphabet, counted from one, in either case. -/
def letterValue (c : Char) : Nat := c.toUpper.toNat - 'A'.toNat + 1

/-- The value of column letters behind a value already read. The first value beyond the last
column ends the reading, so that it never grows large. -/
def lettersValue (n : Nat) : List Char → Except AddressError Nat
  | [] => .ok n
  | c :: rest =>
    if !c.isAlpha then .error (.badColumnLetter c)
    else
      let n := n * 26 + letterValue c
      if maxColumns < n then .error (.columnOutOfBounds (n - 1)) else lettersValue n rest

/-- The column with the given letters, white space around them aside. -/
def columnIndex (s : String) : Except AddressError Nat :=
  let letters := trimChars s.toList
  if letters.isEmpty then .error .emptyColumn
  else (lettersValue 0 letters).map (· - 1)

/-- The letters of a number of a column, counted from one, before letters already known. -/
def lettersBefore (known : List Char) (n : Nat) : List Char :=
  if n = 0 then known
  else lettersBefore (Char.ofNat ('A'.toNat + (n - 1) % 26) :: known) ((n - 1) / 26)
termination_by n
decreasing_by omega

/-- The letters of a column. -/
def columnLetters (column : Nat) : String := String.ofList (lettersBefore [] (column + 1))

/-- The row with a given number, counted from one. -/
def rowIndex (number : Nat) : Except AddressError Nat :=
  if number = 0 then .error .rowNumberZero
  else if maxRows ≤ number - 1 then .error (.rowOutOfBounds (number - 1))
  else .ok (number - 1)

/-- A row moved down by `count` rows if it stands at or below row `start`. -/
def shiftRow (start count row : Nat) : Nat := if start ≤ row then row + count else row

/-- If the row is moved down at all, its new number fits in its word. -/
def RowFits (start count row : Nat) : Prop := start ≤ row → row + count < rowNumberLimit

instance (start count row : Nat) : Decidable (RowFits start count row) :=
  inferInstanceAs (Decidable (start ≤ row → row + count < rowNumberLimit))

namespace Address

/-- The row number as written. -/
def rowNumber (a : Address) : Nat := a.row + 1

/-- The row number that is written fits in its word. -/
def IsNumbered (a : Address) : Prop := a.rowNumber < rowNumberLimit

instance (a : Address) : Decidable a.IsNumbered := inferInstanceAs (Decidable (_ < _))

/-- Column letters and row number. -/
def text (a : Address) : String := columnLetters a.column ++ Nat.repr a.rowNumber

/-- Reads an address; dollar signs count for nothing, and so does white space around it. -/
def parse (s : String) : Except AddressError Address :=
  let trimmed := trimChars s.toList
  let text := String.ofList trimmed
  let cleaned := trimmed.filter (· != '$')
  let letters := cleaned.takeWhile Char.isAlpha
  let digits := cleaned.dropWhile Char.isAlpha
  if digits.isEmpty then .error (.noRowNumber text)
  else if letters.isEmpty then .error (.noColumnLetters text)
  else if !digits.all Char.isDigit then .error (.badRowNumber text)
  else do
    let column ← columnIndex (String.ofList letters)
    match Number.readNat? rowNumberLimit digits with
    | none => .error (.badRowNumber text)
    | some number =>
      let row ← rowIndex number
      return ⟨row, column⟩

/-- The address after `count` rows are put in above row `start`. -/
def shiftRows (start count : Nat) (a : Address) : Address :=
  { a with row := shiftRow start count a.row }

/-- The position lies on a sheet. -/
def check (a : Address) : Except AddressError Unit :=
  if maxRows ≤ a.row then .error (.rowOutOfBounds a.row)
  else if maxColumns ≤ a.column then .error (.columnOutOfBounds a.column)
  else .ok ()

end Address

end Spreadsheet.Cell
