import Spreadsheet.Cell.Range

/-! Why a sheet or a workbook refuses a change.
-/

namespace Spreadsheet

/-- Sheet names have at most this many characters. -/
def maxNameLength : Nat := 31

/-- Rows and columns can be grouped this deep. -/
def maxOutlineLevel : Nat := 7

inductive NameError where
  | blank
  | tooLong (name : String)
  | forbidden (name : String) (character : Char)
deriving DecidableEq, Repr

def NameError.message : NameError → String
  | .blank => "Invalid sheet name: Sheet name cannot be empty"
  | .tooLong name =>
    "Invalid sheet name: '" ++ name ++ "' is longer than " ++ Nat.repr maxNameLength ++
      " characters"
  | .forbidden name character =>
    "Invalid sheet name: '" ++ name ++ "' cannot contain '" ++ character.toString ++ "'"

/-- How an operation fails. All failures but one are refusals, of which the caller is told; a row
number that does not fit in its word ends the program. -/
inductive ModelError where
  | address (cause : Cell.AddressError)
  | range (cause : Cell.RangeError)
  | sheetName (cause : NameError)
  | duplicateSheetName (name : String)
  | mergeConflict (range : Cell.Range)
  | outlineTooDeep (level : Nat)
  | other (message : String)
  | overflow
deriving DecidableEq, Repr

namespace ModelError

instance : Coe Cell.AddressError ModelError := ⟨.address⟩

def message : ModelError → String
  | .address cause => cause.message
  | .range cause => cause.message
  | .sheetName cause => cause.message
  | .duplicateSheetName name => "Sheet name already exists: " ++ name
  | .mergeConflict r => "Range " ++ r.text ++ " overlaps an existing merged region"
  | .outlineTooDeep level =>
    "Outline level " ++ Nat.repr level ++ " exceeds the maximum of " ++ Nat.repr maxOutlineLevel
  | .other message => message
  | .overflow => "attempt to add with overflow"

/-- The address a text names. -/
def parseAddress (s : String) : Except ModelError Cell.Address :=
  (Cell.Address.parse s).mapError .address

/-- The range a text names. -/
def parseRange (s : String) : Except ModelError Cell.Range :=
  (Cell.Range.parse s).mapError .range

/-- The position lies on a sheet. -/
def checkPosition (row column : Nat) : Except ModelError Unit :=
  (Cell.Address.check ⟨row, column⟩).mapError .address

end ModelError

end Spreadsheet
