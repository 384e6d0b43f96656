import Spreadsheet.Sheet.Basic
import Spreadsheet.Time.Date

/-! Workbooks: sheets with distinct names in the order of their tabs, and properties.
-/

namespace Spreadsheet

structure Properties where
  title : Option String := none
  subject : Option String := none
  creator : Option String := none
  description : Option String := none
  company : Option String := none
  category : Option String := none
  keywords : List String := []
  created : Option Time.DateTime := none
  modified : Option Time.DateTime := none
deriving DecidableEq, Repr

structure Workbook where
  sheets : List Sheet := []
  properties : Properties := {}
deriving DecidableEq

namespace Workbook

instance : Inhabited Workbook := ⟨{}⟩

/-- Sheet names may not hold these characters. -/
def forbiddenInNames : List Char := [':', '\\', '/', '?', '*', '[', ']']

/-- The first fault of a sheet name by itself. -/
def checkName (name : String) : Except NameError Unit :=
  if Text.isBlankText name then .error .blank
  else if maxNameLength < name.length then .error (.tooLong name)
  else
    match name.toList.find? (forbiddenInNames.contains ·) with
    | some c => .error (.forbidden name c)
    | none => .ok ()

/-- The same name, whatever the case of its letters. -/
def sameName (a b : String) : Bool := Text.lower a == Text.lower b

/-- A sheet of this name can join the workbook. -/
def checkNewName (w : Workbook) (name : String) : Except ModelError Unit := do
  (checkName name).mapError ModelError.sheetName
  if w.sheets.any (sameName ·.name name) then throw (.duplicateSheetName name)

/-- Adds a sheet behind the others. -/
def add (w : Workbook) (sheet : Sheet) : Except ModelError Workbook := do
  w.checkNewName sheet.name
  return { w with sheets := w.sheets ++ [sheet] }

/-- The sheet with exactly this name. -/
def find? (w : Workbook) (name : String) : Option Sheet := w.sheets.find? (·.name == name)

/-- The workbook as if it was made and last changed at some moment. -/
def stamped (w : Workbook) (now : Time.DateTime) : Workbook :=
  { w with properties := { w.properties with created := some now, modified := some now } }

end Workbook

end Spreadsheet
