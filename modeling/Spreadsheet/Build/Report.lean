import Spreadsheet.Build.Table
import Spreadsheet.Time.Text

/-! Sheets in report layout: a table whose data rows are striped and that has, if its metadata
give a title, a block of three rows above it.
-/

namespace Spreadsheet.Build

open Spreadsheet.Request Spreadsheet.Style

/-- The color of striped rows. -/
def stripeColor : Color := .argb 0xFF 0xF5 0xF5 0xF5

/-- The number of rows that a title block takes. -/
def titleRows : Nat := 3

def titleStyle : Style where
  font := { size := 16, bold := true }
  alignment := { horizontal := .center }

/-- Stripes one cell unless it has a fill already. -/
def stripeCell (row i : Nat) (sheet : Sheet) : Except BuildError Sheet := do
  let c ← columnAt i
  if (sheet.style row c).fill.isNone then
    onModel (sheet.updateStyle row c fun s => { s with fill := .solid stripeColor })
  else return sheet

/-- Stripes the cells of a data row under the declared columns, in every other row. -/
def stripeRow (columns : Nat) (i : Nat) (sheet : Sheet) : Except BuildError Sheet :=
  if i % 2 = 0 then do
    let row ← dataRowAt i
    forEach (stripeCell row) (List.range columns) sheet
  else .ok sheet

/-- Stripes the first, third, fifth and so on of the data rows. -/
def stripeRows (spec : SheetSpec) (sheet : Sheet) : Except BuildError Sheet :=
  forEach (stripeRow spec.columns.length) (List.range spec.data.length) sheet

/-- Puts the title and the day above the table, each across all columns. -/
def writeTitle (today : Time.Date) (spec : SheetSpec) (title : String) (sheet : Sheet)
    : Except BuildError Sheet := do
  let sheet ← onModel (sheet.insertRows 0 titleRows)
  let sheet ← onModel (sheet.setValue 0 0 (.text title))
  let sheet ← onModel (sheet.setStyle 0 0 titleStyle)
  let sheet ← onModel (sheet.setValue 1 0 (.text ("Generated: " ++ today.slashed)))
  if spec.columns.length < 2 then return sheet
  else
    let last ← columnAt (spec.columns.length - 1)
    let sheet ← onModel (sheet.merge (.ofCorners ⟨0, 0⟩ ⟨0, last⟩))
    onModel (sheet.merge (.ofCorners ⟨1, 0⟩ ⟨1, last⟩))

/-- Stripes and titles a finished table. -/
def decorate (today : Time.Date) (spec : SheetSpec) (sheet : Sheet)
    : Except BuildError Sheet := do
  let sheet ← stripeRows spec sheet
  match spec.title? with
  | none => return sheet
  | some title => writeTitle today spec title sheet

/-- A sheet in report layout. -/
def reportSheet (can : Capabilities) (today : Time.Date) (spec : SheetSpec)
    : Logged BuildError Sheet := do
  let sheet ← tableSheet can spec
  decorate today spec sheet

end Spreadsheet.Build
