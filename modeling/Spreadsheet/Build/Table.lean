import Spreadsheet.Build.CellValue
import Spreadsheet.Build.Drawings
import Spreadsheet.Build.Rules

/-! Sheets in table layout: a header row, the data rows below it and, if declared, a row of
totals below those; then everything that is declared for the sheet as a whole.
-/

namespace Spreadsheet.Build

open Spreadsheet.Request Spreadsheet.Sheet Spreadsheet.Style

/-- The column of the declared column with a position. -/
def columnAt (i : Nat) : Except BuildError Nat :=
  if i < Cell.maxColumns then .ok i else .error (.tooManyColumns (i + 1))

/-- The row of the data row with a position; the header stands above the first one. -/
def dataRowAt (i : Nat) : Except BuildError Nat :=
  if i + 1 < Cell.maxRows then .ok (i + 1) else .error (.tooManyRows (i + 1))

/-- The color behind column headers. -/
def headerColor : Color := .argb 0xFF 0xE0 0xE0 0xE0

/-- The height of the header row. -/
def headerHeight : Number.Binary64 := 20

/-- Column headers are bold, centered and gray. -/
def headerStyle : Style where
  font := { size := 11, bold := true }
  fill := .solid headerColor
  alignment := { horizontal := .center, vertical := .center }

/-- A style with a declared one laid over it, if there is one. -/
def withOverlay (spec : Option StyleSpec) (style : Style) : Except BuildError Style :=
  match spec with
  | none => .ok style
  | some spec => overlaid spec style

/-- Does a step for each item of a list with its position. -/
def forEachFrom (step : Nat → α → σ → Except BuildError σ)
    : Nat → List α → σ → Except BuildError σ
  | _, [], s => .ok s
  | i, a :: rest, s => do
    let s ← step i a s
    forEachFrom step (i + 1) rest s

/-- Does a step for each item of a list. -/
def forEach (step : α → σ → Except BuildError σ) (list : List α) (s : σ) : Except BuildError σ :=
  forEachFrom (fun _ => step) 0 list s

/-- Writes the header of one column and sets its width. -/
def writeHeaderCell (i : Nat) (column : ColumnSpec) (sheet : Sheet) : Except BuildError Sheet := do
  let c ← columnAt i
  let sheet ← onModel (sheet.setSize .columns c column.width)
  let sheet ← onModel (sheet.setValue 0 c (.text column.header))
  let style ← withOverlay column.style headerStyle
  onModel (sheet.setStyle 0 c style)

def writeHeader (spec : SheetSpec) (sheet : Sheet) : Except BuildError Sheet := do
  let sheet ← forEachFrom writeHeaderCell 0 spec.columns sheet
  onModel (sheet.setSize .rows 0 headerHeight)

/-- The number format of a column: the one it names, or else that of its kind. -/
def columnFormat (column : ColumnSpec) : NumberFormat :=
  match column.format with
  | some code => if code.isEmpty then kindFormat else .ofCode code
  | none => kindFormat
where
  kindFormat : NumberFormat :=
    if column.kind.isSome then .ofCode (defaultFormat column.kind) else .general

/-- The style of a column's data cells. -/
def columnStyle (column : ColumnSpec) : Except BuildError Style :=
  withOverlay column.style { format := columnFormat column }

/-- Writes one data cell: its value unless it is empty, its style unless it is the default. -/
def writeDataCell (row : Nat) (data : Json.Members) (i : Nat) (column : ColumnSpec × Style)
    (sheet : Sheet) : Except BuildError Sheet := do
  let c ← columnAt i
  let value := cellValue column.1.kind (data.get? column.1.key)
  let sheet ← if value.isEmpty then .ok sheet else onModel (sheet.setValue row c value)
  if column.2 = {} then .ok sheet else onModel (sheet.setStyle row c column.2)

def writeRow (columns : List (ColumnSpec × Style)) (i : Nat) (data : Json.Members)
    (sheet : Sheet) : Except BuildError Sheet := do
  let row ← dataRowAt i
  forEachFrom (writeDataCell row data) 0 columns sheet

def writeRows (spec : SheetSpec) (sheet : Sheet) : Except BuildError Sheet := do
  let styles ← spec.columns.mapM columnStyle
  forEachFrom (writeRow (spec.columns.zip styles)) 0 spec.data sheet

/-- Validates the data cells of one column. -/
def attachValidation (lastRow i : Nat) (column : ColumnSpec) (sheet : Sheet)
    : Except BuildError Sheet :=
  match column.validation with
  | none => .ok sheet
  | some spec => do
    let c ← columnAt i
    let v ← validation spec (.ofCorners ⟨1, c⟩ ⟨lastRow, c⟩)
    return sheet.addValidation v

/-- Validates the data cells; without data there is nothing to validate. -/
def attachValidations (spec : SheetSpec) (sheet : Sheet) : Except BuildError Sheet :=
  if spec.data.isEmpty then .ok sheet
  else do
    let lastRow ← dataRowAt (spec.data.length - 1)
    forEachFrom (attachValidation lastRow) 0 spec.columns sheet

def pageSetup (spec : PageSpec) : PageSetup :=
  let base : Margins := {}
  let m := spec.margins.getD {}
  { orientation := spec.orientation.getD .portrait
    paperSize := spec.paperSize
    fitToPage := spec.fitToPage.getD false
    fitToWidth := spec.fitToWidth
    fitToHeight := spec.fitToHeight
    margins := {
      top := m.top.getD base.top
      bottom := m.bottom.getD base.bottom
      left := m.left.getD base.left
      right := m.right.getD base.right
      header := m.header.getD base.header
      footer := m.footer.getD base.footer
    } }

/-- Protection, if it is switched on. -/
def protection? (spec : ProtectionSpec) : Option Protection :=
  if spec.sheet = some true then
    some {
      password := spec.password.getD ""
      formatCells := spec.formatCells.getD false
      formatColumns := spec.formatColumns.getD false
      formatRows := spec.formatRows.getD false
      insertColumns := spec.insertColumns.getD false
      insertRows := spec.insertRows.getD false
      deleteColumns := spec.deleteColumns.getD false
      deleteRows := spec.deleteRows.getD false
    }
  else none

/-- Keeps the rows above and the columns left of a cell in view. -/
def applyFreeze (cell : Option String) (sheet : Sheet) : Except BuildError Sheet :=
  match cell with
  | none => .ok sheet
  | some text => do
    let a ← onModel (ModelError.parseAddress text)
    return sheet.setFreeze a.row a.column

/-- Puts a filter on the header row, if there are columns. -/
def applyFilter (spec : SheetSpec) (wanted : Option Bool) (sheet : Sheet)
    : Except BuildError Sheet :=
  if wanted = some true ∧ spec.columns ≠ [] then do
    let last ← columnAt (spec.columns.length - 1)
    return { sheet with filter := some (.ofCorners ⟨0, 0⟩ ⟨0, last⟩) }
  else .ok sheet

/-- Writes one total: a bold formula in the first column with its key. -/
def writeTotal (spec : SheetSpec) (row : Nat) (total : String × String) (sheet : Sheet)
    : Except BuildError Sheet :=
  match spec.columnPosition? total.1 with
  | none => .ok sheet
  | some i => do
    let c ← columnAt i
    let sheet ← onModel (sheet.setFormula row c total.2)
    onModel (sheet.updateStyle row c fun s => { s with font := { s.font with bold := true } })

def writeTotals (spec : SheetSpec) (totals : Option (List (String × String))) (sheet : Sheet)
    : Except BuildError Sheet :=
  match totals with
  | none => .ok sheet
  | some totals => do
    let row ← dataRowAt spec.data.length
    forEach (writeTotal spec row) totals sheet

/-- Adds a rule; earlier rules come before later ones. -/
def addRule (i : Nat) (spec : RuleSpec) (sheet : Sheet) : Except BuildError Sheet := do
  let r ← rule (i + 1) spec
  return sheet.addRule r

def mergeCells (text : String) (sheet : Sheet) : Except BuildError Sheet := do
  let range ← onModel (ModelError.parseRange text)
  onModel (sheet.merge range)

/-- The row with a number, counted from one. -/
def rowOfNumber (number : Nat) : Except BuildError Nat :=
  onModel ((Cell.rowIndex number).mapError .address)

/-- The column with the given letters. -/
def columnOfLetters (letters : String) : Except BuildError Nat :=
  onModel ((Cell.columnIndex letters).mapError .address)

def setRowHeight (entry : String × Number.Binary64) (sheet : Sheet) : Except BuildError Sheet := do
  match Number.readNat? Cell.rowNumberLimit (Text.trimChars entry.1.toList) with
  | none => .error (.badRowNumber entry.1)
  | some number =>
    let row ← rowOfNumber number
    onModel (sheet.setSize .rows row entry.2)

def hideRow (number : Nat) (sheet : Sheet) : Except BuildError Sheet := do
  let row ← rowOfNumber number
  onModel (sheet.setHidden .rows row true)

def hideColumn (letters : String) (sheet : Sheet) : Except BuildError Sheet := do
  let column ← columnOfLetters letters
  onModel (sheet.setHidden .columns column true)

/-- Groups a span of rows or columns. -/
def groupLines (axis : Axis) (g : OutlineGroup) (sheet : Sheet) : Except BuildError Sheet :=
  match sheet.group axis g with
  | (sheet, .ok ()) => .ok sheet
  | (_, .error e) => .error (.model e)

def groupRows (g : RowGroupSpec) (sheet : Sheet) : Except BuildError Sheet := do
  let first ← rowOfNumber g.first
  let last ← rowOfNumber g.last
  groupLines .rows (.ofEnds first last (g.collapsed.getD false)) sheet

def groupColumns (g : ColumnGroupSpec) (sheet : Sheet) : Except BuildError Sheet := do
  let first ← columnOfLetters g.first
  let last ← columnOfLetters g.last
  groupLines .columns (.ofEnds first last (g.collapsed.getD false)) sheet

/-- Settings that replace what was there: page, header and footer, and protection. -/
def applyLayout (f : FormattingSpec) (sheet : Sheet) : Sheet :=
  { sheet with
    page := (f.page.map pageSetup).or sheet.page
    headerFooter := f.headerFooter.or sheet.headerFooter
    protection := (f.protection.bind protection?).or sheet.protection }

/-- What is declared for the sheet as a whole, in a fixed order. -/
def applyFormatting (spec : SheetSpec) (f : FormattingSpec) (sheet : Sheet)
    : Except BuildError Sheet := do
  let sheet ← applyFreeze f.freezePanes sheet
  let sheet ← applyFilter spec f.autoFilter sheet
  let sheet := applyLayout f sheet
  let sheet ← writeTotals spec f.totals sheet
  let sheet ← forEachFrom addRule 0 f.rules sheet
  let sheet ← forEach mergeCells f.mergedCells sheet
  let sheet ← forEach setRowHeight f.rowHeights sheet
  let sheet ← forEach hideRow f.hiddenRows sheet
  let sheet ← forEach hideColumn f.hiddenColumns sheet
  let sheet ← forEach groupRows f.rowGroups sheet
  forEach groupColumns f.columnGroups sheet

/-- The cells, validations and formatting of a sheet. -/
def tableCells (spec : SheetSpec) : Except BuildError Sheet := do
  let sheet ← writeHeader spec { name := spec.name }
  let sheet ← writeRows spec sheet
  let sheet ← attachValidations spec sheet
  match spec.formatting with
  | none => return sheet
  | some f => applyFormatting spec f sheet

/-- A sheet in table layout. -/
def tableSheet (can : Capabilities) (spec : SheetSpec) : Logged BuildError Sheet := do
  let sheet ← tableCells spec
  let sheet ← if spec.charts.isEmpty then pure sheet else addCharts can spec.charts sheet
  addPictures can 0 spec.pictures sheet

end Spreadsheet.Build
