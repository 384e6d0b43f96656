import Spreadsheet.Cell.Grid
import Spreadsheet.Sheet.Drawing
import Spreadsheet.Sheet.Rule
import Spreadsheet.Sheet.Setting
import Spreadsheet.Sheet.Validation

/-! Sheets and the operations on them. An operation that can fail either changes the sheet or
refuses and leaves it alone; only the grouping of lines may fail halfway.
-/

namespace Spreadsheet

open Spreadsheet.Cell

structure Sheet where
  name : String
  cells : Grid := {}
  columns : Sheet.Settings := ∅
  rows : Sheet.Settings := ∅
  merged : List Range := []
  freeze : Option Sheet.Freeze := none
  filter : Option Range := none
  page : Option Sheet.PageSetup := none
  headerFooter : Option Sheet.HeaderFooter := none
  protection : Option Sheet.Protection := none
  rules : List Sheet.Rule := []
  validations : List Sheet.Validation := []
  charts : List Sheet.Chart := []
  pictures : List Sheet.Picture := []
deriving DecidableEq

namespace Sheet

instance : Inhabited Sheet := ⟨{ name := "" }⟩

/-- The value at any position. -/
def value (s : Sheet) (row column : Nat) : Value := s.cells.value row column

/-- The style at any position. -/
def style (s : Sheet) (row column : Nat) : Style := s.cells.style row column

def setValue (s : Sheet) (row column : Nat) (value : Value) : Except ModelError Sheet := do
  ModelError.checkPosition row column
  return { s with cells := s.cells.setValue row column value }

def setFormula (s : Sheet) (row column : Nat) (text : String) : Except ModelError Sheet :=
  s.setValue row column (.ofFormula text)

def setStyle (s : Sheet) (row column : Nat) (style : Style) : Except ModelError Sheet := do
  ModelError.checkPosition row column
  return { s with cells := s.cells.setStyle row column style }

/-- Changes the style of a cell, starting from the one it has. -/
def updateStyle (s : Sheet) (row column : Nat) (f : Style → Style) : Except ModelError Sheet :=
  s.setStyle row column (f (s.style row column))

/-- The value of the cell with a written address. -/
def valueAt (s : Sheet) (address : String) : Except ModelError Value := do
  let a ← ModelError.parseAddress address
  return s.value a.row a.column

def setValueAt (s : Sheet) (address : String) (value : Value) : Except ModelError Sheet := do
  let a ← ModelError.parseAddress address
  s.setValue a.row a.column value

/-- The least range from the first cell on that holds all kept cells. -/
def dimension? (s : Sheet) : Option Range := do
  let row ← s.cells.lastRow?
  let column ← s.cells.lastColumn?
  return .ofCorners ⟨0, 0⟩ ⟨row, column⟩

/-- Applies a change to the settings of the rows or columns. -/
def onLines (s : Sheet) (axis : Axis) (f : Settings → Except ModelError Settings)
    : Except ModelError Sheet :=
  match axis with
  | .rows => (f s.rows).map fun rows => { s with rows }
  | .columns => (f s.columns).map fun columns => { s with columns }

def setSize (s : Sheet) (axis : Axis) (i : Nat) (size : Number.Binary64)
    : Except ModelError Sheet :=
  s.onLines axis (Settings.setSize axis i size)

def setHidden (s : Sheet) (axis : Axis) (i : Nat) (hidden : Bool) : Except ModelError Sheet :=
  s.onLines axis (Settings.setHidden axis i hidden)

def setOutline (s : Sheet) (axis : Axis) (i level : Nat) : Except ModelError Sheet :=
  s.onLines axis (Settings.setOutline axis i level)

/-- Groups rows or columns. After a failure the lines before it stay grouped. -/
def group (s : Sheet) (axis : Axis) (g : OutlineGroup) : Sheet × Except ModelError Unit :=
  match axis with
  | .rows =>
    let (rows, result) := Settings.group .rows g s.rows
    ({ s with rows }, result)
  | .columns =>
    let (columns, result) := Settings.group .columns g s.columns
    ({ s with columns }, result)

/-- Merges the cells of a range, which may not overlap one merged before. The range is named if it
does. -/
def merge (s : Sheet) (range : Range) : Except ModelError Sheet :=
  if s.merged.any range.overlaps then
    .error (if range.IsNumbered then .mergeConflict range else .overflow)
  else .ok { s with merged := s.merged ++ [range] }

/-- Keeps rows and columns in view; none of either ends that. -/
def setFreeze (s : Sheet) (rows columns : Nat) : Sheet :=
  { s with freeze := if rows = 0 ∧ columns = 0 then none else some ⟨rows, columns⟩ }

def addRule (s : Sheet) (rule : Rule) : Sheet := { s with rules := s.rules ++ [rule] }

def addValidation (s : Sheet) (validation : Validation) : Sheet :=
  { s with validations := s.validations ++ [validation] }

def addChart (s : Sheet) (chart : Chart) : Sheet := { s with charts := s.charts ++ [chart] }

def addPicture (s : Sheet) (picture : Picture) : Sheet :=
  { s with pictures := s.pictures ++ [picture] }

/-- The last row at or below `start` among the last kept cell, the last row setting and the
lower ends of merged ranges. -/
def lastRowFrom? (s : Sheet) (start : Nat) : Option Nat :=
  let rows := s.cells.lastRow?.toList ++ (Numbered.lastKey? s.rows).toList ++
    s.merged.map (·.bottomRight.row)
  (rows.filter (start ≤ ·)).max?

/-- The lowest row that would be moved down has to come to a row of the sheet. -/
def checkLastRow (s : Sheet) (start count : Nat) : Except ModelError Unit :=
  match s.lastRowFrom? start with
  | none => .ok ()
  | some last =>
    if rowNumberLimit ≤ last + count then .error .overflow
    else if maxRows ≤ last + count then .error (.address (.rowOutOfBounds (last + count)))
    else .ok ()

/-- All ranges on a sheet. -/
def ranges (s : Sheet) : List Range :=
  s.merged ++ s.filter.toList ++ s.rules.flatMap (·.ranges) ++ s.validations.flatMap (·.ranges)

/-- All anchors on a sheet. -/
def anchors (s : Sheet) : List Anchor := s.charts.map (·.anchor) ++ s.pictures.map (·.anchor)

/-- The corners of everything that spans cells. -/
def corners (s : Sheet) : List Address :=
  s.ranges.flatMap Range.corners ++ s.anchors.flatMap Anchor.corners

/-- The frozen rows after rows are put in: more of them if that happens inside the split. -/
def Freeze.shiftRows (start count : Nat) (f : Freeze) : Freeze :=
  { f with rows := if start < f.rows then f.rows + count else f.rows }

/-- The rows of the split fit in their word after rows are put in. -/
def Freeze.RowsFit (start count : Nat) (f : Freeze) : Prop :=
  start < f.rows → f.rows + count < rowNumberLimit

instance (start count : Nat) (f : Freeze) : Decidable (f.RowsFit start count) :=
  inferInstanceAs (Decidable (start < f.rows → f.rows + count < rowNumberLimit))

/-- Whatever is moved down along with the cells comes to a row number that fits in its word. -/
def RowsFit (s : Sheet) (start count : Nat) : Prop :=
  (∀ a ∈ s.corners, RowFits start count a.row) ∧ ∀ f ∈ s.freeze, f.RowsFit start count

instance (s : Sheet) (start count : Nat) : Decidable (s.RowsFit start count) :=
  inferInstanceAs (Decidable (_ ∧ _))

/-- Everything on the sheet after `count` rows are put in above row `start`. -/
def shiftRows (s : Sheet) (start count : Nat) : Sheet :=
  { s with
    cells := s.cells.shiftRows start count
    rows := s.rows.shiftRows start count
    merged := s.merged.map (·.shiftRows start count)
    freeze := s.freeze.map (·.shiftRows start count)
    filter := s.filter.map (·.shiftRows start count)
    rules := s.rules.map (·.shiftRows start count)
    validations := s.validations.map (·.shiftRows start count)
    charts := s.charts.map (·.shiftRows start count)
    pictures := s.pictures.map (·.shiftRows start count) }

/-- Puts in `count` empty rows above row `start`, unless cells, settings of rows or merged ranges
would leave the sheet. Nothing else is held back by the end of the sheet, only by that of row
numbers. -/
def insertRows (s : Sheet) (start count : Nat) : Except ModelError Sheet :=
  if count = 0 then .ok s
  else do
    s.checkLastRow start count
    if s.RowsFit start count then return s.shiftRows start count else throw .overflow

/-- The row numbers in all addresses that are written out for the sheet fit in their words. Cells
are not asked, since none can be kept beyond the last row of a sheet. -/
def IsNumbered (s : Sheet) : Prop :=
  (∀ r ∈ s.ranges, r.IsNumbered) ∧ ∀ f ∈ s.freeze, f.topLeftCell.IsNumbered

instance (s : Sheet) : Decidable s.IsNumbered := inferInstanceAs (Decidable (_ ∧ _))

end Sheet

end Spreadsheet
