import Spreadsheet.Package.ReadError
import Spreadsheet.Sheet.Basic

/-! Sheets from their documents: cells with their values and styles, row and column settings,
merged ranges, frozen rows and columns, and the filter.
-/

namespace Spreadsheet.Package

open Spreadsheet.Cell Spreadsheet.Number

/-- What cells of a sheet call by number. -/
structure Shared where
  strings : Array String
  styles : Array Style
deriving DecidableEq

/-- What the tag of a cell says. -/
structure CellHead where
  address : Address
  kind : Option String
  style : Nat
deriving DecidableEq, Repr

/-- Where text belongs that is read next. -/
inductive TextPlace where
  | value
  | formula
deriving DecidableEq, Repr

/-- A sheet as far as it is read, and the cell that is being read. -/
structure SheetReading where
  sheet : Sheet
  cell : Option CellHead := none
  value : Option String := none
  formula : Option String := none
  place : Option TextPlace := none
deriving DecidableEq

namespace SheetReading

/-- Applies a change to the sheet. -/
def onSheet (s : SheetReading) (change : Sheet → Except ModelError Sheet)
    : Except ReadError SheetReading := do
  let sheet ← onModel (change s.sheet)
  return { s with sheet }

/-- A change that depends on something that may be missing. -/
def ifGiven (a : Option α) (change : α → Sheet → Except ModelError Sheet) (sheet : Sheet)
    : Except ModelError Sheet :=
  match a with
  | some a => change a sheet
  | none => .ok sheet

/-- What a tag says of rows or columns. -/
structure LineReading where
  size : Option Number.Binary64
  hidden : Bool
  level : Option Nat
deriving DecidableEq, Repr

/-- The visibility and level in a tag, beside a size. -/
def lineReading (size : Option Number.Binary64) (tag : Xml.Tag) : LineReading where
  size := size
  hidden := tag.isOn "hidden"
  level := (tag.nat? "outlineLevel" 256).filter (0 < ·)

/-- Applies what is said of a row or column. -/
def applyLine (axis : Sheet.Axis) (r : LineReading) (i : Nat) (sheet : Sheet)
    : Except ModelError Sheet := do
  let sheet ← ifGiven r.size (fun size s => s.setSize axis i size) sheet
  let sheet ← if r.hidden then sheet.setHidden axis i true else .ok sheet
  ifGiven r.level (fun level s => s.setOutline axis i level) sheet

/-- The setting of a row; a height counts only if it is said to be custom. -/
def applyRow (tag : Xml.Tag) (sheet : Sheet) : Except ModelError Sheet :=
  match tag.nat? "r" rowNumberLimit with
  | none | some 0 => .ok sheet
  | some (row + 1) =>
    let height := if tag.isOn "customHeight" then tag.number? "ht" else none
    applyLine .rows (lineReading height tag) row sheet

/-- The setting of `count` columns from one on. -/
def applyColumns (r : LineReading) : Nat → Nat → Sheet → Except ModelError Sheet
  | 0, _, sheet => .ok sheet
  | count + 1, column, sheet => do
    let sheet ← applyLine .columns r column sheet
    applyColumns r count (column + 1) sheet

/-- The setting of a span of columns. -/
def applyColumnSpan (tag : Xml.Tag) (sheet : Sheet) : Except ModelError Sheet :=
  match tag.nat? "min" (wordLimit 16), tag.nat? "max" (wordLimit 16) with
  | some first, some last =>
    applyColumns (lineReading (tag.number? "width") tag) (last - (first - 1)) (first - 1) sheet
  | _, _ => .ok sheet

/-- A number of rows or columns: whole, and no less and no more than a word can be. -/
def splitAt (tag : Xml.Tag) (name : String) (limit : Nat) : Nat :=
  (tag.number? name).elim 0 (Number.Binary64.floorUpTo (limit - 1))

/-- Frozen rows and columns. -/
def applyPane (tag : Xml.Tag) (sheet : Sheet) : Sheet :=
  if tag.attribute? "state" = some "frozen" then
    sheet.setFreeze (splitAt tag "ySplit" rowNumberLimit) (splitAt tag "xSplit" (wordLimit 16))
  else sheet

def applyMerge (text : String) (sheet : Sheet) : Except ModelError Sheet := do
  let range ← ModelError.parseRange text
  sheet.merge range

def applyFilter (text : String) (sheet : Sheet) : Except ModelError Sheet := do
  let range ← ModelError.parseRange text
  return { sheet with filter := some range }

/-- The address of a cell, the kind of its value and the number of its style. -/
def cellHead (tag : Xml.Tag) : Except ReadError CellHead :=
  match tag.attribute? "r" with
  | none => .error .cellWithoutReference
  | some text => do
    let address ← onModel (ModelError.parseAddress text)
    return ⟨address, tag.attribute? "t", (tag.nat? "s" (wordLimit 32)).getD 0⟩

/-- Gives a cell its style unless it has the default one or none that is known. -/
def applyStyle (shared : Shared) (head : CellHead) (sheet : Sheet) : Except ModelError Sheet :=
  if head.style = 0 then .ok sheet
  else
    ifGiven shared.styles[head.style]?
      (fun style s => s.setStyle head.address.row head.address.column style) sheet

/-- The text with a number. -/
def sharedText (shared : Shared) (raw : String) : Except ReadError Value :=
  match Number.readNat? (wordLimit 64) (Text.trimChars raw.toList) with
  | none => .error (.badStringNumber raw)
  | some number =>
    match shared.strings[number]? with
    | none => .error (.missingString number)
    | some text => .ok (.text text)

/-- The value of a cell from what it holds, by its kind. -/
def rawValue (shared : Shared) (kind : Option String) (raw : String) : Except ReadError Value :=
  match kind with
  | some "s" => sharedText shared raw
  | some "inlineStr" | some "str" => .ok (.text raw)
  | some "b" => .ok (.boolean (Text.trim raw == "1"))
  | _ =>
    match Number.readBinary64? (Text.trimChars raw.toList) with
    | some x => .ok (.number x)
    | none => .error (.badNumber raw)

/-- A formula comes before a value. -/
def cellValue (shared : Shared) (kind value formula : Option String) : Except ReadError Value :=
  match formula, value with
  | some f, _ => .ok (.ofFormula f)
  | none, some raw => rawValue shared kind raw
  | none, none => .ok .empty

def start (s : SheetReading) (tag : Xml.Tag) : Except ReadError SheetReading :=
  match tag.name with
  | "row" => s.onSheet (applyRow tag)
  | "c" => do
    let head ← cellHead tag
    return { s with cell := some head, value := none, formula := none }
  | "v" => .ok { s with place := some .value }
  | "f" => .ok { s with place := some .formula }
  | "t" => .ok (if s.cell.isSome then { s with place := some .value } else s)
  | _ => .ok s

def empty (shared : Shared) (s : SheetReading) (tag : Xml.Tag) : Except ReadError SheetReading :=
  match tag.name with
  | "row" => s.onSheet (applyRow tag)
  | "c" => do
    let head ← cellHead tag
    s.onSheet (applyStyle shared head)
  | "col" => s.onSheet (applyColumnSpan tag)
  | "pane" => .ok { s with sheet := applyPane tag s.sheet }
  | "mergeCell" => s.onSheet (ifGiven (tag.attribute? "ref") applyMerge)
  | "autoFilter" => s.onSheet (ifGiven (tag.attribute? "ref") applyFilter)
  | _ => .ok s

def text (s : SheetReading) (content : Option String) : Except ReadError SheetReading :=
  match s.place with
  | none => .ok s
  | some .value => do
    let text ← known content
    return { s with value := some (s.value.getD "" ++ text) }
  | some .formula => do
    let text ← known content
    return { s with formula := some (s.formula.getD "" ++ text) }

/-- Puts a cell that has been read on the sheet. -/
def finishCell (shared : Shared) (s : SheetReading) (head : CellHead)
    : Except ReadError SheetReading := do
  let value ← cellValue shared head.kind s.value s.formula
  let s := { s with cell := none, value := none, formula := none }
  let s ← s.onSheet fun sheet => sheet.setValue head.address.row head.address.column value
  s.onSheet (applyStyle shared head)

def close (shared : Shared) (s : SheetReading) (name : String) : Except ReadError SheetReading :=
  match name with
  | "v" | "f" | "t" => .ok { s with place := none }
  | "c" =>
    match s.cell with
    | none => .ok s
    | some head => finishCell shared s head
  | _ => .ok s

def step (shared : Shared) (s : SheetReading) : Xml.Event → Except ReadError SheetReading
  | .start tag => s.start tag
  | .empty tag => s.empty shared tag
  | .text content => s.text content
  | .close name => s.close shared name

end SheetReading

/-- The sheet in a part, under its name. -/
def readSheet (p : Package) (shared : Shared) (part name : String) : Except ReadError Sheet := do
  let s ← foldPart p part (SheetReading.step shared) { sheet := { name } }
  return s.sheet

end Spreadsheet.Package
