import Spreadsheet.Cell.Range
import Spreadsheet.Request.Spec
import Spreadsheet.Style.Basic

/-! The texts of a request that stand for something else, a cell, a column, a color or the name
of a pattern, and are read only when a workbook is built of it. It depends on the fields around a
text whether there is any use for it.
-/

namespace Spreadsheet.Request

open Spreadsheet.Style

-----------------------------------------------------------------------------------------
-- References
-----------------------------------------------------------------------------------------

/-- A text by what it should be read as. -/
inductive Reference where
  | address (text : String)
  | range (text : String)
  | ranges (text : String)
  | column (letters : String)
  | rowNumber (text : String)
  | color (text : ColorText)
  | pattern (name : String)
  | line (name : String)
  | comparison (name : String)
deriving DecidableEq, Repr

/-- The text is one that its own reader accepts. -/
def Reference.isAccepted : Reference → Bool
  | .address text => (Cell.Address.parse text).isOk
  | .range text => (Cell.Range.parse text).isOk
  | .ranges text =>
    let parts := Text.words text
    !parts.isEmpty && parts.all fun part => (Cell.Range.parse part).isOk
  | .column letters => (Cell.columnIndex letters).isOk
  | .rowNumber text =>
    match Number.readNat? Cell.rowNumberLimit (Text.trimChars text.toList) with
    | some number => (Cell.rowIndex number).isOk
    | none => false
  | .color text => (Color.ofHex? text).isSome
  | .pattern name => (Pattern.ofName? name).isSome
  | .line name => (LineKind.ofName? name).isSome
  | .comparison name => (Sheet.Comparison.ofName? name).isSome

/-- All of the texts are accepted. -/
def AllAccepted (texts : List Reference) : Prop := ∀ text ∈ texts, text.isAccepted = true

@[simp] theorem allAccepted_nil : AllAccepted [] := nofun

@[simp] theorem allAccepted_cons {text : Reference} {texts : List Reference}
    : AllAccepted (text :: texts) ↔ text.isAccepted = true ∧ AllAccepted texts :=
  List.forall_mem_cons

@[simp] theorem allAccepted_append {texts others : List Reference}
    : AllAccepted (texts ++ others) ↔ AllAccepted texts ∧ AllAccepted others :=
  List.forall_mem_append

@[simp] theorem allAccepted_flatMap {items : List α} {texts : α → List Reference}
    : AllAccepted (items.flatMap texts) ↔ ∀ item ∈ items, AllAccepted (texts item) :=
  List.forall_mem_flatMap

@[simp] theorem allAccepted_map {items : List α} {text : α → Reference}
    : AllAccepted (items.map text) ↔ ∀ item ∈ items, (text item).isAccepted = true :=
  List.forall_mem_map

-----------------------------------------------------------------------------------------
-- The references of a request
-----------------------------------------------------------------------------------------

def FontSpec.references (spec : FontSpec) : List Reference := spec.color.toList.map .color

def FillSpec.references (spec : FillSpec) : List Reference :=
  .pattern spec.pattern :: .color spec.foreground :: spec.background.toList.map .color

def EdgeSpec.references (spec : EdgeSpec) : List Reference := [.line spec.line, .color spec.color]

def BorderSpec.references (spec : BorderSpec) : List Reference :=
  (spec.top.toList ++ spec.bottom.toList ++ spec.left.toList ++ spec.right.toList).flatMap
    EdgeSpec.references

def StyleSpec.references (spec : StyleSpec) : List Reference :=
  spec.font.toList.flatMap FontSpec.references ++ spec.fill.toList.flatMap FillSpec.references ++
    spec.border.toList.flatMap BorderSpec.references

def ValidationSpec.references (spec : ValidationSpec) : List Reference :=
  spec.comparison.toList.map .comparison

def ColumnSpec.references (spec : ColumnSpec) : List Reference :=
  spec.style.toList.flatMap StyleSpec.references ++
    spec.validation.toList.flatMap ValidationSpec.references

def RuleFillSpec.references (spec : RuleFillSpec) : List Reference :=
  spec.pattern.toList.map .pattern ++ spec.foreground.toList.map .color ++
    spec.background.toList.map .color

def RuleStyleSpec.references (spec : RuleStyleSpec) : List Reference :=
  spec.font.toList.flatMap FontSpec.references ++
    spec.fill.toList.flatMap RuleFillSpec.references ++
    spec.border.toList.flatMap BorderSpec.references

def ColorScaleSpec.references (spec : ColorScaleSpec) : List Reference := spec.colors.map .color

def RuleSpec.references (spec : RuleSpec) : List Reference :=
  .ranges spec.range :: spec.style.toList.flatMap RuleStyleSpec.references ++
    spec.colorScale.toList.flatMap ColorScaleSpec.references

def ColumnGroupSpec.references (spec : ColumnGroupSpec) : List Reference :=
  [.column spec.first, .column spec.last]

def FormattingSpec.references (spec : FormattingSpec) : List Reference :=
  spec.freezePanes.toList.map .address ++ spec.rules.flatMap RuleSpec.references ++
    spec.mergedCells.map .range ++ spec.rowHeights.map (fun entry => .rowNumber entry.1) ++
    spec.hiddenColumns.map .column ++ spec.columnGroups.flatMap ColumnGroupSpec.references

def AnchorSpec.references (spec : AnchorSpec) : List Reference :=
  [.address spec.topLeft, .address spec.bottomRight]

def SheetSpec.references (spec : SheetSpec) : List Reference :=
  spec.columns.flatMap ColumnSpec.references ++
    spec.formatting.toList.flatMap FormattingSpec.references ++
    spec.charts.flatMap (fun chart => chart.position.references) ++
    spec.pictures.flatMap (fun picture => picture.position.references)

/-- All texts of a request that should be read as something else. -/
def references (r : Request) : List Reference := r.sheets.flatMap SheetSpec.references

-----------------------------------------------------------------------------------------
-- The part that is used
-----------------------------------------------------------------------------------------

/-- Only patterns of two colors show the second one. -/
def FillSpec.usedPart (spec : FillSpec) : FillSpec :=
  match Pattern.ofName? spec.pattern with
  | some .none | some .solid => { spec with background := none }
  | _ => spec

def StyleSpec.usedPart (spec : StyleSpec) : StyleSpec :=
  { spec with fill := spec.fill.map FillSpec.usedPart }

def ColumnSpec.usedPart (spec : ColumnSpec) : ColumnSpec :=
  { spec with style := spec.style.map StyleSpec.usedPart }

/-- The pattern of a rule's fill says no more than whether there is one. The fill has one color,
the second one that it names or else the first.
-/
def RuleFillSpec.usedPart (spec : RuleFillSpec) : RuleFillSpec :=
  if (spec.pattern.map fun p => Text.lowerAscii p == "none").getD false then
    { spec with foreground := none, background := none }
  else
    { spec with
      pattern := none
      foreground := if spec.background.isSome then none else spec.foreground }

def RuleStyleSpec.usedPart (spec : RuleStyleSpec) : RuleStyleSpec :=
  { spec with fill := spec.fill.map RuleFillSpec.usedPart }

/-- Scales of colors and sets of icons have no style, and only the former have colors. -/
def RuleSpec.usedPart (spec : RuleSpec) : RuleSpec :=
  match spec.kind with
  | .cellIs | .expression | .dataBar =>
    { spec with style := spec.style.map RuleStyleSpec.usedPart, colorScale := none }
  | .colorScale => { spec with style := none }
  | .iconSet => { spec with style := none, colorScale := none }

def FormattingSpec.usedPart (spec : FormattingSpec) : FormattingSpec :=
  { spec with rules := spec.rules.map RuleSpec.usedPart }

/-- Pictures without data are passed over, wherever they should stand. -/
def PictureSpec.usedPart (spec : PictureSpec) : PictureSpec :=
  if spec.base64.isSome then spec else { spec with position := ⟨"A1", "A1"⟩ }

def SheetSpec.usedPart (spec : SheetSpec) : SheetSpec :=
  { spec with
    columns := spec.columns.map ColumnSpec.usedPart
    formatting := spec.formatting.map FormattingSpec.usedPart
    pictures := spec.pictures.map PictureSpec.usedPart }

/-- The request without the texts that its other fields leave no use for. -/
def usedPart (r : Request) : Request := { r with sheets := r.sheets.map SheetSpec.usedPart }

def ColumnSpec.withoutOperator (spec : ColumnSpec) : ColumnSpec :=
  { spec with validation := spec.validation.map fun v => { v with comparison := none } }

/-- The operators of validations are read for rows of data. -/
def SheetSpec.readPart (spec : SheetSpec) : SheetSpec :=
  if spec.data.isEmpty then
    { spec.usedPart with columns := spec.usedPart.columns.map ColumnSpec.withoutOperator }
  else spec.usedPart

def readPart (r : Request) : Request := { r with sheets := r.sheets.map SheetSpec.readPart }

end Spreadsheet.Request
