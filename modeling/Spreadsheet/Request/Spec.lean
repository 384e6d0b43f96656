import Spreadsheet.Json.Value
import Spreadsheet.Sheet.Basic

/-! What a request says: the sheets of a workbook with their columns, rows, styles, rules,
charts and pictures, as declared and not yet carried out. Values of closed sets are called by name.
-/

namespace Spreadsheet.Request

open Spreadsheet.Number

/-- A type whose values are listed, each with a name of its own. -/
class Named (α : Type) where
  all : List α
  name : α → String

namespace Named

/-- The names, in the order in which messages list them. -/
def names (α : Type) [Named α] : List String := (all : List α).map name

/-- The value with exactly this name. -/
def ofName? {α : Type} [Named α] (s : String) : Option α := all.find? fun a => name a == s

end Named

inductive ColumnKind where
  | text
  | number
  | currency
  | percentage
  | date
  | datetime
  | boolean
  | formula
deriving DecidableEq, Repr

instance : Named ColumnKind where
  all := [.text, .number, .currency, .percentage, .date, .datetime, .boolean, .formula]
  name
    | .text => "text"
    | .number => "number"
    | .currency => "currency"
    | .percentage => "percentage"
    | .date => "date"
    | .datetime => "datetime"
    | .boolean => "boolean"
    | .formula => "formula"

inductive LayoutKind where
  | table
  | form
  | dashboard
  | report
  | calendar
deriving DecidableEq, Repr

instance : Named LayoutKind where
  all := [.table, .form, .dashboard, .report, .calendar]
  name
    | .table => "table"
    | .form => "form"
    | .dashboard => "dashboard"
    | .report => "report"
    | .calendar => "calendar"

/-- Where a request wants its file to be put. -/
inductive StorageHint where
  | objectStore
  | directory
deriving DecidableEq, Repr

instance : Named StorageHint where
  all := [.objectStore, .directory]
  name
    | .objectStore => "s3"
    | .directory => "local"

inductive HorizontalSpec where
  | left
  | center
  | right
  | justify
deriving DecidableEq, Repr

instance : Named HorizontalSpec where
  all := [.left, .center, .right, .justify]
  name
    | .left => "left"
    | .center => "center"
    | .right => "right"
    | .justify => "justify"

inductive VerticalSpec where
  | top
  | middle
  | bottom
deriving DecidableEq, Repr

instance : Named VerticalSpec where
  all := [.top, .middle, .bottom]
  name
    | .top => "top"
    | .middle => "middle"
    | .bottom => "bottom"

instance : Named Sheet.Orientation where
  all := [.portrait, .landscape]
  name := Sheet.Orientation.name

instance : Named Sheet.ValidationKind where
  all := [.list, .whole, .decimal, .date, .textLength, .custom]
  name := Sheet.ValidationKind.name

instance : Named Sheet.ThresholdKind where
  all := [.min, .max, .number, .percent, .percentile]
  name := Sheet.ThresholdKind.name

instance : Named Sheet.ChartKind where
  all := [.bar, .column, .line, .pie, .scatter, .area, .doughnut]
  name := Sheet.ChartKind.name

instance : Named Sheet.Legend where
  all := [.top, .bottom, .left, .right, .hidden]
  name := Sheet.Legend.name

inductive RuleKind where
  | cellIs
  | expression
  | colorScale
  | dataBar
  | iconSet
deriving DecidableEq, Repr

instance : Named RuleKind where
  all := [.cellIs, .expression, .colorScale, .dataBar, .iconSet]
  name
    | .cellIs => "cellIs"
    | .expression => "expression"
    | .colorScale => "colorScale"
    | .dataBar => "dataBar"
    | .iconSet => "iconSet"

/-- A comparison of values, or the search for a text. -/
inductive RuleOperator where
  | compare (comparison : Sheet.Comparison)
  | containsText
deriving DecidableEq, Repr

instance : Named RuleOperator where
  all :=
    [.compare .greaterThan, .compare .lessThan, .compare .greaterThanOrEqual,
      .compare .lessThanOrEqual, .compare .between, .compare .notBetween, .compare .equal,
      .compare .notEqual, .containsText]
  name
    | .compare comparison => comparison.name
    | .containsText => "containsText"

inductive PictureExtension where
  | png
  | jpg
  | jpeg
  | gif
deriving DecidableEq, Repr

instance : Named PictureExtension where
  all := [.png, .jpg, .jpeg, .gif]
  name
    | .png => "png"
    | .jpg => "jpg"
    | .jpeg => "jpeg"
    | .gif => "gif"

/-- Colors are given as texts that are read when they are used. -/
abbrev ColorText := String

structure FontSpec where
  name : Option String := none
  size : Option Binary64 := none
  bold : Option Bool := none
  italic : Option Bool := none
  underline : Option Bool := none
  color : Option ColorText := none
deriving DecidableEq, Repr

structure AlignmentSpec where
  horizontal : Option HorizontalSpec := none
  vertical : Option VerticalSpec := none
  wrap : Option Bool := none
deriving DecidableEq, Repr

structure FillSpec where
  kind : String
  pattern : String
  foreground : ColorText
  background : Option ColorText := none
deriving DecidableEq, Repr

structure EdgeSpec where
  line : String
  color : ColorText
deriving DecidableEq, Repr

structure BorderSpec where
  top : Option EdgeSpec := none
  bottom : Option EdgeSpec := none
  left : Option EdgeSpec := none
  right : Option EdgeSpec := none
deriving DecidableEq, Repr

structure StyleSpec where
  font : Option FontSpec := none
  alignment : Option AlignmentSpec := none
  fill : Option FillSpec := none
  border : Option BorderSpec := none
deriving DecidableEq, Repr

structure ValidationSpec where
  kind : Sheet.ValidationKind
  comparison : Option String := none
  first : Option String := none
  second : Option String := none
  allowBlank : Option Bool := none
  showInput : Option Bool := none
  promptTitle : Option String := none
  prompt : Option String := none
  showError : Option Bool := none
  errorTitle : Option String := none
  error : Option String := none
deriving DecidableEq, Repr

/-- Columns are this wide unless they say otherwise. -/
def defaultColumnWidth : Binary64 := 15

structure ColumnSpec where
  header : String
  key : String
  width : Binary64 := defaultColumnWidth
  kind : Option ColumnKind := none
  format : Option String := none
  style : Option StyleSpec := none
  validation : Option ValidationSpec := none
deriving DecidableEq, Repr

structure MarginsSpec where
  top : Option Binary64 := none
  bottom : Option Binary64 := none
  left : Option Binary64 := none
  right : Option Binary64 := none
  header : Option Binary64 := none
  footer : Option Binary64 := none
deriving DecidableEq, Repr

structure PageSpec where
  orientation : Option Sheet.Orientation := none
  fitToPage : Option Bool := none
  fitToWidth : Option Nat := none
  fitToHeight : Option Nat := none
  paperSize : Option Nat := none
  margins : Option MarginsSpec := none
deriving DecidableEq, Repr

structure ProtectionSpec where
  sheet : Option Bool := none
  password : Option String := none
  formatCells : Option Bool := none
  formatColumns : Option Bool := none
  formatRows : Option Bool := none
  insertColumns : Option Bool := none
  insertRows : Option Bool := none
  deleteColumns : Option Bool := none
  deleteRows : Option Bool := none
deriving DecidableEq, Repr

/-- Row numbers, counted from one, in any order. -/
structure RowGroupSpec where
  first : Nat
  last : Nat
  collapsed : Option Bool := none
deriving DecidableEq, Repr

/-- Column letters in any order. -/
structure ColumnGroupSpec where
  first : String
  last : String
  collapsed : Option Bool := none
deriving DecidableEq, Repr

/-- A bound or formula of a rule: a text or a number. -/
inductive FormulaTerm where
  | text (value : String)
  | number (value : Binary64)
deriving DecidableEq, Repr

structure RuleFillSpec where
  kind : Option String := none
  pattern : Option String := none
  foreground : Option ColorText := none
  background : Option ColorText := none
deriving DecidableEq, Repr

structure RuleStyleSpec where
  font : Option FontSpec := none
  fill : Option RuleFillSpec := none
  border : Option BorderSpec := none
deriving DecidableEq, Repr

structure ThresholdSpec where
  kind : Sheet.ThresholdKind
  value : Option Binary64 := none
deriving DecidableEq, Repr

structure ColorScaleSpec where
  stops : List ThresholdSpec
  colors : List ColorText
deriving DecidableEq, Repr

structure DataBarSpec where
  minLength : Option Nat := none
  maxLength : Option Nat := none
  showValue : Option Bool := none
  gradient : Option Bool := none
  border : Option Bool := none
  negativeSameAsPositive : Option Bool := none
deriving DecidableEq, Repr

structure RuleSpec where
  range : String
  kind : RuleKind
  operator : Option RuleOperator := none
  formulas : List FormulaTerm := []
  style : Option RuleStyleSpec := none
  colorScale : Option ColorScaleSpec := none
  dataBar : Option DataBarSpec := none
deriving DecidableEq, Repr

structure FormattingSpec where
  freezePanes : Option String := none
  autoFilter : Option Bool := none
  page : Option PageSpec := none
  headerFooter : Option Sheet.HeaderFooter := none
  protection : Option ProtectionSpec := none
  totals : Option (List (String × String)) := none
  rules : List RuleSpec := []
  mergedCells : List String := []
  rowHeights : List (String × Binary64) := []
  hiddenRows : List Nat := []
  hiddenColumns : List String := []
  rowGroups : List RowGroupSpec := []
  columnGroups : List ColumnGroupSpec := []
deriving DecidableEq, Repr

structure AnchorSpec where
  topLeft : String
  bottomRight : String
deriving DecidableEq, Repr

structure LegendSpec where
  place : Option Sheet.Legend := none
deriving DecidableEq, Repr

structure AxisSpec where
  title : Option String := none
deriving DecidableEq, Repr

structure AxesSpec where
  x : Option AxisSpec := none
  y : Option AxisSpec := none
deriving DecidableEq, Repr

structure ChartOptionsSpec where
  legend : Option LegendSpec := none
  axes : Option AxesSpec := none
deriving DecidableEq, Repr

structure ChartDataSpec where
  categories : String
  series : List Sheet.Series
deriving DecidableEq, Repr

structure ChartSpec where
  kind : Sheet.ChartKind
  position : AnchorSpec
  title : Option String := none
  data : ChartDataSpec
  options : Option ChartOptionsSpec := none
deriving DecidableEq, Repr

structure PictureSpec where
  position : AnchorSpec
  url : Option String := none
  base64 : Option String := none
  extension : Option PictureExtension := none
deriving DecidableEq, Repr

structure SheetSpec where
  name : String
  layout : LayoutKind := .table
  columns : List ColumnSpec
  data : List Json.Members
  formatting : Option FormattingSpec := none
  charts : List ChartSpec := []
  pictures : List PictureSpec := []
  metadata : Option Json.Members := none
deriving Repr

namespace SheetSpec

/-- The title in the metadata: a string that is not empty. -/
def title? (s : SheetSpec) : Option String :=
  match s.metadata.bind (Json.Members.get? · "title") with
  | some (.string title) => if title.isEmpty then none else some title
  | _ => none

/-- The position of the first column with a key. -/
def columnPosition? (s : SheetSpec) (key : String) : Option Nat :=
  s.columns.findIdx? (·.key == key)

end SheetSpec

/-- The author of workbooks that name none. -/
def defaultAuthor : String := "AI Assistant"

structure MetadataSpec where
  title : Option String := none
  subject : Option String := none
  author : String := defaultAuthor
  description : Option String := none
  company : Option String := none
  category : Option String := none
  keywords : List String := []
deriving DecidableEq, Repr

structure OptionsSpec where
  storage : Option StorageHint := none
  compress : Option Bool := none
  password : Option String := none
deriving DecidableEq, Repr

end Request

/-- A whole request. -/
structure Request where
  fileName : String
  sheets : List Request.SheetSpec
  metadata : Option Request.MetadataSpec := none
  options : Option Request.OptionsSpec := none
deriving Repr

/-- The options of a request; all of them may be left out. -/
def Request.outputOptions (r : Request) : Request.OptionsSpec := r.options.getD {}

end Spreadsheet
