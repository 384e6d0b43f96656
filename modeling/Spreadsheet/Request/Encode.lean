import Spreadsheet.Request.Spec

/-! Writing requests as JSON values. What is absent or an empty list is left out; what has a
value of its own by default is written.
-/

namespace Spreadsheet.Request

open Spreadsheet.Json Spreadsheet.Number

/-- A member to be written, or none. -/
abbrev Slot := Option (String × Value)

namespace Slot

def always (name : String) (value : Value) : Slot := some (name, value)

def optional (name : String) (encode : α → Value) (a : Option α) : Slot :=
  a.map fun a => (name, encode a)

/-- Empty lists are left out. -/
def list (name : String) (encode : α → Value) (items : List α) : Slot :=
  if items.isEmpty then none else some (name, .array (items.map encode))

end Slot

/-- An object of the members that are written. -/
def objectOf (slots : List Slot) : Value := .ofMembers (slots.filterMap id)

def encodeNat (n : Nat) : Value := .int n

def encodeName [Named α] (a : α) : Value := .string (Named.name a)

def encodeEntries (encode : α → Value) (entries : List (String × α)) : Value :=
  .ofMembers (entries.map fun (name, a) => (name, encode a))

def encodeColor (color : ColorText) : Value := objectOf [.always "argb" (.string color)]

open Slot

def FontSpec.encode (f : FontSpec) : Value :=
  objectOf
    [optional "name" .string f.name, optional "size" .float f.size,
      optional "bold" .bool f.bold, optional "italic" .bool f.italic,
      optional "underline" .bool f.underline, optional "color" encodeColor f.color]

def AlignmentSpec.encode (a : AlignmentSpec) : Value :=
  objectOf
    [optional "horizontal" encodeName a.horizontal, optional "vertical" encodeName a.vertical,
      optional "wrapText" .bool a.wrap]

def FillSpec.encode (f : FillSpec) : Value :=
  objectOf
    [always "type" (.string f.kind), always "pattern" (.string f.pattern),
      always "fgColor" (encodeColor f.foreground), optional "bgColor" encodeColor f.background]

def EdgeSpec.encode (e : EdgeSpec) : Value :=
  objectOf [always "style" (.string e.line), always "color" (encodeColor e.color)]

def BorderSpec.encode (b : BorderSpec) : Value :=
  objectOf
    [optional "top" EdgeSpec.encode b.top, optional "bottom" EdgeSpec.encode b.bottom,
      optional "left" EdgeSpec.encode b.left, optional "right" EdgeSpec.encode b.right]

def StyleSpec.encode (s : StyleSpec) : Value :=
  objectOf
    [optional "font" FontSpec.encode s.font, optional "alignment" AlignmentSpec.encode s.alignment,
      optional "fill" FillSpec.encode s.fill, optional "border" BorderSpec.encode s.border]

def ValidationSpec.encode (v : ValidationSpec) : Value :=
  objectOf
    [always "type" (encodeName v.kind), optional "operator" .string v.comparison,
      optional "formula1" .string v.first, optional "formula2" .string v.second,
      optional "allowBlank" .bool v.allowBlank, optional "showInputMessage" .bool v.showInput,
      optional "promptTitle" .string v.promptTitle, optional "prompt" .string v.prompt,
      optional "showErrorMessage" .bool v.showError, optional "errorTitle" .string v.errorTitle,
      optional "error" .string v.error]

def ColumnSpec.encode (c : ColumnSpec) : Value :=
  objectOf
    [always "header" (.string c.header), always "key" (.string c.key),
      always "width" (.float c.width), optional "type" encodeName c.kind,
      optional "format" .string c.format, optional "style" StyleSpec.encode c.style,
      optional "validation" ValidationSpec.encode c.validation]

def MarginsSpec.encode (m : MarginsSpec) : Value :=
  objectOf
    [optional "top" .float m.top, optional "bottom" .float m.bottom,
      optional "left" .float m.left, optional "right" .float m.right,
      optional "header" .float m.header, optional "footer" .float m.footer]

def PageSpec.encode (p : PageSpec) : Value :=
  objectOf
    [optional "orientation" encodeName p.orientation, optional "fitToPage" .bool p.fitToPage,
      optional "fitToWidth" encodeNat p.fitToWidth, optional "fitToHeight" encodeNat p.fitToHeight,
      optional "paperSize" encodeNat p.paperSize, optional "margins" MarginsSpec.encode p.margins]

def encodeHeaderFooter (h : Sheet.HeaderFooter) : Value :=
  objectOf
    [optional "oddHeader" .string h.oddHeader, optional "oddFooter" .string h.oddFooter,
      optional "evenHeader" .string h.evenHeader, optional "evenFooter" .string h.evenFooter]

def ProtectionSpec.encode (p : ProtectionSpec) : Value :=
  objectOf
    [optional "sheet" .bool p.sheet, optional "password" .string p.password,
      optional "formatCells" .bool p.formatCells, optional "formatColumns" .bool p.formatColumns,
      optional "formatRows" .bool p.formatRows, optional "insertColumns" .bool p.insertColumns,
      optional "insertRows" .bool p.insertRows, optional "deleteColumns" .bool p.deleteColumns,
      optional "deleteRows" .bool p.deleteRows]

def RowGroupSpec.encode (g : RowGroupSpec) : Value :=
  objectOf
    [always "start" (encodeNat g.first), always "end" (encodeNat g.last),
      optional "collapsed" .bool g.collapsed]

def ColumnGroupSpec.encode (g : ColumnGroupSpec) : Value :=
  objectOf
    [always "start" (.string g.first), always "end" (.string g.last),
      optional "collapsed" .bool g.collapsed]

def FormulaTerm.encode : FormulaTerm → Value
  | .text s => .string s
  | .number x => .float x

def RuleFillSpec.encode (f : RuleFillSpec) : Value :=
  objectOf
    [optional "type" .string f.kind, optional "pattern" .string f.pattern,
      optional "fgColor" encodeColor f.foreground, optional "bgColor" encodeColor f.background]

def RuleStyleSpec.encode (s : RuleStyleSpec) : Value :=
  objectOf
    [optional "font" FontSpec.encode s.font, optional "fill" RuleFillSpec.encode s.fill,
      optional "border" BorderSpec.encode s.border]

def ThresholdSpec.encode (t : ThresholdSpec) : Value :=
  objectOf [always "type" (encodeName t.kind), optional "value" .float t.value]

def ColorScaleSpec.encode (s : ColorScaleSpec) : Value :=
  objectOf
    [always "cfvo" (.array (s.stops.map ThresholdSpec.encode)),
      always "color" (.array (s.colors.map encodeColor))]

def DataBarSpec.encode (b : DataBarSpec) : Value :=
  objectOf
    [optional "minLength" encodeNat b.minLength, optional "maxLength" encodeNat b.maxLength,
      optional "showValue" .bool b.showValue, optional "gradient" .bool b.gradient,
      optional "border" .bool b.border,
      optional "negativeBarColorSameAsPositive" .bool b.negativeSameAsPositive]

def RuleSpec.encode (r : RuleSpec) : Value :=
  objectOf
    [always "range" (.string r.range), always "type" (encodeName r.kind),
      optional "operator" encodeName r.operator, list "formulae" FormulaTerm.encode r.formulas,
      optional "style" RuleStyleSpec.encode r.style,
      optional "colorScale" ColorScaleSpec.encode r.colorScale,
      optional "dataBar" DataBarSpec.encode r.dataBar]

def FormattingSpec.encode (f : FormattingSpec) : Value :=
  objectOf
    [optional "freeze_panes" .string f.freezePanes, optional "auto_filter" .bool f.autoFilter,
      optional "page_setup" PageSpec.encode f.page,
      optional "header_footer" encodeHeaderFooter f.headerFooter,
      optional "protection" ProtectionSpec.encode f.protection,
      optional "totals_row" (encodeEntries .string) f.totals,
      list "conditional_formatting" RuleSpec.encode f.rules,
      list "merged_cells" .string f.mergedCells,
      if f.rowHeights.isEmpty then none
        else some ("row_heights", encodeEntries .float f.rowHeights),
      list "hidden_rows" encodeNat f.hiddenRows, list "hidden_columns" .string f.hiddenColumns,
      list "grouped_rows" RowGroupSpec.encode f.rowGroups,
      list "grouped_columns" ColumnGroupSpec.encode f.columnGroups]

def AnchorSpec.encode (a : AnchorSpec) : Value :=
  objectOf [always "from" (.string a.topLeft), always "to" (.string a.bottomRight)]

def encodeSeries (s : Sheet.Series) : Value :=
  objectOf [always "name" (.string s.name), always "range" (.string s.values)]

def ChartDataSpec.encode (d : ChartDataSpec) : Value :=
  objectOf
    [always "categories" (.string d.categories),
      always "values" (.array (d.series.map encodeSeries))]

def LegendSpec.encode (l : LegendSpec) : Value := objectOf [optional "position" encodeName l.place]

def AxisSpec.encode (a : AxisSpec) : Value := objectOf [optional "title" .string a.title]

def AxesSpec.encode (a : AxesSpec) : Value :=
  objectOf [optional "x" AxisSpec.encode a.x, optional "y" AxisSpec.encode a.y]

def ChartOptionsSpec.encode (o : ChartOptionsSpec) : Value :=
  objectOf [optional "legend" LegendSpec.encode o.legend, optional "axes" AxesSpec.encode o.axes]

def ChartSpec.encode (c : ChartSpec) : Value :=
  objectOf
    [always "type" (encodeName c.kind), always "position" c.position.encode,
      optional "title" .string c.title, always "data" c.data.encode,
      optional "options" ChartOptionsSpec.encode c.options]

def PictureSpec.encode (p : PictureSpec) : Value :=
  objectOf
    [always "position" p.position.encode, optional "url" .string p.url,
      optional "base64" .string p.base64, optional "extension" encodeName p.extension]

def SheetSpec.encode (s : SheetSpec) : Value :=
  objectOf
    [always "name" (.string s.name), always "layout" (encodeName s.layout),
      always "columns" (.array (s.columns.map ColumnSpec.encode)),
      always "data" (.array (s.data.map .object)),
      optional "formatting" FormattingSpec.encode s.formatting,
      list "charts" ChartSpec.encode s.charts, list "images" PictureSpec.encode s.pictures,
      optional "metadata" .object s.metadata]

def MetadataSpec.encode (m : MetadataSpec) : Value :=
  objectOf
    [optional "title" .string m.title, optional "subject" .string m.subject,
      always "author" (.string m.author), optional "description" .string m.description,
      optional "company" .string m.company, optional "category" .string m.category,
      list "keywords" .string m.keywords]

def OptionsSpec.encode (o : OptionsSpec) : Value :=
  objectOf
    [optional "storage" encodeName o.storage, optional "compress" .bool o.compress,
      optional "password" .string o.password]

end Request

open Request Request.Slot in
/-- The value that stands for a request. -/
def Request.encode (r : Request) : Json.Value :=
  objectOf
    [always "file_name" (.string r.fileName),
      always "sheets" (.array (r.sheets.map SheetSpec.encode)),
      optional "metadata" MetadataSpec.encode r.metadata,
      optional "options" OptionsSpec.encode r.options]

end Spreadsheet
