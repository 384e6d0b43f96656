import Spreadsheet.Request.Spec

/-! Reading requests from JSON values. Members that a request does not know are passed over; an
optional member may be absent or null.
-/

namespace Spreadsheet.Request

open Spreadsheet.Json Spreadsheet.Number

/-- A reader of values of one type. -/
abbrev Decoder (α : Type) := Value → Option α

namespace Decoder

def string : Decoder String
  | .string s => some s
  | _ => none

def boolean : Decoder Bool
  | .bool b => some b
  | _ => none

def number : Decoder Binary64 := Value.toBinary64?

/-- An integer that is a 32-bit word. -/
def natural : Decoder Nat
  | .int i => if 0 ≤ i ∧ i < wordLimit 32 then some i.toNat else none
  | _ => none

/-- A value called by its name. -/
def named (α : Type) [Named α] : Decoder α
  | .string s => Named.ofName? s
  | _ => none

def list (d : Decoder α) : Decoder (List α)
  | .array items => items.mapM d
  | _ => none

def members : Decoder Members
  | .object ms => some ms
  | _ => none

/-- The members of an object, each with a value of one type. -/
def entries (d : Decoder α) : Decoder (List (String × α))
  | .object ms => ms.mapM fun (name, v) => (d v).map fun a => (name, a)
  | _ => none

end Decoder

/-- A member that must be there. -/
def Members.required (ms : Members) (name : String) (d : Decoder α) : Option α :=
  (Json.Members.get? ms name).bind d

/-- A member that may be absent or null. -/
def Members.optional (ms : Members) (name : String) (d : Decoder α) : Option (Option α) :=
  match Json.Members.get? ms name with
  | none | some .null => some none
  | some v => (d v).map some

/-- A member that may be absent and then has a value of its own. -/
def Members.withDefault (ms : Members) (name : String) (default : α) (d : Decoder α) : Option α :=
  match Json.Members.get? ms name with
  | none => some default
  | some v => d v

open Decoder Members

def decodeColor : Decoder ColorText := fun v => do
  let ms ← members v
  required ms "argb" string

def FontSpec.decode : Decoder FontSpec := fun v => do
  let ms ← members v
  return {
    name := ← optional ms "name" string
    size := ← optional ms "size" number
    bold := ← optional ms "bold" boolean
    italic := ← optional ms "italic" boolean
    underline := ← optional ms "underline" boolean
    color := ← optional ms "color" decodeColor
  }

def AlignmentSpec.decode : Decoder AlignmentSpec := fun v => do
  let ms ← members v
  return {
    horizontal := ← optional ms "horizontal" (named HorizontalSpec)
    vertical := ← optional ms "vertical" (named VerticalSpec)
    wrap := ← optional ms "wrapText" boolean
  }

def FillSpec.decode : Decoder FillSpec := fun v => do
  let ms ← members v
  return {
    kind := ← required ms "type" string
    pattern := ← required ms "pattern" string
    foreground := ← required ms "fgColor" decodeColor
    background := ← optional ms "bgColor" decodeColor
  }

def EdgeSpec.decode : Decoder EdgeSpec := fun v => do
  let ms ← members v
  return {
    line := ← required ms "style" string
    color := ← required ms "color" decodeColor
  }

def BorderSpec.decode : Decoder BorderSpec := fun v => do
  let ms ← members v
  return {
    top := ← optional ms "top" EdgeSpec.decode
    bottom := ← optional ms "bottom" EdgeSpec.decode
    left := ← optional ms "left" EdgeSpec.decode
    right := ← optional ms "right" EdgeSpec.decode
  }

def StyleSpec.decode : Decoder StyleSpec := fun v => do
  let ms ← members v
  return {
    font := ← optional ms "font" FontSpec.decode
    alignment := ← optional ms "alignment" AlignmentSpec.decode
    fill := ← optional ms "fill" FillSpec.decode
    border := ← optional ms "border" BorderSpec.decode
  }

def ValidationSpec.decode : Decoder ValidationSpec := fun v => do
  let ms ← members v
  return {
    kind := ← required ms "type" (named Sheet.ValidationKind)
    comparison := ← optional ms "operator" string
    first := ← optional ms "formula1" string
    second := ← optional ms "formula2" string
    allowBlank := ← optional ms "allowBlank" boolean
    showInput := ← optional ms "showInputMessage" boolean
    promptTitle := ← optional ms "promptTitle" string
    prompt := ← optional ms "prompt" string
    showError := ← optional ms "showErrorMessage" boolean
    errorTitle := ← optional ms "errorTitle" string
    error := ← optional ms "error" string
  }

def ColumnSpec.decode : Decoder ColumnSpec := fun v => do
  let ms ← members v
  return {
    header := ← required ms "header" string
    key := ← required ms "key" string
    width := ← withDefault ms "width" defaultColumnWidth number
    kind := ← optional ms "type" (named ColumnKind)
    format := ← optional ms "format" string
    style := ← optional ms "style" StyleSpec.decode
    validation := ← optional ms "validation" ValidationSpec.decode
  }

def MarginsSpec.decode : Decoder MarginsSpec := fun v => do
  let ms ← members v
  return {
    top := ← optional ms "top" number
    bottom := ← optional ms "bottom" number
    left := ← optional ms "left" number
    right := ← optional ms "right" number
    header := ← optional ms "header" number
    footer := ← optional ms "footer" number
  }

def PageSpec.decode : Decoder PageSpec := fun v => do
  let ms ← members v
  return {
    orientation := ← optional ms "orientation" (named Sheet.Orientation)
    fitToPage := ← optional ms "fitToPage" boolean
    fitToWidth := ← optional ms "fitToWidth" natural
    fitToHeight := ← optional ms "fitToHeight" natural
    paperSize := ← optional ms "paperSize" natural
    margins := ← optional ms "margins" MarginsSpec.decode
  }

def decodeHeaderFooter : Decoder Sheet.HeaderFooter := fun v => do
  let ms ← members v
  return {
    oddHeader := ← optional ms "oddHeader" string
    oddFooter := ← optional ms "oddFooter" string
    evenHeader := ← optional ms "evenHeader" string
    evenFooter := ← optional ms "evenFooter" string
  }

def ProtectionSpec.decode : Decoder ProtectionSpec := fun v => do
  let ms ← members v
  return {
    sheet := ← optional ms "sheet" boolean
    password := ← optional ms "password" string
    formatCells := ← optional ms "formatCells" boolean
    formatColumns := ← optional ms "formatColumns" boolean
    formatRows := ← optional ms "formatRows" boolean
    insertColumns := ← optional ms "insertColumns" boolean
    insertRows := ← optional ms "insertRows" boolean
    deleteColumns := ← optional ms "deleteColumns" boolean
    deleteRows := ← optional ms "deleteRows" boolean
  }

def RowGroupSpec.decode : Decoder RowGroupSpec := fun v => do
  let ms ← members v
  return {
    first := ← required ms "start" natural
    last := ← required ms "end" natural
    collapsed := ← optional ms "collapsed" boolean
  }

def ColumnGroupSpec.decode : Decoder ColumnGroupSpec := fun v => do
  let ms ← members v
  return {
    first := ← required ms "start" string
    last := ← required ms "end" string
    collapsed := ← optional ms "collapsed" boolean
  }

def FormulaTerm.decode : Decoder FormulaTerm
  | .string s => some (.text s)
  | v => (Decoder.number v).map .number

def RuleFillSpec.decode : Decoder RuleFillSpec := fun v => do
  let ms ← members v
  return {
    kind := ← optional ms "type" string
    pattern := ← optional ms "pattern" string
    foreground := ← optional ms "fgColor" decodeColor
    background := ← optional ms "bgColor" decodeColor
  }

def RuleStyleSpec.decode : Decoder RuleStyleSpec := fun v => do
  let ms ← members v
  return {
    font := ← optional ms "font" FontSpec.decode
    fill := ← optional ms "fill" RuleFillSpec.decode
    border := ← optional ms "border" BorderSpec.decode
  }

def ThresholdSpec.decode : Decoder ThresholdSpec := fun v => do
  let ms ← members v
  return {
    kind := ← required ms "type" (named Sheet.ThresholdKind)
    value := ← optional ms "value" number
  }

def ColorScaleSpec.decode : Decoder ColorScaleSpec := fun v => do
  let ms ← members v
  return {
    stops := ← required ms "cfvo" (list ThresholdSpec.decode)
    colors := ← required ms "color" (list decodeColor)
  }

def DataBarSpec.decode : Decoder DataBarSpec := fun v => do
  let ms ← members v
  return {
    minLength := ← optional ms "minLength" natural
    maxLength := ← optional ms "maxLength" natural
    showValue := ← optional ms "showValue" boolean
    gradient := ← optional ms "gradient" boolean
    border := ← optional ms "border" boolean
    negativeSameAsPositive := ← optional ms "negativeBarColorSameAsPositive" boolean
  }

def RuleSpec.decode : Decoder RuleSpec := fun v => do
  let ms ← members v
  return {
    range := ← required ms "range" string
    kind := ← required ms "type" (named RuleKind)
    operator := ← optional ms "operator" (named RuleOperator)
    formulas := ← withDefault ms "formulae" [] (list FormulaTerm.decode)
    style := ← optional ms "style" RuleStyleSpec.decode
    colorScale := ← optional ms "colorScale" ColorScaleSpec.decode
    dataBar := ← optional ms "dataBar" DataBarSpec.decode
  }

def FormattingSpec.decode : Decoder FormattingSpec := fun v => do
  let ms ← members v
  return {
    freezePanes := ← optional ms "freeze_panes" string
    autoFilter := ← optional ms "auto_filter" boolean
    page := ← optional ms "page_setup" PageSpec.decode
    headerFooter := ← optional ms "header_footer" decodeHeaderFooter
    protection := ← optional ms "protection" ProtectionSpec.decode
    totals := ← optional ms "totals_row" (entries string)
    rules := ← withDefault ms "conditional_formatting" [] (list RuleSpec.decode)
    mergedCells := ← withDefault ms "merged_cells" [] (list string)
    rowHeights := ← withDefault ms "row_heights" [] (entries number)
    hiddenRows := ← withDefault ms "hidden_rows" [] (list natural)
    hiddenColumns := ← withDefault ms "hidden_columns" [] (list string)
    rowGroups := ← withDefault ms "grouped_rows" [] (list RowGroupSpec.decode)
    columnGroups := ← withDefault ms "grouped_columns" [] (list ColumnGroupSpec.decode)
  }

def AnchorSpec.decode : Decoder AnchorSpec := fun v => do
  let ms ← members v
  return {
    topLeft := ← required ms "from" string
    bottomRight := ← required ms "to" string
  }

def decodeSeries : Decoder Sheet.Series := fun v => do
  let ms ← members v
  return {
    name := ← required ms "name" string
    values := ← required ms "range" string
  }

def ChartDataSpec.decode : Decoder ChartDataSpec := fun v => do
  let ms ← members v
  return {
    categories := ← required ms "categories" string
    series := ← required ms "values" (list decodeSeries)
  }

def LegendSpec.decode : Decoder LegendSpec := fun v => do
  let ms ← members v
  return { place := ← optional ms "position" (named Sheet.Legend) }

def AxisSpec.decode : Decoder AxisSpec := fun v => do
  let ms ← members v
  return { title := ← optional ms "title" string }

def AxesSpec.decode : Decoder AxesSpec := fun v => do
  let ms ← members v
  return {
    x := ← optional ms "x" AxisSpec.decode
    y := ← optional ms "y" AxisSpec.decode
  }

def ChartOptionsSpec.decode : Decoder ChartOptionsSpec := fun v => do
  let ms ← members v
  return {
    legend := ← optional ms "legend" LegendSpec.decode
    axes := ← optional ms "axes" AxesSpec.decode
  }

def ChartSpec.decode : Decoder ChartSpec := fun v => do
  let ms ← members v
  return {
    kind := ← required ms "type" (named Sheet.ChartKind)
    position := ← required ms "position" AnchorSpec.decode
    title := ← optional ms "title" string
    data := ← required ms "data" ChartDataSpec.decode
    options := ← optional ms "options" ChartOptionsSpec.decode
  }

def PictureSpec.decode : Decoder PictureSpec := fun v => do
  let ms ← members v
  return {
    position := ← required ms "position" AnchorSpec.decode
    url := ← optional ms "url" string
    base64 := ← optional ms "base64" string
    extension := ← optional ms "extension" (named PictureExtension)
  }

def SheetSpec.decode : Decoder SheetSpec := fun v => do
  let ms ← members v
  return {
    name := ← required ms "name" string
    layout := ← withDefault ms "layout" .table (named LayoutKind)
    columns := ← required ms "columns" (list ColumnSpec.decode)
    data := ← required ms "data" (list members)
    formatting := ← optional ms "formatting" FormattingSpec.decode
    charts := ← withDefault ms "charts" [] (list ChartSpec.decode)
    pictures := ← withDefault ms "images" [] (list PictureSpec.decode)
    metadata := ← optional ms "metadata" members
  }

def MetadataSpec.decode : Decoder MetadataSpec := fun v => do
  let ms ← members v
  return {
    title := ← optional ms "title" string
    subject := ← optional ms "subject" string
    author := ← withDefault ms "author" defaultAuthor string
    description := ← optional ms "description" string
    company := ← optional ms "company" string
    category := ← optional ms "category" string
    keywords := ← withDefault ms "keywords" [] (list string)
  }

def OptionsSpec.decode : Decoder OptionsSpec := fun v => do
  let ms ← members v
  return {
    storage := ← optional ms "storage" (named StorageHint)
    compress := ← optional ms "compress" boolean
    password := ← optional ms "password" string
  }

end Request

open Request Request.Decoder Request.Members in
/-- The request that a value stands for. -/
def Request.decode : Decoder Request := fun v => do
  let ms ← members v
  return {
    fileName := ← required ms "file_name" string
    sheets := ← required ms "sheets" (list SheetSpec.decode)
    metadata := ← optional ms "metadata" MetadataSpec.decode
    options := ← optional ms "options" OptionsSpec.decode
  }

end Spreadsheet
