import Spreadsheet.Request.Shape
import Spreadsheet.Request.Spec

/-! The grammar that the types of requests declare. The shape of a record is read off the types of
its fields: each field is listed under the name that requests use for it, in the order of the
record. A field of an optional type, and one with a value of its own, may be left out, but where
it is there it is of the type; null is of none. The few fields with fewer values than their type
are marked.
-/

namespace Spreadsheet.Request

open Spreadsheet.Number

/-- Types of values in requests, with the shape of the values that stand for theirs. -/
class Declared (α : Type) where
  shape : Shape

namespace Declared

-----------------------------------------------------------------------------------------
-- Values and lists
-----------------------------------------------------------------------------------------

instance : Declared String := ⟨.string⟩

instance : Declared Binary64 := ⟨.number⟩

instance : Declared Bool := ⟨.boolean⟩

instance : Declared Nat := ⟨.integer 0⟩

instance : Declared Json.Value := ⟨.any⟩

instance : Declared FormulaTerm := ⟨.textOrNumber⟩

instance [Named α] : Declared α := ⟨.oneOf (Named.names α)⟩

instance [Declared α] : Declared (List α) := ⟨.array (shape α)⟩

instance [Declared α] : Declared (List (String × α)) := ⟨.members (shape α)⟩

-----------------------------------------------------------------------------------------
-- Fields
-----------------------------------------------------------------------------------------

/-- A field that must be there, of the type that the record has for it. -/
def required (name : String) (_ : σ → α) [Declared α] : String × Bool × Shape :=
  (name, true, shape α)

/-- A field that may be left out. -/
def optional (name : String) (_ : σ → Option α) [Declared α] : String × Bool × Shape :=
  (name, false, shape α)

/-- A field that has a value of its own where it is left out. -/
def defaulted (name : String) (_ : σ → α) [Declared α] : String × Bool × Shape :=
  (name, false, shape α)

/-- A field whose values are written in a shape of their own. -/
def shaped (S : Shape) (field : String × Bool × Shape) : String × Bool × Shape :=
  (field.1, field.2.1, S)

/-- Colors are kept as texts and written as objects. -/
def color : Shape := .object [("argb", true, .string)]

/-- Rows are counted from one. -/
def rowNumber : Shape := .integer 1

-----------------------------------------------------------------------------------------
-- Styles and columns
-----------------------------------------------------------------------------------------

instance : Declared FontSpec where
  shape :=
    .object
      [optional "name" FontSpec.name, optional "size" FontSpec.size,
        optional "bold" FontSpec.bold, optional "italic" FontSpec.italic,
        optional "underline" FontSpec.underline, shaped color (optional "color" FontSpec.color)]

instance : Declared AlignmentSpec where
  shape :=
    .object
      [optional "horizontal" AlignmentSpec.horizontal,
        optional "vertical" AlignmentSpec.vertical, optional "wrapText" AlignmentSpec.wrap]

instance : Declared FillSpec where
  shape :=
    .object
      [shaped (.oneOf ["pattern"]) (required "type" FillSpec.kind),
        required "pattern" FillSpec.pattern, shaped color (required "fgColor" FillSpec.foreground),
        shaped color (optional "bgColor" FillSpec.background)]

instance : Declared EdgeSpec where
  shape :=
    .object [required "style" EdgeSpec.line, shaped color (required "color" EdgeSpec.color)]

instance : Declared BorderSpec where
  shape :=
    .object
      [optional "top" BorderSpec.top, optional "bottom" BorderSpec.bottom,
        optional "left" BorderSpec.left, optional "right" BorderSpec.right]

instance : Declared StyleSpec where
  shape :=
    .object
      [optional "font" StyleSpec.font, optional "alignment" StyleSpec.alignment,
        optional "fill" StyleSpec.fill, optional "border" StyleSpec.border]

instance : Declared ValidationSpec where
  shape :=
    .object
      [required "type" ValidationSpec.kind, optional "operator" ValidationSpec.comparison,
        optional "formula1" ValidationSpec.first, optional "formula2" ValidationSpec.second,
        optional "allowBlank" ValidationSpec.allowBlank,
        optional "showInputMessage" ValidationSpec.showInput,
        optional "promptTitle" ValidationSpec.promptTitle,
        optional "prompt" ValidationSpec.prompt,
        optional "showErrorMessage" ValidationSpec.showError,
        optional "errorTitle" ValidationSpec.errorTitle, optional "error" ValidationSpec.error]

instance : Declared ColumnSpec where
  shape :=
    .object
      [required "header" ColumnSpec.header, required "key" ColumnSpec.key,
        defaulted "width" ColumnSpec.width, optional "type" ColumnSpec.kind,
        optional "format" ColumnSpec.format, optional "style" ColumnSpec.style,
        optional "validation" ColumnSpec.validation]

-----------------------------------------------------------------------------------------
-- What is declared for a sheet as a whole
-----------------------------------------------------------------------------------------

instance : Declared MarginsSpec where
  shape :=
    .object
      [optional "top" MarginsSpec.top, optional "bottom" MarginsSpec.bottom,
        optional "left" MarginsSpec.left, optional "right" MarginsSpec.right,
        optional "header" MarginsSpec.header, optional "footer" MarginsSpec.footer]

instance : Declared PageSpec where
  shape :=
    .object
      [optional "orientation" PageSpec.orientation, optional "fitToPage" PageSpec.fitToPage,
        optional "fitToWidth" PageSpec.fitToWidth, optional "fitToHeight" PageSpec.fitToHeight,
        optional "paperSize" PageSpec.paperSize, optional "margins" PageSpec.margins]

instance : Declared Sheet.HeaderFooter where
  shape :=
    .object
      [optional "oddHeader" Sheet.HeaderFooter.oddHeader,
        optional "oddFooter" Sheet.HeaderFooter.oddFooter,
        optional "evenHeader" Sheet.HeaderFooter.evenHeader,
        optional "evenFooter" Sheet.HeaderFooter.evenFooter]

instance : Declared ProtectionSpec where
  shape :=
    .object
      [optional "sheet" ProtectionSpec.sheet, optional "password" ProtectionSpec.password,
        optional "formatCells" ProtectionSpec.formatCells,
        optional "formatColumns" ProtectionSpec.formatColumns,
        optional "formatRows" ProtectionSpec.formatRows,
        optional "insertColumns" ProtectionSpec.insertColumns,
        optional "insertRows" ProtectionSpec.insertRows,
        optional "deleteColumns" ProtectionSpec.deleteColumns,
        optional "deleteRows" ProtectionSpec.deleteRows]

instance : Declared RowGroupSpec where
  shape :=
    .object
      [shaped rowNumber (required "start" RowGroupSpec.first),
        shaped rowNumber (required "end" RowGroupSpec.last),
        optional "collapsed" RowGroupSpec.collapsed]

instance : Declared ColumnGroupSpec where
  shape :=
    .object
      [required "start" ColumnGroupSpec.first, required "end" ColumnGroupSpec.last,
        optional "collapsed" ColumnGroupSpec.collapsed]

instance : Declared RuleFillSpec where
  shape :=
    .object
      [optional "type" RuleFillSpec.kind, optional "pattern" RuleFillSpec.pattern,
        shaped color (optional "fgColor" RuleFillSpec.foreground),
        shaped color (optional "bgColor" RuleFillSpec.background)]

instance : Declared RuleStyleSpec where
  shape :=
    .object
      [optional "font" RuleStyleSpec.font, optional "fill" RuleStyleSpec.fill,
        optional "border" RuleStyleSpec.border]

instance : Declared ThresholdSpec where
  shape :=
    .object [required "type" ThresholdSpec.kind, optional "value" ThresholdSpec.value]

instance : Declared ColorScaleSpec where
  shape :=
    .object
      [required "cfvo" ColorScaleSpec.stops,
        shaped (.array color) (required "color" ColorScaleSpec.colors)]

instance : Declared DataBarSpec where
  shape :=
    .object
      [optional "minLength" DataBarSpec.minLength, optional "maxLength" DataBarSpec.maxLength,
        optional "showValue" DataBarSpec.showValue, optional "gradient" DataBarSpec.gradient,
        optional "border" DataBarSpec.border,
        optional "negativeBarColorSameAsPositive" DataBarSpec.negativeSameAsPositive]

instance : Declared RuleSpec where
  shape :=
    .object
      [required "range" RuleSpec.range, required "type" RuleSpec.kind,
        optional "operator" RuleSpec.operator, defaulted "formulae" RuleSpec.formulas,
        optional "style" RuleSpec.style, optional "colorScale" RuleSpec.colorScale,
        optional "dataBar" RuleSpec.dataBar]

instance : Declared FormattingSpec where
  shape :=
    .object
      [optional "freeze_panes" FormattingSpec.freezePanes,
        optional "auto_filter" FormattingSpec.autoFilter,
        optional "page_setup" FormattingSpec.page,
        optional "header_footer" FormattingSpec.headerFooter,
        optional "protection" FormattingSpec.protection,
        optional "totals_row" FormattingSpec.totals,
        defaulted "conditional_formatting" FormattingSpec.rules,
        defaulted "merged_cells" FormattingSpec.mergedCells,
        defaulted "row_heights" FormattingSpec.rowHeights,
        shaped (.array rowNumber) (defaulted "hidden_rows" FormattingSpec.hiddenRows),
        defaulted "hidden_columns" FormattingSpec.hiddenColumns,
        defaulted "grouped_rows" FormattingSpec.rowGroups,
        defaulted "grouped_columns" FormattingSpec.columnGroups]

-----------------------------------------------------------------------------------------
-- Charts and pictures
-----------------------------------------------------------------------------------------

instance : Declared AnchorSpec where
  shape := .object [required "from" AnchorSpec.topLeft, required "to" AnchorSpec.bottomRight]

instance : Declared Sheet.Series where
  shape := .object [required "name" Sheet.Series.name, required "range" Sheet.Series.values]

instance : Declared ChartDataSpec where
  shape :=
    .object [required "categories" ChartDataSpec.categories, required "values" ChartDataSpec.series]

instance : Declared LegendSpec where
  shape := .object [optional "position" LegendSpec.place]

instance : Declared AxisSpec where
  shape := .object [optional "title" AxisSpec.title]

instance : Declared AxesSpec where
  shape := .object [optional "x" AxesSpec.x, optional "y" AxesSpec.y]

instance : Declared ChartOptionsSpec where
  shape :=
    .object [optional "legend" ChartOptionsSpec.legend, optional "axes" ChartOptionsSpec.axes]

instance : Declared ChartSpec where
  shape :=
    .object
      [required "type" ChartSpec.kind, required "position" ChartSpec.position,
        optional "title" ChartSpec.title, required "data" ChartSpec.data,
        optional "options" ChartSpec.options]

instance : Declared PictureSpec where
  shape :=
    .object
      [required "position" PictureSpec.position, optional "url" PictureSpec.url,
        optional "base64" PictureSpec.base64, optional "extension" PictureSpec.extension]

-----------------------------------------------------------------------------------------
-- Sheets and whole requests
-----------------------------------------------------------------------------------------

instance : Declared SheetSpec where
  shape :=
    .object
      [required "name" SheetSpec.name, defaulted "layout" SheetSpec.layout,
        required "columns" SheetSpec.columns, required "data" SheetSpec.data,
        optional "formatting" SheetSpec.formatting, defaulted "charts" SheetSpec.charts,
        defaulted "images" SheetSpec.pictures, optional "metadata" SheetSpec.metadata]

instance : Declared MetadataSpec where
  shape :=
    .object
      [optional "title" MetadataSpec.title, optional "subject" MetadataSpec.subject,
        defaulted "author" MetadataSpec.author, optional "description" MetadataSpec.description,
        optional "company" MetadataSpec.company, optional "category" MetadataSpec.category,
        defaulted "keywords" MetadataSpec.keywords]

instance : Declared OptionsSpec where
  shape :=
    .object
      [optional "storage" OptionsSpec.storage, optional "compress" OptionsSpec.compress,
        optional "password" OptionsSpec.password]

/-- A request has one sheet at least. -/
instance : Declared Request where
  shape :=
    .object
      [required "file_name" Request.fileName,
        shaped (.someOf (shape SheetSpec) "must contain at least 1 sheet")
          (required "sheets" Request.sheets),
        optional "metadata" Request.metadata, optional "options" Request.options]

end Declared

/-- The grammar of requests as their types declare it. -/
def declaredShape : Shape := Declared.shape Request

end Spreadsheet.Request
