import Spreadsheet.Request.Shape

/-! The grammar of requests, as one shape. Fields are listed in the order in which faults are
reported. The grammar spells out the names it allows and owes nothing to the types that requests
are read into.
-/

namespace Spreadsheet.Request

open Shape

/-- Fields that must be there. -/
def must (name : String) (shape : Shape) : String × Bool × Shape := (name, true, shape)

/-- Fields that may be left out. -/
def may (name : String) (shape : Shape) : String × Bool × Shape := (name, false, shape)

/-- Several fields of one shape that may be left out. -/
def mayAll (names : List String) (shape : Shape) : List (String × Bool × Shape) :=
  names.map fun name => may name shape

/-! The names that the closed sets of values go by, in the order in which messages list them.
-/

def layoutNames : List String := ["table", "form", "dashboard", "report", "calendar"]

def columnKindNames : List String :=
  ["text", "number", "currency", "percentage", "date", "datetime", "boolean", "formula"]

def validationKindNames : List String :=
  ["list", "whole", "decimal", "date", "textLength", "custom"]

def ruleKindNames : List String := ["cellIs", "expression", "colorScale", "dataBar", "iconSet"]

def ruleOperatorNames : List String :=
  ["greaterThan", "lessThan", "greaterThanOrEqual", "lessThanOrEqual", "between", "notBetween",
    "equal", "notEqual", "containsText"]

def thresholdNames : List String := ["min", "max", "num", "percent", "percentile"]

def chartKindNames : List String :=
  ["bar", "column", "line", "pie", "scatter", "area", "doughnut"]

def legendNames : List String := ["top", "bottom", "left", "right", "none"]

def horizontalNames : List String := ["left", "center", "right", "justify"]

def verticalNames : List String := ["top", "middle", "bottom"]

def orientationNames : List String := ["portrait", "landscape"]

def extensionNames : List String := ["png", "jpg", "jpeg", "gif"]

def storageNames : List String := ["s3", "local"]

def colorShape : Shape := .object [must "argb" .string]

def fontShape : Shape :=
  .object <|
    [may "name" .string, may "size" .number] ++
    mayAll ["bold", "italic", "underline"] .boolean ++
    [may "color" colorShape]

def alignmentShape : Shape :=
  .object
    [may "horizontal" (.oneOf horizontalNames),
      may "vertical" (.oneOf verticalNames), may "wrapText" .boolean]

def fillShape : Shape :=
  .object
    [must "type" (.oneOf ["pattern"]), must "pattern" .string, must "fgColor" colorShape,
      may "bgColor" colorShape]

def edgeShape : Shape := .object [must "style" .string, must "color" colorShape]

def borderShape : Shape := .object (mayAll ["top", "bottom", "left", "right"] edgeShape)

def styleShape : Shape :=
  .object
    [may "font" fontShape, may "alignment" alignmentShape, may "fill" fillShape,
      may "border" borderShape]

def validationShape : Shape :=
  .object <|
    [must "type" (.oneOf validationKindNames)] ++
    mayAll
      ["operator", "formula1", "formula2", "promptTitle", "prompt", "errorTitle", "error"]
      .string ++
    mayAll ["allowBlank", "showInputMessage", "showErrorMessage"] .boolean

def columnShape : Shape :=
  .object
    [must "header" .string, must "key" .string, may "width" .number,
      may "type" (.oneOf columnKindNames), may "format" .string,
      may "style" styleShape, may "validation" validationShape]

def marginsShape : Shape :=
  .object (mayAll ["top", "bottom", "left", "right", "header", "footer"] .number)

def pageShape : Shape :=
  .object <|
    [may "orientation" (.oneOf orientationNames), may "fitToPage" .boolean] ++
    mayAll ["fitToWidth", "fitToHeight", "paperSize"] (.integer 0) ++
    [may "margins" marginsShape]

def headerFooterShape : Shape :=
  .object (mayAll ["oddHeader", "oddFooter", "evenHeader", "evenFooter"] .string)

def protectionShape : Shape :=
  .object <|
    [may "password" .string] ++
    mayAll
      ["sheet", "formatCells", "formatColumns", "formatRows", "insertColumns", "insertRows",
        "deleteColumns", "deleteRows"]
      .boolean

def rowGroupShape : Shape :=
  .object [must "start" (.integer 1), must "end" (.integer 1), may "collapsed" .boolean]

def columnGroupShape : Shape :=
  .object [must "start" .string, must "end" .string, may "collapsed" .boolean]

def ruleFillShape : Shape :=
  .object
    [may "type" .string, may "pattern" .string, may "fgColor" colorShape,
      may "bgColor" colorShape]

def ruleStyleShape : Shape :=
  .object [may "font" fontShape, may "fill" ruleFillShape, may "border" borderShape]

def thresholdShape : Shape :=
  .object [must "type" (.oneOf thresholdNames), may "value" .number]

def colorScaleShape : Shape :=
  .object [must "cfvo" (.array thresholdShape), must "color" (.array colorShape)]

def dataBarShape : Shape :=
  .object <|
    mayAll ["minLength", "maxLength"] (.integer 0) ++
    mayAll ["showValue", "gradient", "border", "negativeBarColorSameAsPositive"] .boolean

def ruleShape : Shape :=
  .object
    [must "range" .string, must "type" (.oneOf ruleKindNames),
      may "operator" (.oneOf ruleOperatorNames), may "formulae" (.array .textOrNumber),
      may "style" ruleStyleShape, may "colorScale" colorScaleShape, may "dataBar" dataBarShape]

def formattingShape : Shape :=
  .object
    [may "freeze_panes" .string, may "auto_filter" .boolean, may "page_setup" pageShape,
      may "header_footer" headerFooterShape, may "protection" protectionShape,
      may "totals_row" (.members .string), may "conditional_formatting" (.array ruleShape),
      may "merged_cells" (.array .string), may "row_heights" (.members .number),
      may "hidden_rows" (.array (.integer 1)), may "hidden_columns" (.array .string),
      may "grouped_rows" (.array rowGroupShape), may "grouped_columns" (.array columnGroupShape)]

def anchorShape : Shape := .object [must "from" .string, must "to" .string]

def axisShape : Shape := .object [may "title" .string]

def axesShape : Shape := .object (mayAll ["x", "y"] axisShape)

def legendShape : Shape := .object [may "position" (.oneOf legendNames)]

def chartOptionsShape : Shape := .object [may "legend" legendShape, may "axes" axesShape]

def seriesShape : Shape := .object [must "name" .string, must "range" .string]

def chartDataShape : Shape :=
  .object [must "categories" .string, must "values" (.array seriesShape)]

def chartShape : Shape :=
  .object
    [must "type" (.oneOf chartKindNames), must "position" anchorShape,
      may "title" .string, must "data" chartDataShape, may "options" chartOptionsShape]

def pictureShape : Shape :=
  .object
    [must "position" anchorShape, may "url" .string, may "base64" .string,
      may "extension" (.oneOf extensionNames)]

def sheetShape : Shape :=
  .object
    [must "name" .string, may "layout" (.oneOf layoutNames),
      must "columns" (.array columnShape), must "data" (.array .anyObject),
      may "formatting" formattingShape, may "charts" (.array chartShape),
      may "images" (.array pictureShape), may "metadata" .anyObject]

def metadataShape : Shape :=
  .object <|
    mayAll ["title", "subject", "author", "description", "company", "category"] .string ++
    [may "keywords" (.array .string)]

def optionsShape : Shape :=
  .object
    [may "storage" (.oneOf storageNames), may "compress" .boolean,
      may "password" .string]

/-- The shape of requests. A draft may leave out the file name and the sheets. -/
def requestShape (draft : Bool) : Shape :=
  .object
    [("file_name", !draft, .string),
      ("sheets", !draft, .someOf sheetShape "must contain at least 1 sheet"),
      may "metadata" metadataShape, may "options" optionsShape]

end Spreadsheet.Request
