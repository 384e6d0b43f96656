import Spreadsheet.Package.StyleSheet

/-! The document of a sheet. Its elements stand in the order that the format asks for.
-/

namespace Spreadsheet.Package

open Spreadsheet.Cell Spreadsheet.Sheet Spreadsheet.Xml

/-- An outline level, if there is one. -/
def levelAttribute (name : String) (level : Nat) : List (String × String) :=
  attributeIf (0 < level) name (Nat.repr level)

/-- The visibility of a row or column and its place in the outline. -/
def settingAttributes (s : Setting) : List (String × String) :=
  flag "hidden" s.hidden ++ levelAttribute "outlineLevel" s.outlineLevel ++
    flag "collapsed" s.collapsed

/-- The page of the sheet is fitted to a number of pages. -/
def sheetPropertyNodes (s : Sheet) : List Node :=
  nodeIf ((s.page.map (·.fitToPage)).getD false)
    (.element "sheetPr" [] [.leaf "pageSetUpPr" [("fitToPage", "1")]])

def dimensionNodes (s : Sheet) : List Node :=
  (s.dimension?.map fun r => Node.leaf "dimension" [("ref", r.text)]).toList

/-- The name of the pane that scrolls. -/
def activePane (f : Freeze) : String :=
  if 0 < f.rows then if 0 < f.columns then "bottomRight" else "bottomLeft" else "topRight"

/-- The frozen rows and columns and the cell that is selected beside them. -/
def freezeNodes (f : Freeze) : List Node :=
  let corner := f.topLeftCell.text
  [.leaf "pane"
      (attributeIf (0 < f.columns) "xSplit" (Nat.repr f.columns) ++
        attributeIf (0 < f.rows) "ySplit" (Nat.repr f.rows) ++
        [("topLeftCell", corner), ("activePane", activePane f), ("state", "frozen")]),
    .leaf "selection" [("pane", activePane f), ("activeCell", corner), ("sqref", corner)]]

/-- The view of the sheet; the first sheet is the selected one. -/
def viewNode (index : Nat) (s : Sheet) : Node :=
  let attributes := flag "tabSelected" (index == 0) ++ [("workbookViewId", "0")]
  .element "sheetViews" []
    [match s.freeze with
      | none => .leaf "sheetView" attributes
      | some f => .element "sheetView" attributes (freezeNodes f)]

def sheetFormatNode (s : Sheet) : Node :=
  .leaf "sheetFormatPr"
    ([("defaultRowHeight", "15")] ++
      levelAttribute "outlineLevelRow" (Settings.maxLevel s.rows) ++
      levelAttribute "outlineLevelCol" (Settings.maxLevel s.columns))

/-- The setting of one column. -/
def columnNode (column : Nat) (setting : Setting) : Node :=
  let number := Nat.repr (column + 1)
  .leaf "col"
    ([("min", number), ("max", number)] ++
      (match setting.size with
        | some width => [("width", width.display), ("customWidth", "1")]
        | none => []) ++
      settingAttributes setting)

/-- The settings that differ from the default. -/
def ownSettings (m : Settings) : List (Nat × Setting) := m.toList.filter (!·.2.isDefault)

def columnNodes (s : Sheet) : List Node :=
  let columns := ownSettings s.columns
  nodeIf (!columns.isEmpty)
    (.block step 1 "cols" [] (columns.map fun (column, setting) => columnNode column setting))

/-- A cell with a value, or one that is empty and has a style. -/
def cellNode (address : Address) (style : Nat) (value : Value) : List Node :=
  let attributes := [("r", address.text)] ++ attributeIf (style != 0) "s" (Nat.repr style)
  match value with
  | .empty => nodeIf (style != 0) (.leaf "c" attributes)
  | .number x => [.element "c" attributes [.textual "v" x.display]]
  | .text s =>
    [.element "c" (attributes ++ [("t", "inlineStr")])
      [.element "is" [] [.element "t" [("xml:space", "preserve")] [.text s]]]]
  | .boolean b =>
    [.element "c" (attributes ++ [("t", "b")]) [.textual "v" (if b then "1" else "0")]]
  | .formula body => [.element "c" attributes [.textual "f" body]]

/-- The cells of a row. -/
def rowCells (t : StyleTable) (index : Nat) (s : Sheet) (row : Nat) : List Node :=
  (s.cells.row row).toList.flatMap fun (column, entry) =>
    cellNode ⟨row, column⟩ (t.cellNumber index entry.style) entry.value

/-- The setting of a row. -/
def rowAttributes (s : Sheet) (row : Nat) : List (String × String) :=
  match s.rows[row]? with
  | none => []
  | some setting =>
    (match setting.size with
      | some height => [("ht", height.display), ("customHeight", "1")]
      | none => []) ++
    settingAttributes setting

/-- The rows with kept cells or a setting of their own. -/
def writtenRows (s : Sheet) : List Nat :=
  let rows : Numbered Unit :=
    .ofList ((s.cells.rows.keys ++ (ownSettings s.rows).map (·.1)).map fun row => (row, ()))
  rows.keys

def rowNode (t : StyleTable) (index : Nat) (s : Sheet) (row : Nat) : Node :=
  let attributes := [("r", Nat.repr (row + 1))] ++ rowAttributes s row
  let cells := rowCells t index s row
  if cells.isEmpty then .leaf "row" attributes else .block step 2 "row" attributes cells

def dataNode (t : StyleTable) (index : Nat) (s : Sheet) : Node :=
  let rows := writtenRows s
  if rows.isEmpty then .leaf "sheetData" []
  else .block step 1 "sheetData" [] (rows.map (rowNode t index s))

/-- A check word as four upper-case digits. -/
def hashText (hash : Nat) : String :=
  String.ofList ([hash / 4096, hash / 256, hash / 16, hash].map Encoding.Hex.upperDigit)

/-- What is locked; what stays allowed is marked by a zero. -/
def protectionNode (p : Protection) : Node :=
  let allowed (name : String) (isAllowed : Bool) := attributeIf isAllowed name "0"
  .leaf "sheetProtection"
    (attribute? "password" (p.hash?.map hashText) ++
      [("sheet", "1"), ("objects", "1"), ("scenarios", "1")] ++
      allowed "formatCells" p.formatCells ++ allowed "formatColumns" p.formatColumns ++
      allowed "formatRows" p.formatRows ++ allowed "insertColumns" p.insertColumns ++
      allowed "insertRows" p.insertRows ++ allowed "deleteColumns" p.deleteColumns ++
      allowed "deleteRows" p.deleteRows)

def protectionNodes (s : Sheet) : List Node := (s.protection.map protectionNode).toList

def filterNodes (s : Sheet) : List Node :=
  (s.filter.map fun r => Node.leaf "autoFilter" [("ref", r.text)]).toList

def mergeNodes (s : Sheet) : List Node :=
  nodeIf (!s.merged.isEmpty)
    (.block step 1 "mergeCells" [("count", Nat.repr s.merged.length)]
      (s.merged.map fun r => .leaf "mergeCell" [("ref", r.text)]))

/-- Ranges with blanks between them. -/
def rangesText (ranges : List Range) : String := " ".intercalate (ranges.map Range.text)

def thresholdNode (t : Threshold) : Node :=
  .leaf "cfvo" ([("type", t.kind.name)] ++ attribute? "val" t.value)

/-- The formula that finds a text in a cell. Quotes in the text are doubled. -/
def searchFormula (text : String) (cell : Address) : List Node :=
  let doubled := text.toList.flatMap fun c => if c = '"' then ['"', '"'] else [c]
  [.plain "NOT(ISERROR(SEARCH(\"", .text (String.ofList doubled),
    .plain ("\"," ++ cell.text ++ ")))")]

/-- The first cell of the first range. -/
def firstCell (ranges : List Range) : Address := ((ranges.head?.map (·.topLeft)).getD ⟨0, 0⟩)

def dataBarNode (bar : DataBar) : Node :=
  .element "dataBar"
    (attribute? "minLength" (bar.minLength.map Nat.repr) ++
      attribute? "maxLength" (bar.maxLength.map Nat.repr) ++
      attributeIf (!bar.showValue) "showValue" "0")
    [thresholdNode bar.min, thresholdNode bar.max, colorNode "color" bar.color]

/-- A rule; the number is that of its style. -/
def ruleNode (number : Option Nat) (rule : Rule) : Node :=
  let head :=
    [("type", rule.condition.kindName), ("priority", Nat.repr (max rule.priority 1))] ++
      flag "stopIfTrue" rule.stopIfTrue
  let styled := head ++ attribute? "dxfId" (number.map Nat.repr)
  match rule.condition with
  | .cellIs comparison first second =>
    .element "cfRule" (styled ++ [("operator", comparison.name)])
      (.textual "formula" first :: (second.map (Node.textual "formula")).toList)
  | .expression formula => .element "cfRule" styled [.textual "formula" formula]
  | .containsText text =>
    .element "cfRule" (styled ++ [("operator", "containsText"), ("text", text)])
      [.element "formula" [] (searchFormula text (firstCell rule.ranges))]
  | .colorScale stops =>
    .element "cfRule" head
      [.element "colorScale" []
        (stops.map (fun s => thresholdNode s.threshold) ++
          stops.map fun s => colorNode "color" s.color)]
  | .dataBar bar => .element "cfRule" head [dataBarNode bar]
  | .iconSet icons thresholds reversed showValue =>
    .element "cfRule" head
      [.element "iconSet"
        ([("iconSet", icons.name)] ++ flag "reverse" reversed ++
          attributeIf (!showValue) "showValue" "0")
        (thresholds.map thresholdNode)]

/-- The rules that have a range, each in an element of its own. -/
def ruleNodes (t : StyleTable) (index : Nat) (s : Sheet) : List Node :=
  (s.rules.zipIdx.filter (!·.1.ranges.isEmpty)).map fun (rule, i) =>
    .block step 1 "conditionalFormatting" [("sqref", rangesText rule.ranges)]
      [ruleNode (t.ruleNumber? index i) rule]

def validationNode (v : Validation) : Node :=
  .element "dataValidation"
    ([("type", v.kind.name)] ++
      attributeIf v.usesComparison "operator" v.comparison.name ++
      flag "allowBlank" v.allowBlank ++ flag "showInputMessage" v.showInput ++
      flag "showErrorMessage" v.showError ++ attribute? "errorTitle" v.errorTitle ++
      attribute? "error" v.error ++ attribute? "promptTitle" v.promptTitle ++
      attribute? "prompt" v.prompt ++ [("sqref", rangesText v.ranges)])
    ((v.first.map (Node.textual "formula1")).toList ++
      (v.second.map (Node.textual "formula2")).toList)

/-- The validations that have a range. -/
def validationNodes (s : Sheet) : List Node :=
  let validations := s.validations.filter (!·.ranges.isEmpty)
  nodeIf (!validations.isEmpty)
    (.block step 1 "dataValidations" [("count", Nat.repr validations.length)]
      (validations.map validationNode))

def marginsNode (m : Margins) : Node :=
  .leaf "pageMargins"
    [("left", m.left.display), ("right", m.right.display), ("top", m.top.display),
      ("bottom", m.bottom.display), ("header", m.header.display), ("footer", m.footer.display)]

def pageNode (p : PageSetup) : Node :=
  .leaf "pageSetup"
    (attribute? "paperSize" (p.paperSize.map Nat.repr) ++
      attribute? "fitToWidth" (p.fitToWidth.map Nat.repr) ++
      attribute? "fitToHeight" (p.fitToHeight.map Nat.repr) ++
      [("orientation", p.orientation.name)])

def headerFooterNode (h : HeaderFooter) : Node :=
  let part (name : String) (text : Option String) := (text.map (Node.textual name)).toList
  .element "headerFooter" (flag "differentOddEven" h.differsOnEvenPages)
    (part "oddHeader" h.oddHeader ++ part "oddFooter" h.oddFooter ++
      part "evenHeader" h.evenHeader ++ part "evenFooter" h.evenFooter)

/-- The page of a sheet. Margins are always written. -/
def pageNodes (s : Sheet) : List Node :=
  [marginsNode ((s.page.map (·.margins)).getD {})] ++ (s.page.map pageNode).toList ++
    ((s.headerFooter.filter (!·.isEmpty)).map headerFooterNode).toList

/-- The pictures of a sheet are in a part of their own. -/
def drawingNodes (s : Sheet) : List Node :=
  nodeIf (!s.pictures.isEmpty) (.leaf "drawing" [("r:id", relationshipId 1)])

/-- The document of the sheet at a position. -/
def sheetNode (t : StyleTable) (index : Nat) (s : Sheet) : Node :=
  .block step 0 "worksheet"
    [("xmlns", "http://schemas.openxmlformats.org/spreadsheetml/2006/main"),
      ("xmlns:r", "http://schemas.openxmlformats.org/officeDocument/2006/relationships")]
    (sheetPropertyNodes s ++ dimensionNodes s ++ [viewNode index s, sheetFormatNode s] ++
      columnNodes s ++ [dataNode t index s] ++ protectionNodes s ++ filterNodes s ++
      mergeNodes s ++ ruleNodes t index s ++ validationNodes s ++ pageNodes s ++ drawingNodes s)

end Spreadsheet.Package
