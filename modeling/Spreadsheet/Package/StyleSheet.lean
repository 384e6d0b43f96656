import Spreadsheet.Package.StyleTable

/-! The document of styles. Fonts, fills, borders and format codes have lists of their own, and
each style names its entries in them by number.
-/

namespace Spreadsheet.Package

open Spreadsheet.Style Spreadsheet.Xml

/-- The document leaves this many blanks at each level. -/
def styleStep : Nat := 2

/-- Format codes without a number of their own are numbered from here on. -/
def firstCustomFormat : Nat := 164

/-- The lists that styles draw on. The first two fills are set by the format. -/
structure StyleLists where
  fonts : Array Font := #[{}]
  fills : Array Fill := #[.none, .none]
  borders : Array Border := #[{}]
  codes : Array String := #[]
deriving DecidableEq, Repr

/-- The numbers of a style's entries in the lists. -/
structure StyleNumbers where
  format : Nat
  font : Nat
  fill : Nat
  border : Nat
deriving DecidableEq, Repr

namespace StyleLists

/-- The number of a number format. -/
def number (lists : StyleLists) (format : NumberFormat) : Nat × StyleLists :=
  match format.builtIn? with
  | some i => (i, lists)
  | none =>
    let (i, codes) := intern (fun _ => true) lists.codes format.text
    (firstCustomFormat + i, { lists with codes })

/-- The numbers of a style, whose slots join the lists where they are new. -/
def add (lists : StyleLists) (style : Style) : StyleNumbers × StyleLists :=
  let (format, lists) := lists.number style.format
  let (font, fonts) := intern Font.isComparable lists.fonts style.font
  let (fill, fills) := intern (fun _ => true) lists.fills style.fill
  let (border, borders) := intern (fun _ => true) lists.borders style.border
  (⟨format, font, fill, border⟩, { lists with fonts, fills, borders })

/-- The numbers of styles one after the other. -/
def addAll (lists : StyleLists) : List Style → List StyleNumbers × StyleLists
  | [] => ([], lists)
  | style :: styles =>
    let (numbers, lists) := lists.add style
    let (rest, lists) := lists.addAll styles
    (numbers :: rest, lists)

end StyleLists

/-- A color as an element; the automatic one has a number. -/
def colorNode (name : String) (color : Color) : Node :=
  if color.isAuto then .leaf name [("indexed", "64")] else .leaf name [("rgb", color.argbHex)]

/-- An element that is there only if something is switched on. -/
def nodeIf (wanted : Bool) (node : Node) : List Node := if wanted then [node] else []

def fontNode (font : Font) : Node :=
  .element "font" []
    (nodeIf font.bold (.leaf "b" []) ++ nodeIf font.italic (.leaf "i" []) ++
      nodeIf font.underline (.leaf "u" []) ++
      [.leaf "sz" [("val", font.size.display)]] ++
      nodeIf (!font.color.isAuto) (colorNode "color" font.color) ++
      [.leaf "name" [("val", font.name)]])

/-- A fill: a pattern with its colors. -/
def patternNode (name : String) (colors : List Node) : Node :=
  let attributes := [("patternType", name)]
  .element "fill" []
    [if colors.isEmpty then .leaf "patternFill" attributes
      else .element "patternFill" attributes colors]

def fillNode : Fill → Node
  | .none => patternNode Pattern.none.name []
  | .solid color =>
    patternNode Pattern.solid.name
      [colorNode "fgColor" color, .leaf "bgColor" [("indexed", "64")]]
  | .pattern pattern foreground background =>
    patternNode pattern.name [colorNode "fgColor" foreground, colorNode "bgColor" background]

/-- The fill of a rule shows its solid color by the color behind. -/
def ruleFillNode : Fill → Node
  | .solid color =>
    patternNode Pattern.solid.name [colorNode "fgColor" color, colorNode "bgColor" color]
  | fill => fillNode fill

def edgeNode (name : String) : Option Edge → Node
  | none => .leaf name []
  | some edge => .element name [("style", edge.line.name)] [colorNode "color" edge.color]

def borderNode (border : Border) : Node :=
  .element "border" []
    [edgeNode "left" border.left, edgeNode "right" border.right, edgeNode "top" border.top,
      edgeNode "bottom" border.bottom, .leaf "diagonal" []]

/-- The parts of an alignment that differ from the default. -/
def alignmentNode (a : Style.Alignment) : Node :=
  let base : Style.Alignment := {}
  .leaf "alignment"
    (attributeIf (a.horizontal != base.horizontal) "horizontal" a.horizontal.name ++
      attributeIf (a.vertical != base.vertical) "vertical" a.vertical.name ++
      flag "wrapText" a.wrap)

/-- A number format with its number. -/
def formatNode (number : Nat) (code : String) : Node :=
  .leaf "numFmt" [("numFmtId", Nat.repr number), ("formatCode", code)]

/-- The style of cells with some numbers. -/
def cellStyleNode (style : Style) (numbers : StyleNumbers) : Node :=
  let base : Style := {}
  let attributes :=
    [("numFmtId", Nat.repr numbers.format), ("fontId", Nat.repr numbers.font),
      ("fillId", Nat.repr numbers.fill), ("borderId", Nat.repr numbers.border),
      ("xfId", "0")] ++
    flag "applyNumberFormat" (numbers.format != 0) ++
    flag "applyFont" (style.font != base.font) ++
    flag "applyFill" (!style.fill.isNone) ++
    flag "applyBorder" (!style.border.isEmpty) ++
    flag "applyAlignment" (!style.alignment.isDefault)
  if style.alignment.isDefault then .leaf "xf" attributes
  else .element "xf" attributes [alignmentNode style.alignment]

/-- The style of rules: the slots that differ from the default. -/
def ruleStyleNode (style : Style) : Node :=
  let base : Style := {}
  .element "dxf" []
    (nodeIf (style.font != base.font) (fontNode style.font) ++
      nodeIf (!style.format.isGeneral)
        (formatNode (style.format.builtIn?.getD firstCustomFormat) style.format.text) ++
      nodeIf (!style.fill.isNone) (ruleFillNode style.fill) ++
      nodeIf (!style.border.isEmpty) (borderNode style.border))

/-- A list of entries with their number. -/
def listNode (name : String) (items : List Node) : Node :=
  .block styleStep 1 name [("count", Nat.repr items.length)] items

/-- A list that is one tag if it has no entries. -/
def listOrLeaf (name : String) (items : List Node) : Node :=
  if items.isEmpty then .leaf name [("count", "0")] else listNode name items

/-- The fills as listed; the second one is a pattern that the format asks for. -/
def fillNodes (fills : List Fill) : List Node :=
  fills.zipIdx.map fun (fill, i) =>
    if i = 1 then patternNode Pattern.gray125.name [] else fillNode fill

/-- The document of all styles in a table. -/
def styleSheetNode (t : StyleTable) : Node :=
  let (numbers, lists) := StyleLists.addAll {} t.styles.toList
  let codes := lists.codes.toList.zipIdx.map fun (code, i) =>
    formatNode (firstCustomFormat + i) code
  .block styleStep 0 "styleSheet"
    [("xmlns", "http://schemas.openxmlformats.org/spreadsheetml/2006/main")]
    (nodeIf (!codes.isEmpty) (listNode "numFmts" codes) ++
      [listNode "fonts" (lists.fonts.toList.map fontNode),
        listNode "fills" (fillNodes lists.fills.toList),
        listNode "borders" (lists.borders.toList.map borderNode),
        listNode "cellStyleXfs"
          [.leaf "xf" [("numFmtId", "0"), ("fontId", "0"), ("fillId", "0"), ("borderId", "0")]],
        listNode "cellXfs" (List.zipWith cellStyleNode t.styles.toList numbers),
        listNode "cellStyles"
          [.leaf "cellStyle" [("name", "Normal"), ("xfId", "0"), ("builtinId", "0")]],
        listOrLeaf "dxfs" (t.ruleStyles.toList.map ruleStyleNode),
        .leaf "tableStyles"
          [("count", "0"), ("defaultTableStyle", "TableStyleMedium9"),
            ("defaultPivotStyle", "PivotStyleLight16")]])

end Spreadsheet.Package
