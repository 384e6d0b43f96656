import Spreadsheet.Cell.Numbered
import Spreadsheet.Package.ReadError
import Spreadsheet.Style.Basic

/-! The styles of cells as far as they are read: number format, font size, boldness and solid
fill.
-/

namespace Spreadsheet.Package

open Spreadsheet.Number Spreadsheet.Style

/-- What a style names by number. -/
structure StyleReference where
  format : Nat
  font : Nat
  fill : Nat
deriving DecidableEq, Repr

/-- What is read of a font. -/
structure FontReading where
  bold : Bool := false
  size : Number.Binary64 := 11
deriving DecidableEq, Repr

/-- The lists read so far, the one that is being read, and if its last fill is a solid one. -/
structure CellStyles where
  codes : Cell.Numbered String := ∅
  fonts : Array FontReading := #[]
  fills : Array Fill := #[]
  references : Array StyleReference := #[]
  listName : String := ""
  inSolid : Bool := false
deriving DecidableEq

namespace CellStyles

/-- Elements whose contents are told apart. -/
def sections : List String := ["fonts", "fills", "cellXfs", "dxfs", "cellStyleXfs"]

/-- The numbers in a style; one that cannot be read is zero. -/
def reference (tag : Xml.Tag) : StyleReference where
  format := (tag.nat? "numFmtId" (wordLimit 32)).getD 0
  font := (tag.nat? "fontId" (wordLimit 64)).getD 0
  fill := (tag.nat? "fillId" (wordLimit 64)).getD 0

/-- Changes the last entry of a list. -/
def updateLast (f : α → α) (list : Array α) : Array α := list.modify (list.size - 1) f

def addReference (s : CellStyles) (tag : Xml.Tag) : CellStyles :=
  if s.listName = "cellXfs" then { s with references := s.references.push (reference tag) } else s

def start (s : CellStyles) (tag : Xml.Tag) : CellStyles :=
  if sections.contains tag.name then { s with listName := tag.name }
  else
    match tag.name with
    | "font" => if s.listName = "fonts" then { s with fonts := s.fonts.push {} } else s
    | "fill" => if s.listName = "fills" then { s with fills := s.fills.push .none } else s
    | "patternFill" =>
      if s.listName = "fills" then
        { s with inSolid := tag.attribute? "patternType" == some "solid" }
      else s
    | "xf" => s.addReference tag
    | _ => s

/-- A format code with its number. -/
def addCode (s : CellStyles) (tag : Xml.Tag) : CellStyles :=
  match tag.nat? "numFmtId" (wordLimit 32), tag.attribute? "formatCode" with
  | some number, some code => { s with codes := s.codes.insert number code }
  | _, _ => s

def setSize (s : CellStyles) (tag : Xml.Tag) : CellStyles :=
  match tag.number? "val" with
  | some size => { s with fonts := updateLast (fun f => { f with size }) s.fonts }
  | none => s

def setColor (s : CellStyles) (tag : Xml.Tag) : CellStyles :=
  match (tag.attribute? "rgb").bind Color.ofHex? with
  | some color => { s with fills := updateLast (fun _ => .solid color) s.fills }
  | none => s

def empty (s : CellStyles) (tag : Xml.Tag) : CellStyles :=
  match tag.name with
  | "numFmt" => if s.listName = "dxfs" then s else s.addCode tag
  | "b" =>
    if s.listName = "fonts" then
      { s with fonts := updateLast (fun f => { f with bold := true }) s.fonts }
    else s
  | "sz" => if s.listName = "fonts" then s.setSize tag else s
  | "fgColor" => if s.listName = "fills" && s.inSolid then s.setColor tag else s
  | "patternFill" => if s.listName = "fills" then { s with inSolid := false } else s
  | "xf" => s.addReference tag
  | _ => s

def step (s : CellStyles) : Xml.Event → Except ReadError CellStyles
  | .start tag => .ok (s.start tag)
  | .empty tag => .ok (s.empty tag)
  | .close name => .ok (if name = s.listName then { s with listName := "" } else s)
  | .text _ => .ok s

/-- The number format with a number: a code of the file, or one known beforehand. -/
def format (s : CellStyles) (number : Nat) : NumberFormat :=
  match s.codes[number]? with
  | some code => .ofCode code
  | none => (NumberFormat.ofBuiltIn? number).getD .general

/-- The style that names some numbers; what they do not name stays at its default. -/
def style (s : CellStyles) (r : StyleReference) : Style :=
  let base : Style := {}
  let font := (s.fonts[r.font]?.map fun f => { base.font with bold := f.bold, size := f.size })
  { base with
    format := s.format r.format
    font := font.getD base.font
    fill := s.fills[r.fill]?.getD base.fill }

/-- The styles of a package; a package without them has none. -/
def ofPackage (p : Package) : Except ReadError (Array Style) := do
  let s ← foldPart? p "xl/styles.xml" step {}
  return s.references.map s.style

end CellStyles

end Spreadsheet.Package
