import Spreadsheet.Cell.Address
import Spreadsheet.Text.LowerCase

/-! Charts and pictures that float over the cells between two corners.
-/

namespace Spreadsheet.Sheet

/-- The cells under the upper left and the lower right corner. -/
structure Anchor where
  topLeft : Cell.Address
  bottomRight : Cell.Address
deriving DecidableEq, Repr

def Anchor.corners (a : Anchor) : List Cell.Address := [a.topLeft, a.bottomRight]

def Anchor.shiftRows (start count : Nat) (a : Anchor) : Anchor :=
  ⟨a.topLeft.shiftRows start count, a.bottomRight.shiftRows start count⟩

inductive ChartKind where
  | bar
  | column
  | line
  | pie
  | scatter
  | area
  | doughnut
deriving DecidableEq, Repr

namespace ChartKind

/-- The name in requests. -/
def name : ChartKind → String
  | .bar => "bar"
  | .column => "column"
  | .line => "line"
  | .pie => "pie"
  | .scatter => "scatter"
  | .area => "area"
  | .doughnut => "doughnut"

def hasAxes : ChartKind → Bool
  | .pie | .doughnut => false
  | _ => true

end ChartKind

inductive Legend where
  | right
  | top
  | bottom
  | left
  | hidden
deriving DecidableEq, Repr

/-- The name of its place in requests. -/
def Legend.name : Legend → String
  | .right => "right"
  | .top => "top"
  | .bottom => "bottom"
  | .left => "left"
  | .hidden => "none"

/-- A name and the range of the values. -/
structure Series where
  name : String
  values : String
deriving DecidableEq, Repr

structure Chart where
  kind : ChartKind
  title : Option String := none
  categories : String
  series : List Series := []
  legend : Legend := .right
  xAxisTitle : Option String := none
  yAxisTitle : Option String := none
  anchor : Anchor
deriving DecidableEq, Repr

def Chart.shiftRows (start count : Nat) (c : Chart) : Chart :=
  { c with anchor := c.anchor.shiftRows start count }

inductive PictureFormat where
  | png
  | jpeg
  | gif
deriving DecidableEq, Repr

namespace PictureFormat

/-- The extension of file names. -/
def extension : PictureFormat → String
  | .png => "png"
  | .jpeg => "jpeg"
  | .gif => "gif"

def contentType : PictureFormat → String
  | .png => "image/png"
  | .jpeg => "image/jpeg"
  | .gif => "image/gif"

/-- The format of an extension, dots in front and the case of letters aside. -/
def ofExtension? (s : String) : Option PictureFormat :=
  let name := String.ofList ((s.toList.dropWhile (· == '.')).map Char.toLower)
  if name = "png" then some .png
  else if name = "jpg" ∨ name = "jpeg" then some .jpeg
  else if name = "gif" then some .gif
  else none

/-- The format that data show by their first bytes. -/
def detect? (data : List UInt8) : Option PictureFormat :=
  if [0x89, 0x50, 0x4E, 0x47].isPrefixOf data then some .png
  else if [0xFF, 0xD8, 0xFF].isPrefixOf data then some .jpeg
  else if [0x47, 0x49, 0x46, 0x38].isPrefixOf data then some .gif
  else none

end PictureFormat

structure Picture where
  anchor : Anchor
  format : PictureFormat
  data : List UInt8
deriving DecidableEq, Repr

def Picture.shiftRows (start count : Nat) (p : Picture) : Picture :=
  { p with anchor := p.anchor.shiftRows start count }

end Spreadsheet.Sheet
