import Spreadsheet.Style.Color
import Spreadsheet.Text.LowerCase

/-! Cell borders: a line of some kind and color on each side, or none.
-/

namespace Spreadsheet.Style

inductive LineKind where
  | thin
  | medium
  | thick
  | dashed
  | dotted
  | double
  | hair
  | mediumDashed
  | dashDot
  | mediumDashDot
  | dashDotDot
  | mediumDashDotDot
  | slantDashDot
deriving DecidableEq, Repr

namespace LineKind

def all : List LineKind :=
  [.thin, .medium, .thick, .dashed, .dotted, .double, .hair, .mediumDashed, .dashDot,
    .mediumDashDot, .dashDotDot, .mediumDashDotDot, .slantDashDot]

/-- The name in files and requests. -/
def name : LineKind → String
  | .thin => "thin"
  | .medium => "medium"
  | .thick => "thick"
  | .dashed => "dashed"
  | .dotted => "dotted"
  | .double => "double"
  | .hair => "hair"
  | .mediumDashed => "mediumDashed"
  | .dashDot => "dashDot"
  | .mediumDashDot => "mediumDashDot"
  | .dashDotDot => "dashDotDot"
  | .mediumDashDotDot => "mediumDashDotDot"
  | .slantDashDot => "slantDashDot"

/-- The kind of a name, whatever the case of its letters. -/
def ofName? (s : String) : Option LineKind :=
  all.find? fun k => Text.lowerAscii k.name == Text.lowerAscii s

end LineKind

structure Edge where
  line : LineKind
  color : Color
deriving DecidableEq, Repr

structure Border where
  left : Option Edge := none
  right : Option Edge := none
  top : Option Edge := none
  bottom : Option Edge := none
deriving DecidableEq, Repr

namespace Border

instance : Inhabited Border := ⟨{}⟩

/-- The same line on all four sides. -/
def box (line : LineKind) (color : Color) : Border :=
  let edge := some ⟨line, color⟩
  ⟨edge, edge, edge, edge⟩

def isEmpty (b : Border) : Bool :=
  b.left.isNone && b.right.isNone && b.top.isNone && b.bottom.isNone

end Border

end Spreadsheet.Style
