import Spreadsheet.Style.Color
import Spreadsheet.Text.LowerCase

/-! Cell fills: none, one solid color, or a pattern of two colors.
-/

namespace Spreadsheet.Style

inductive Pattern where
  | none
  | solid
  | mediumGray
  | darkGray
  | lightGray
  | darkHorizontal
  | darkVertical
  | darkDown
  | darkUp
  | darkGrid
  | darkTrellis
  | lightHorizontal
  | lightVertical
  | lightDown
  | lightUp
  | lightGrid
  | lightTrellis
  | gray125
  | gray0625
deriving DecidableEq, Repr

namespace Pattern

def all : List Pattern :=
  [.none, .solid, .mediumGray, .darkGray, .lightGray, .darkHorizontal, .darkVertical, .darkDown,
    .darkUp, .darkGrid, .darkTrellis, .lightHorizontal, .lightVertical, .lightDown, .lightUp,
    .lightGrid, .lightTrellis, .gray125, .gray0625]

/-- The name in files and requests. -/
def name : Pattern → String
  | .none => "none"
  | .solid => "solid"
  | .mediumGray => "mediumGray"
  | .darkGray => "darkGray"
  | .lightGray => "lightGray"
  | .darkHorizontal => "darkHorizontal"
  | .darkVertical => "darkVertical"
  | .darkDown => "darkDown"
  | .darkUp => "darkUp"
  | .darkGrid => "darkGrid"
  | .darkTrellis => "darkTrellis"
  | .lightHorizontal => "lightHorizontal"
  | .lightVertical => "lightVertical"
  | .lightDown => "lightDown"
  | .lightUp => "lightUp"
  | .lightGrid => "lightGrid"
  | .lightTrellis => "lightTrellis"
  | .gray125 => "gray125"
  | .gray0625 => "gray0625"

/-- The pattern of a name, whatever the case of its letters. -/
def ofName? (s : String) : Option Pattern :=
  all.find? fun p => Text.lowerAscii p.name == Text.lowerAscii s

end Pattern

inductive Fill where
  | none
  | solid (color : Color)
  | pattern (pattern : Pattern) (foreground background : Color)
deriving DecidableEq, Repr

namespace Fill

instance : Inhabited Fill := ⟨.none⟩

def isNone : Fill → Bool
  | .none => true
  | _ => false

/-- The color of a solid fill. -/
def solidColor? : Fill → Option Color
  | .solid color => some color
  | _ => Option.none

end Fill

end Spreadsheet.Style
