/-! Where the text stands inside a cell.
-/

namespace Spreadsheet.Style

inductive Horizontal where
  | general
  | left
  | center
  | right
  | justify
deriving DecidableEq, Repr

def Horizontal.name : Horizontal → String
  | .general => "general"
  | .left => "left"
  | .center => "center"
  | .right => "right"
  | .justify => "justify"

inductive Vertical where
  | top
  | center
  | bottom
deriving DecidableEq, Repr

def Vertical.name : Vertical → String
  | .top => "top"
  | .center => "center"
  | .bottom => "bottom"

structure Alignment where
  horizontal : Horizontal := .general
  vertical : Vertical := .bottom
  wrap : Bool := false
deriving DecidableEq, Repr

namespace Alignment

instance : Inhabited Alignment := ⟨{}⟩

def isDefault (a : Alignment) : Bool := a == {}

end Alignment

end Spreadsheet.Style
