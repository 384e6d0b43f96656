import Spreadsheet.Number.Layout
import Spreadsheet.Style.Alignment
import Spreadsheet.Style.Border
import Spreadsheet.Style.Color
import Spreadsheet.Style.Fill
import Spreadsheet.Style.NumberFormat

/-! The style of a cell: five slots, each with a default, of which the font is given here.
-/

namespace Spreadsheet

namespace Style

structure Font where
  name : String := "Calibri"
  size : Number.Binary64 := 11
  bold : Bool := false
  italic : Bool := false
  underline : Bool := false
  color : Color := .auto
deriving DecidableEq, Repr

namespace Font

instance : Inhabited Font := ⟨{}⟩

/-- The size is a number. A font whose size is none is never found again in a list. -/
def isComparable (f : Font) : Bool := !f.size.isNaN

end Font

end Style

structure Style where
  font : Style.Font := {}
  fill : Style.Fill := .none
  border : Style.Border := {}
  alignment : Style.Alignment := {}
  format : Style.NumberFormat := .general
deriving DecidableEq, Repr

namespace Style

instance : Inhabited Style := ⟨{}⟩

/-- Equal styles are told apart only if their font size is not a number. -/
def isComparable (s : Style) : Bool := s.font.isComparable

end Style

end Spreadsheet
