import Std.Data.ExtTreeMap.Basic
import Spreadsheet.Cell.Address

/-! Things kept under row or column numbers, in the order of the numbers.
-/

namespace Spreadsheet.Cell

/-- A finite map from row or column numbers. -/
abbrev Numbered (α : Type) := Std.ExtTreeMap Nat α

/-- Moves everything at or below row `start` down by `count` rows. What is moved replaces what
may stand in its way. -/
def Numbered.shiftRows (start count : Nat) (m : Numbered α) : Numbered α :=
  .ofList (m.toList.map fun entry => (shiftRow start count entry.1, entry.2))

/-- The greatest number with something under it. -/
def Numbered.lastKey? (m : Numbered α) : Option Nat := m.keys.getLast?

/-- One thing under one number. -/
def Numbered.single (i : Nat) (a : α) : Numbered α := (∅ : Numbered α).insert i a

end Spreadsheet.Cell
