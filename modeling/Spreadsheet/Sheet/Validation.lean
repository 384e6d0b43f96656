import Spreadsheet.Cell.Range
import Spreadsheet.Sheet.Comparison

/-! Rules on what may be entered into cells.
-/

namespace Spreadsheet.Sheet

inductive ValidationKind where
  | list
  | whole
  | decimal
  | date
  | textLength
  | custom
deriving DecidableEq, Repr

def ValidationKind.name : ValidationKind → String
  | .list => "list"
  | .whole => "whole"
  | .decimal => "decimal"
  | .date => "date"
  | .textLength => "textLength"
  | .custom => "custom"

structure Validation where
  kind : ValidationKind
  comparison : Comparison := .between
  first : Option String := none
  second : Option String := none
  ranges : List Cell.Range := []
  allowBlank : Bool := false
  showInput : Bool := false
  promptTitle : Option String := none
  prompt : Option String := none
  showError : Bool := false
  errorTitle : Option String := none
  error : Option String := none
deriving DecidableEq, Repr

namespace Validation

/-- Lists and formulas of one's own compare nothing. -/
def usesComparison (v : Validation) : Bool :=
  match v.kind with
  | .list | .custom => false
  | _ => true

def shiftRows (start count : Nat) (v : Validation) : Validation :=
  { v with ranges := v.ranges.map (·.shiftRows start count) }

end Validation

end Spreadsheet.Sheet
