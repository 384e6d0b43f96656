import Spreadsheet.Text.Blank
import Spreadsheet.Text.LowerCase

/-! The comparisons that rules and validations make.
-/

namespace Spreadsheet.Sheet

inductive Comparison where
  | between
  | notBetween
  | equal
  | notEqual
  | greaterThan
  | lessThan
  | greaterThanOrEqual
  | lessThanOrEqual
deriving DecidableEq, Repr

namespace Comparison

def all : List Comparison :=
  [.between, .notBetween, .equal, .notEqual, .greaterThan, .lessThan, .greaterThanOrEqual,
    .lessThanOrEqual]

/-- The name in files and requests. -/
def name : Comparison → String
  | .between => "between"
  | .notBetween => "notBetween"
  | .equal => "equal"
  | .notEqual => "notEqual"
  | .greaterThan => "greaterThan"
  | .lessThan => "lessThan"
  | .greaterThanOrEqual => "greaterThanOrEqual"
  | .lessThanOrEqual => "lessThanOrEqual"

/-- The comparison of a name, whatever the case of its letters, white space aside. -/
def ofName? (s : String) : Option Comparison :=
  all.find? fun c => Text.lowerAscii c.name == Text.lowerAscii (Text.trim s)

/-- The comparison takes two bounds. -/
def needsTwo : Comparison → Bool
  | .between | .notBetween => true
  | _ => false

end Comparison

end Spreadsheet.Sheet
