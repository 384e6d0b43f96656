/-! Texts of formulas, without the equals sign in front. Arguments go in as they are.
-/

namespace Spreadsheet.Formula

/-- A function's name and its arguments. -/
def call (name : String) (arguments : List String) : String :=
  name ++ "(" ++ ",".intercalate arguments ++ ")"

/-- A text in double quotes, nothing inside it escaped. -/
def quoted (s : String) : String := "\"" ++ s ++ "\""

def sum (range : String) : String := call "SUM" [range]

def average (range : String) : String := call "AVERAGE" [range]

def count (range : String) : String := call "COUNT" [range]

def countIf (range criteria : String) : String := call "COUNTIF" [range, quoted criteria]

def sumIf (range criteria : String) (summed : Option String) : String :=
  call "SUMIF" ([range, quoted criteria] ++ summed.toList)

/-- An exact match means that the range need not be sorted. -/
def lookup (value table : String) (column : Nat) (exactMatch : Bool) : String :=
  call "VLOOKUP" [value, table, Nat.repr column, if exactMatch then "FALSE" else "TRUE"]

/-- Both results are texts. -/
def choose (condition whenTrue whenFalse : String) : String :=
  call "IF" [condition, quoted whenTrue, quoted whenFalse]

def concat (values : List String) : String := call "CONCATENATE" values

end Spreadsheet.Formula
