import Spreadsheet.Text.LowerCase

/-! Number formats: the general one, or a format code. Some codes have a number of their own
in files.
-/

namespace Spreadsheet.Style

inductive NumberFormat where
  | general
  | code (text : String)
deriving DecidableEq, Repr

namespace NumberFormat

instance : Inhabited NumberFormat := ⟨.general⟩

/-- The codes that have a number of their own. -/
def builtIns : List (Nat × String) :=
  [(1, "0"), (2, "0.00"), (3, "#,##0"), (4, "#,##0.00"), (9, "0%"), (10, "0.00%"),
    (14, "mm-dd-yy"), (49, "@")]

/-- The format of a code. No code and the word `general` in any case are the general format. -/
def ofCode (s : String) : NumberFormat :=
  if s.isEmpty || Text.lowerAscii s == "general" then .general else .code s

/-- The format with a number of its own. -/
def ofBuiltIn? (id : Nat) : Option NumberFormat :=
  if id = 0 then some .general
  else (builtIns.find? (·.1 == id)).map fun entry => .code entry.2

/-- The code as written. -/
def text : NumberFormat → String
  | .general => "General"
  | .code s => s

/-- The number of a format, if it has one of its own. -/
def builtIn? : NumberFormat → Option Nat
  | .general => some 0
  | .code s => (builtIns.find? (·.2 == s)).map (·.1)

def isGeneral : NumberFormat → Bool
  | .general => true
  | .code _ => false

end NumberFormat

end Spreadsheet.Style
