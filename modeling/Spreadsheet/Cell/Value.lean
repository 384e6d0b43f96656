import Spreadsheet.Number.Layout
import Spreadsheet.Text.Blank

/-! The values that cells hold.
-/

namespace Spreadsheet.Cell

inductive Value where
  | empty
  | boolean (value : Bool)
  | number (value : Number.Binary64)
  | text (value : String)
  | formula (body : String)
deriving DecidableEq, Repr

namespace Value

instance : Inhabited Value := ⟨.empty⟩

/-- The body of a formula text: without white space around it and without one equals sign. -/
def formulaBody (s : String) : String :=
  match Text.trimChars s.toList with
  | '=' :: body => String.ofList body
  | body => String.ofList body

/-- The formula with the given text. -/
def ofFormula (s : String) : Value := .formula (formulaBody s)

def isEmpty : Value → Bool
  | .empty => true
  | _ => false

def isFormula : Value → Bool
  | .formula _ => true
  | _ => false

def number? : Value → Option Number.Binary64
  | .number x => some x
  | _ => none

def text? : Value → Option String
  | .text s => some s
  | _ => none

def formula? : Value → Option String
  | .formula body => some body
  | _ => none

/-- The name of the kind of value. -/
def kindName : Value → String
  | .empty => "empty"
  | .boolean _ => "boolean"
  | .number _ => "number"
  | .text _ => "string"
  | .formula _ => "formula"

/-- The text that a reader of the cell sees; a formula shows its text. -/
def display : Value → String
  | .empty => ""
  | .boolean b => if b then "TRUE" else "FALSE"
  | .number x => x.display
  | .text s => s
  | .formula body => "=" ++ body

end Value

end Spreadsheet.Cell
