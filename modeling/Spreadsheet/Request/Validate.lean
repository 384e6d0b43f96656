import Spreadsheet.Request.Decode
import Spreadsheet.Request.Grammar

/-! Checking requests. A request is accepted if it has the shape of the grammar; all faults of
any other are reported together.
-/

namespace Spreadsheet

namespace Request

/-- Why a text or value is no request: it is no JSON, it has faults, or it could not be read
without having any. -/
inductive Rejection where
  | notJson
  | issues (list : List Issue)
  | unreadable
deriving DecidableEq, Repr

namespace Rejection

/-- One line for each fault. -/
def lines : Rejection → List String
  | .notJson => ["invalid JSON"]
  | .issues list => list.map Issue.text
  | .unreadable => ["unreadable request"]

def message (r : Rejection) : String :=
  "Schema validation failed: " ++ ", ".intercalate r.lines

end Rejection

/-- All faults of a value as a request, or as a draft of one. -/
def issues (draft : Bool) (v : Json.Value) : List Issue := (requestShape draft).issues [] v

/-- The request that a value stands for, if it has no faults. -/
def validate (v : Json.Value) : Except Rejection Request :=
  match issues false v with
  | [] =>
    match Request.decode v with
    | some r => .ok r
    | none => .error .unreadable
  | list => .error (.issues list)

/-- The messages of the faults of a draft, without their places. -/
def draftMessages (v : Json.Value) : List String := (issues true v).map (·.fault.message)

end Request

end Spreadsheet
