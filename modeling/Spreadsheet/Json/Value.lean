import Spreadsheet.Number.Binary64

/-! JSON values. Whole numbers written without point and exponent stay exact integers from
`-2 ^ 63` to `2 ^ 64 - 1`; every other number is a binary one. Members of an object stand in
the order of their names.
-/

namespace Spreadsheet.Json

inductive Value where
  | null
  | bool (value : Bool)
  | int (value : Int)
  | float (value : Number.Binary64)
  | string (value : String)
  | array (items : List Value)
  | object (members : List (String × Value))
deriving BEq, Repr, Inhabited

/-- The members of an object. -/
abbrev Members := List (String × Value)

namespace Members

/-- The value of a member. -/
def get? (members : Members) (name : String) : Option Value :=
  (members.find? (·.1 == name)).map (·.2)

/-- Sets a member, keeping the order of names; a member of the same name is replaced. -/
def insert (name : String) (value : Value) : Members → Members
  | [] => [(name, value)]
  | (other, v) :: rest =>
    if name < other then (name, value) :: (other, v) :: rest
    else if name = other then (name, value) :: rest
    else (other, v) :: insert name value rest

/-- An object's members from a list in any order; the last one of a name counts. -/
def ofList (entries : List (String × Value)) : Members :=
  entries.foldl (fun members entry => insert entry.1 entry.2 members) []

end Members

namespace Value

/-- An object from its members in any order. -/
def ofMembers (entries : List (String × Value)) : Value := .object (Members.ofList entries)

/-- The member of an object; nothing for any other value. -/
def get? (name : String) : Value → Option Value
  | .object members => Members.get? members name
  | _ => none

/-- The text of a string. -/
def string? : Value → Option String
  | .string s => some s
  | _ => none

/-- The truth value of a Boolean. -/
def bool? : Value → Option Bool
  | .bool b => some b
  | _ => none

/-- The items of an array; no other value has any. -/
def items : Value → List Value
  | .array items => items
  | _ => []

/-- The number nearest to a numeric value. -/
def toBinary64? : Value → Option Number.Binary64
  | .int i => some (.ofInt i)
  | .float x => some x
  | _ => none

end Value

end Spreadsheet.Json
