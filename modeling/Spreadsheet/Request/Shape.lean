import Spreadsheet.Json.Value

/-! Shapes of JSON values, and the list of all places where a value departs from a shape.
A value of the wrong kind is one departure and nothing inside it is looked at; an absent
member that a shape requires is one; members that a shape does not name are passed over.
-/

namespace Spreadsheet.Request

open Spreadsheet.Json

/-- The kinds of values as messages call them. -/
def kindName : Value → String
  | .null => "null"
  | .bool _ => "boolean"
  | .int _ => "number"
  | .float _ => "number"
  | .string _ => "string"
  | .array _ => "array"
  | .object _ => "object"

/-- One step from a value to one inside it. -/
inductive Step where
  | member (name : String)
  | item (index : Nat)
deriving DecidableEq, Repr

def Step.text : Step → String
  | .member name => name
  | .item index => Nat.repr index

/-- The way from the whole value to one inside it. -/
abbrev Path := List Step

/-- The steps with points between them. -/
def Path.text (path : Path) : String := ".".intercalate (path.map Step.text)

/-- What is wrong at a place; the last kind of fault is stated in words of its own. -/
inductive Fault where
  | kind (expected got : String)
  | required
  | unknownName (allowed : List String) (got : String)
  | notAnInteger (least : Nat)
  | stated (message : String)
deriving DecidableEq, Repr

def Fault.message : Fault → String
  | .kind expected got => "expected " ++ expected ++ ", got " ++ got
  | .required => "required"
  | .unknownName allowed got =>
    "expected one of " ++ " | ".intercalate (allowed.map fun a => "'" ++ a ++ "'") ++
      ", got '" ++ got ++ "'"
  | .notAnInteger least => "expected an integer >= " ++ Nat.repr least
  | .stated message => message

structure Issue where
  path : Path
  fault : Fault
deriving DecidableEq, Repr

/-- The path and the fault; nothing stands before a fault of the whole value. -/
def Issue.text (i : Issue) : String :=
  let path := i.path.text
  if path.isEmpty then i.fault.message else path ++ ": " ++ i.fault.message

inductive Shape where
  | any
  | string
  | number
  | boolean
  | textOrNumber
  | integer (least : Nat)
  | oneOf (names : List String)
  | array (item : Shape)
  | someOf (item : Shape) (message : String)
  | members (value : Shape)
  | object (fields : List (String × Bool × Shape))

namespace Shape

/-- An object with any members. -/
def anyObject : Shape := .members .any

/-- Integers in requests are 32-bit words. -/
def integerLimit : Nat := Number.wordLimit 32

/-- One fault of kind. -/
def wrongKind (expected : String) (path : Path) (v : Value) : List Issue :=
  [⟨path, .kind expected (kindName v)⟩]

mutual

/-- All departures of a value from a shape, in the order of the shape. -/
def issues : Shape → Path → Value → List Issue
  | .any, _, _ => []
  | .string, path, v =>
    match v with
    | .string _ => []
    | v => wrongKind "string" path v
  | .number, path, v =>
    match v with
    | .int _ | .float _ => []
    | v => wrongKind "number" path v
  | .boolean, path, v =>
    match v with
    | .bool _ => []
    | v => wrongKind "boolean" path v
  | .textOrNumber, path, v =>
    match v with
    | .string _ | .int _ | .float _ => []
    | v => wrongKind "string or number" path v
  | .integer least, path, v =>
    match v with
    | .int i =>
      if (least : Int) ≤ i ∧ i < integerLimit then [] else [⟨path, .notAnInteger least⟩]
    | .float _ => [⟨path, .notAnInteger least⟩]
    | v => wrongKind "number" path v
  | .oneOf names, path, v =>
    match v with
    | .string s => if names.contains s then [] else [⟨path, .unknownName names s⟩]
    | v => wrongKind "string" path v
  | .array item, path, v =>
    match v with
    | .array items => items.zipIdx.flatMap fun (v, i) => issues item (path ++ [.item i]) v
    | v => wrongKind "array" path v
  | .someOf item message, path, v =>
    match v with
    | .array items =>
      (if items.isEmpty then [⟨path, .stated message⟩] else []) ++
        items.zipIdx.flatMap fun (v, i) => issues item (path ++ [.item i]) v
    | v => wrongKind "array" path v
  | .members value, path, v =>
    match v with
    | .object ms => ms.flatMap fun (name, v) => issues value (path ++ [.member name]) v
    | v => wrongKind "object" path v
  | .object fields, path, v =>
    match v with
    | .object ms => fieldIssues fields path ms
    | v => wrongKind "object" path v

/-- The departures of an object's members from the fields of a shape. -/
def fieldIssues : List (String × Bool × Shape) → Path → Members → List Issue
  | [], _, _ => []
  | (name, required, shape) :: fields, path, ms =>
    (match ms.get? name with
      | none => if required then [⟨path ++ [.member name], .required⟩] else []
      | some v => issues shape (path ++ [.member name]) v) ++
      fieldIssues fields path ms

end

end Shape

end Spreadsheet.Request
