import Spreadsheet.Xml.Text

/-! XML documents as trees, and their written form. Whatever the texts in a tree are, its
written form holds no markup but that of the tree itself.
-/

namespace Spreadsheet.Xml

/-- A piece of a document. Plain text shows quotes as they are; an element that has no content
is written as one tag if it is a leaf and as two if it is not. -/
inductive Node where
  | text (content : String)
  | plain (content : String)
  | leaf (name : String) (attributes : List (String × String))
  | element (name : String) (attributes : List (String × String)) (content : List Node)
deriving Repr, Inhabited

/-- The written form of attributes, with a blank before each of them. -/
def attributesText (attributes : List (String × String)) : String :=
  String.join (attributes.map fun (name, value) => " " ++ name ++ "=\"" ++ escape value ++ "\"")

mutual

/-- The written form of a piece of a document. -/
def Node.render : Node → String
  | .text content => escape content
  | .plain content => escapePlain content
  | .leaf name attributes => "<" ++ name ++ attributesText attributes ++ "/>"
  | .element name attributes content =>
    "<" ++ name ++ attributesText attributes ++ ">" ++ renderAll content ++ "</" ++ name ++ ">"

/-- The written form of pieces that follow each other. -/
def renderAll : List Node → String
  | [] => ""
  | node :: rest => node.render ++ renderAll rest

end

/-- A whole document: its declaration and its root. -/
def document (root : Node) : String :=
  "<?xml version=\"1.0\" encoding=\"UTF-8\" standalone=\"yes\"?>\n" ++ root.render

namespace Node

/-- A new line that starts with some blanks. -/
def newLine (blanks : Nat) : Node := .plain (String.ofList ('\n' :: List.replicate blanks ' '))

/-- An element with text in it. -/
def textual (name : String) (content : String) : Node := .element name [] [.text content]

/-- An element whose items stand on lines of their own. -/
def block (step depth : Nat) (name : String) (attributes : List (String × String))
    (items : List Node) : Node :=
  .element name attributes
    (items.flatMap (fun item => [newLine (step * (depth + 1)), item]) ++ [newLine (step * depth)])

end Node

/-- An attribute that is there only if it is wanted. -/
def attributeIf (wanted : Bool) (name value : String) : List (String × String) :=
  if wanted then [(name, value)] else []

/-- An attribute that says that something is switched on. -/
def flag (name : String) (on : Bool) : List (String × String) := attributeIf on name "1"

/-- An attribute whose value may be missing. -/
def attribute? (name : String) (value : Option String) : List (String × String) :=
  (value.map (name, ·)).toList

end Spreadsheet.Xml
