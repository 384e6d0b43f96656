import Spreadsheet.Xml.Node
import Spreadsheet.Xml.Source

/-! Packages: lists of named parts. Most parts are documents; parts tell each other apart by
relationships, each with an id, a kind and the place of its target.
-/

namespace Spreadsheet

namespace Package

inductive Content where
  | text (content : String)
  | binary (data : List UInt8)
  /-- Data behind which reading fails. -/
  | torn (data : List UInt8)
deriving DecidableEq, Repr

/-- What the document of a part is read from. -/
def Content.source : Content → Xml.Source
  | .text s => .ofText s
  | .binary data => .ofBytes data
  | .torn data => { Xml.Source.ofBytes data with isTorn := true }

structure Part where
  name : String
  content : Content
deriving DecidableEq, Repr

namespace Part

/-- A part that holds a document. -/
def ofRoot (name : String) (root : Xml.Node) : Part := ⟨name, .text (Xml.document root)⟩

/-- The bytes of a part. -/
def bytes (p : Part) : List UInt8 :=
  match p.content with
  | .text s => s.toUTF8.toList
  | .binary data | .torn data => data

end Part

/-- What one part is to another. -/
inductive RelationshipKind where
  | workbook
  | coreProperties
  | appProperties
  | sheet
  | styles
  | drawing
  | picture
deriving DecidableEq, Repr

/-- The name of a kind of relationship in files. -/
def RelationshipKind.url : RelationshipKind → String
  | .workbook => office "officeDocument"
  | .coreProperties =>
    "http://schemas.openxmlformats.org/package/2006/relationships/metadata/core-properties"
  | .appProperties => office "extended-properties"
  | .sheet => office "worksheet"
  | .styles => office "styles"
  | .drawing => office "drawing"
  | .picture => office "image"
where
  office (name : String) : String :=
    "http://schemas.openxmlformats.org/officeDocument/2006/relationships/" ++ name

structure Relationship where
  id : String
  kind : RelationshipKind
  target : String
deriving DecidableEq, Repr

/-- The id of the relationship with a number, counted from one. -/
def relationshipId (number : Nat) : String := "rId" ++ Nat.repr number

namespace Relationship

def node (r : Relationship) : Xml.Node :=
  .leaf "Relationship" [("Id", r.id), ("Type", r.kind.url), ("Target", r.target)]

end Relationship

/-- Relationships of the given kinds and targets, numbered from one. -/
def numberedRelationships (targets : List (RelationshipKind × String)) : List Relationship :=
  targets.zipIdx.map fun (target, i) => ⟨relationshipId (i + 1), target.1, target.2⟩

/-- Documents of a package leave this many blanks at each level. -/
def step : Nat := 4

/-- A document that lists relationships. -/
def relationshipsNode (list : List Relationship) : Xml.Node :=
  .block step 0 "Relationships"
    [("xmlns", "http://schemas.openxmlformats.org/package/2006/relationships")]
    (list.map Relationship.node)

end Package

/-- Parts in the order in which they are kept; their names are distinct. -/
abbrev Package := List Package.Part

/-- The part of a name; of several the last one. -/
def Package.part? (p : Package) (name : String) : Option Package.Part :=
  (p.filter (·.name == name)).getLast?

end Spreadsheet
