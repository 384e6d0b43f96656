import Spreadsheet.Package.ReadError

/-! Texts that cells call by number. Each may be in pieces.
-/

namespace Spreadsheet.Package

/-- The texts read so far, the pieces of the next one, and if a piece is being read. -/
structure SharedStrings where
  texts : Array String := #[]
  current : String := ""
  inPiece : Bool := false
deriving DecidableEq, Repr

namespace SharedStrings

def step (s : SharedStrings) : Xml.Event → Except ReadError SharedStrings
  | .start tag =>
    .ok <|
      match tag.name with
      | "si" => { s with current := "" }
      | "t" => { s with inPiece := true }
      | _ => s
  | .close name =>
    .ok <|
      match name with
      | "si" => { s with texts := s.texts.push s.current, current := "" }
      | "t" => { s with inPiece := false }
      | _ => s
  | .text content => do
    if s.inPiece then
      let text ← known content
      return { s with current := s.current ++ text }
    else return s
  | .empty _ => .ok s

/-- The texts of a package; a package without them has none. -/
def ofPackage (p : Package) : Except ReadError (Array String) := do
  let s ← foldPart? p "xl/sharedStrings.xml" step {}
  return s.texts

end SharedStrings

end Spreadsheet.Package
