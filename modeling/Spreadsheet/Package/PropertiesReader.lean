import Spreadsheet.Package.ReadError
import Spreadsheet.Time.Reader
import Spreadsheet.Workbook.Basic

/-! Properties from their documents.
-/

namespace Spreadsheet.Package

/-- Properties as far as they are read, and the name of the last tag if it was a start tag. -/
structure PropertiesReading where
  properties : Properties := {}
  element : Option String := none
deriving DecidableEq

namespace PropertiesReading

/-- The keywords between commas that are not blank. -/
def keywords (text : String) : List String :=
  ((Text.splitAtChar ',' text).map Text.trim).filter (!·.isEmpty)

/-- The moment that a text names. -/
def moment? (text : String) : Option Time.DateTime := Time.DateTime.ofTimestamp? (Text.trim text)

/-- Sets the property of an element; each text in it replaces the one before. -/
def set (p : Properties) (element text : String) : Properties :=
  match element with
  | "dc:title" => { p with title := some text }
  | "dc:subject" => { p with subject := some text }
  | "dc:creator" => { p with creator := some text }
  | "dc:description" => { p with description := some text }
  | "cp:category" => { p with category := some text }
  | "cp:keywords" => { p with keywords := keywords text }
  | "dcterms:created" => { p with created := moment? text }
  | "dcterms:modified" => { p with modified := moment? text }
  | _ => p

/-- Every text of the first document must be readable. -/
def coreStep (s : PropertiesReading) : Xml.Event → Except ReadError PropertiesReading
  | .start tag => .ok { s with element := some tag.name }
  | .close _ => .ok { s with element := none }
  | .text content => do
    let text ← known content
    match s.element with
    | some element => return { s with properties := set s.properties element text }
    | none => return s
  | .empty _ => .ok s

/-- Of the second document only the company is looked at. -/
def appStep (s : PropertiesReading) : Xml.Event → Except ReadError PropertiesReading
  | .start tag => .ok { s with element := some tag.name }
  | .close _ => .ok { s with element := none }
  | .text content =>
    if s.element = some "Company" then do
      let text ← known content
      return { s with properties := { s.properties with company := some text } }
    else .ok s
  | .empty _ => .ok s

end PropertiesReading

/-- The properties of a package; documents that are missing say nothing. -/
def readProperties (p : Package) : Except ReadError Properties := do
  let core ← foldPart? p "docProps/core.xml" PropertiesReading.coreStep {}
  let app ← foldPart? p "docProps/app.xml" PropertiesReading.appStep
    { properties := core.properties }
  return app.properties

end Spreadsheet.Package
