import Spreadsheet.Package.Part
import Spreadsheet.Time.Text
import Spreadsheet.Workbook.Basic

/-! The documents of a workbook's properties.
-/

namespace Spreadsheet.Package

open Spreadsheet.Xml

/-- Keywords stand in one text with commas between them. -/
def keywordsText (keywords : List String) : Option String :=
  if keywords.isEmpty then none else some (", ".intercalate keywords)

/-- A moment as files give it, to the second. -/
def stampText (t : Time.DateTime) : String := t.toSecondText ++ "Z"

/-- A moment under a name. -/
def stampNode (name : String) (t : Time.DateTime) : Node :=
  .element name [("xsi:type", "dcterms:W3CDTF")] [.text (stampText t)]

/-- The properties that all kinds of documents have. A workbook that does not say when it was
made or changed was so at the moment of writing. -/
def coreNode (now : Time.DateTime) (p : Properties) : Node :=
  let part (name : String) (text : Option String) := (text.map (Node.textual name)).toList
  .block step 0 "cp:coreProperties"
    [("xmlns:cp", "http://schemas.openxmlformats.org/package/2006/metadata/core-properties"),
      ("xmlns:dc", "http://purl.org/dc/elements/1.1/"),
      ("xmlns:dcterms", "http://purl.org/dc/terms/"),
      ("xmlns:dcmitype", "http://purl.org/dc/dcmitype/"),
      ("xmlns:xsi", "http://www.w3.org/2001/XMLSchema-instance")]
    (part "dc:title" p.title ++ part "dc:subject" p.subject ++ part "dc:creator" p.creator ++
      part "dc:description" p.description ++ part "cp:category" p.category ++
      part "cp:keywords" (keywordsText p.keywords) ++ part "cp:lastModifiedBy" p.creator ++
      [stampNode "dcterms:created" (p.created.getD now),
        stampNode "dcterms:modified" (p.modified.getD now)])

/-- The name of the program that writes the files. -/
def application : String := "sheetforge"

/-- The properties that spreadsheets have besides. -/
def appNode (w : Workbook) : Node :=
  .block step 0 "Properties"
    [("xmlns", "http://schemas.openxmlformats.org/officeDocument/2006/extended-properties"),
      ("xmlns:vt", "http://schemas.openxmlformats.org/officeDocument/2006/docPropsVTypes")]
    ([.textual "Application" application] ++
      (w.properties.company.map (Node.textual "Company")).toList ++
      [.element "TitlesOfParts" []
        [.element "vt:vector"
          [("size", Nat.repr w.sheets.length), ("baseType", "lpstr")]
          (w.sheets.map fun s => .textual "vt:lpstr" s.name)]])

end Spreadsheet.Package
