import Spreadsheet.Package.DrawingPart
import Spreadsheet.Package.PropertiesPart
import Spreadsheet.Package.SheetPart
import Spreadsheet.Package.WorkbookPart

/-! Packages of workbooks. Sheets and drawings are numbered in the order of the sheets and
pictures through the whole workbook.
-/

namespace Spreadsheet

namespace Package

open Spreadsheet.Sheet Spreadsheet.Xml

def sheetFile (number : Nat) : String := "sheet" ++ Nat.repr number ++ ".xml"

def drawingFile (number : Nat) : String := "drawing" ++ Nat.repr number ++ ".xml"

def pictureFile (number : Nat) (format : PictureFormat) : String :=
  "image" ++ Nat.repr number ++ "." ++ format.extension

/-- The numbers of a sheet's drawing and of its first picture, if it has pictures. -/
structure DrawingNumbers where
  drawing : Nat
  firstPicture : Nat
deriving DecidableEq, Repr

/-- The numbers for each sheet, given the next ones to use. -/
def planDrawings (drawing picture : Nat) : List Sheet → List (Option DrawingNumbers)
  | [] => []
  | s :: sheets =>
    if s.pictures.isEmpty then none :: planDrawings drawing picture sheets
    else
      some ⟨drawing, picture⟩ ::
        planDrawings (drawing + 1) (picture + s.pictures.length) sheets

/-- The numbers for the sheets of a workbook. -/
def drawingPlan (w : Workbook) : List (Option DrawingNumbers) := planDrawings 1 1 w.sheets

/-- The content type of all files with an extension. -/
def defaultType (extension contentType : String) : Node :=
  .leaf "Default" [("Extension", extension), ("ContentType", contentType)]

/-- The content type of one part. -/
def partType (name contentType : String) : Node :=
  .leaf "Override" [("PartName", "/" ++ name), ("ContentType", contentType)]

/-- The formats of pictures, in the order of their extensions. -/
def pictureFormats : List PictureFormat := [.gif, .jpeg, .png]

/-- The formats of the pictures in a workbook. -/
def usedFormats (w : Workbook) : List PictureFormat :=
  pictureFormats.filter fun f => w.sheets.any fun s => s.pictures.any (·.format == f)

/-- What kind of content each part has. -/
def contentTypesNode (w : Workbook) : Node :=
  let ofPackages (name : String) := "application/vnd.openxmlformats-package." ++ name ++ "+xml"
  let ofDocuments (name : String) :=
    "application/vnd.openxmlformats-officedocument." ++ name ++ "+xml"
  .block step 0 "Types" [("xmlns", "http://schemas.openxmlformats.org/package/2006/content-types")]
    ([defaultType "rels" (ofPackages "relationships"), defaultType "xml" "application/xml"] ++
      (usedFormats w).map (fun f => defaultType f.extension f.contentType) ++
      [partType "xl/workbook.xml" (ofDocuments "spreadsheetml.sheet.main"),
        partType "xl/styles.xml" (ofDocuments "spreadsheetml.styles"),
        partType "docProps/core.xml" (ofPackages "core-properties"),
        partType "docProps/app.xml" (ofDocuments "extended-properties")] ++
      (List.range w.sheets.length).map (fun i =>
        partType ("xl/worksheets/" ++ sheetFile (i + 1)) (ofDocuments "spreadsheetml.worksheet")) ++
      (drawingPlan w).filterMap fun plan => plan.map fun numbers =>
        partType ("xl/drawings/" ++ drawingFile numbers.drawing) (ofDocuments "drawing"))

/-- Where reading a package starts. -/
def rootRelationships : List Relationship :=
  numberedRelationships
    [(.workbook, "xl/workbook.xml"), (.coreProperties, "docProps/core.xml"),
      (.appProperties, "docProps/app.xml")]

/-- The sheets of a workbook in their order, then its styles. -/
def workbookRelationships (w : Workbook) : List Relationship :=
  numberedRelationships
    ((List.range w.sheets.length).map (fun i => (.sheet, "worksheets/" ++ sheetFile (i + 1))) ++
      [(.styles, "styles.xml")])

/-- The drawing of a sheet. -/
def sheetRelationships (drawing : Nat) : List Relationship :=
  numberedRelationships [(.drawing, "../drawings/" ++ drawingFile drawing)]

/-- Pictures with their numbers. -/
def numberedPictures (first : Nat) (pictures : List Picture) : List (Nat × Picture) :=
  pictures.zipIdx.map fun (p, i) => (first + i, p)

/-- The pictures of a drawing. -/
def drawingRelationships (pictures : List (Nat × Picture)) : List Relationship :=
  numberedRelationships
    (pictures.map fun (number, p) => (.picture, "../media/" ++ pictureFile number p.format))

/-- The parts of a sheet's pictures. -/
def drawingParts (index : Nat) (s : Sheet) (numbers : DrawingNumbers) : List Part :=
  let pictures := numberedPictures numbers.firstPicture s.pictures
  [.ofRoot ("xl/worksheets/_rels/" ++ sheetFile (index + 1) ++ ".rels")
      (relationshipsNode (sheetRelationships numbers.drawing)),
    .ofRoot ("xl/drawings/" ++ drawingFile numbers.drawing) (drawingNode s.pictures),
    .ofRoot ("xl/drawings/_rels/" ++ drawingFile numbers.drawing ++ ".rels")
      (relationshipsNode (drawingRelationships pictures))] ++
    pictures.map fun (number, p) => ⟨"xl/media/" ++ pictureFile number p.format, .binary p.data⟩

/-- The parts of the sheet at a position. -/
def sheetParts (t : StyleTable) (index : Nat) (s : Sheet) (plan : Option DrawingNumbers)
    : List Part :=
  .ofRoot ("xl/worksheets/" ++ sheetFile (index + 1)) (sheetNode t index s) ::
    (plan.map (drawingParts index s)).getD []

/-- The parts that every workbook has, apart from its sheets. -/
def workbookParts (now : Time.DateTime) (w : Workbook) (t : StyleTable) : List Part :=
  [.ofRoot "[Content_Types].xml" (contentTypesNode w),
    .ofRoot "_rels/.rels" (relationshipsNode rootRelationships),
    .ofRoot "docProps/core.xml" (coreNode now w.properties),
    .ofRoot "docProps/app.xml" (appNode w),
    .ofRoot "xl/workbook.xml" (workbookNode w),
    .ofRoot "xl/_rels/workbook.xml.rels" (relationshipsNode (workbookRelationships w)),
    .ofRoot "xl/styles.xml" (styleSheetNode t)]

/-- The package of a workbook. Charts have no place in it. -/
def ofWorkbook (now : Time.DateTime) (w : Workbook) : Package :=
  let t := StyleTable.ofWorkbook w
  workbookParts now w t ++
    ((w.sheets.zip (drawingPlan w)).zipIdx.flatMap fun ((s, plan), i) => sheetParts t i s plan)

/-- Writes a workbook. A row number that does not fit in its word ends the program. -/
def write (now : Time.DateTime) (w : Workbook) : Except ModelError Package :=
  if ∀ s ∈ w.sheets, s.IsNumbered then .ok (ofWorkbook now w) else .error .overflow

/-- The names of the sheets whose charts are left out. -/
def sheetsWithCharts (w : Workbook) : List String :=
  (w.sheets.filter (!·.charts.isEmpty)).map (·.name)

end Package

end Spreadsheet
