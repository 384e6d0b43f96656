import Spreadsheet.Package.CellStyles
import Spreadsheet.Package.PropertiesReader
import Spreadsheet.Package.SharedStrings
import Spreadsheet.Package.SheetReader

/-! Workbooks from packages. What files hold besides is passed over.
-/

namespace Spreadsheet

namespace Package

/-- The name of a sheet and the id of the relationship that leads to it. -/
structure SheetEntry where
  name : String
  relationship : String
deriving DecidableEq, Repr

/-- An entry of a workbook's list of sheets. -/
def addSheetEntry (entries : List SheetEntry) (tag : Xml.Tag) : List SheetEntry :=
  if tag.name = "sheet" then
    match tag.attribute? "name", tag.attribute? "r:id" with
    | some name, some id => entries ++ [⟨name, id⟩]
    | _, _ => entries
  else entries

/-- Applies a step to all tags that start or are an element. -/
def onTags (step : σ → Xml.Tag → σ) (s : σ) : Xml.Event → Except ReadError σ
  | .start tag | .empty tag => .ok (step s tag)
  | .close _ | .text _ => .ok s

/-- The sheets of a workbook in their order. -/
def readSheetEntries (p : Package) : Except ReadError (List SheetEntry) :=
  foldPart p "xl/workbook.xml" (onTags addSheetEntry) []

/-- The part that a target names, from the root or from the place of the workbook. -/
def targetPart (target : String) : String :=
  match target.toList with
  | '/' :: path => String.ofList path
  | _ => "xl/" ++ target

/-- A relationship that leads to a sheet: its id and the part. -/
def addSheetPath (paths : List (String × String)) (tag : Xml.Tag) : List (String × String) :=
  if tag.name = "Relationship" &&
      (tag.attribute? "Type").any (fun t => "/worksheet".toList.isSuffixOf t.toList) then
    match tag.attribute? "Id", tag.attribute? "Target" with
    | some id, some target => (id, targetPart target) :: paths
    | _, _ => paths
  else paths

/-- The parts of sheets by the ids of relationships, the last one of an id first. -/
def readSheetPaths (p : Package) : Except ReadError (List (String × String)) :=
  foldPart p "xl/_rels/workbook.xml.rels" (onTags addSheetPath) []

/-- Reads a sheet and adds it. Its name is checked before its part is looked at. -/
def addSheetOf (p : Package) (shared : Shared) (paths : List (String × String)) (w : Workbook)
    (entry : SheetEntry) : Except ReadError Workbook :=
  match paths.lookup entry.relationship with
  | none => .error (.missingSheet entry.relationship)
  | some path => do
    onModel (w.checkNewName entry.name)
    let sheet ← readSheet p shared path entry.name
    return { w with sheets := w.sheets ++ [sheet] }

/-- The workbook in a package. -/
def toWorkbook (p : Package) : Except ReadError Workbook := do
  if (p.part? "[Content_Types].xml").isNone then throw .noContentTypes
  let strings ← SharedStrings.ofPackage p
  let styles ← CellStyles.ofPackage p
  let entries ← readSheetEntries p
  let paths ← readSheetPaths p
  let w ← entries.foldlM (addSheetOf p ⟨strings, styles⟩ paths) {}
  let properties ← readProperties p
  return { w with properties }

end Package

end Spreadsheet
