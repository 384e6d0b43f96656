import Spreadsheet.Package.Part
import Spreadsheet.Workbook.Basic

/-! The document that lists the sheets of a workbook.
-/

namespace Spreadsheet.Package

open Spreadsheet.Cell Spreadsheet.Xml

/-- An address that does not move when formulas are copied. -/
def absoluteText (a : Address) : String :=
  "$" ++ columnLetters a.column ++ "$" ++ Nat.repr a.rowNumber

/-- A range that does not move when formulas are copied. -/
def absoluteRangeText (r : Range) : String :=
  if r.isSingle then absoluteText r.topLeft
  else absoluteText r.topLeft ++ ":" ++ absoluteText r.bottomRight

/-- A sheet's name as it stands between apostrophes in formulas. -/
def quotedName (name : String) : String :=
  String.ofList (name.toList.flatMap fun c => if c = '\'' then ['\'', '\''] else [c])

/-- The entry of the sheet at a position. -/
def sheetEntry (index : Nat) (s : Sheet) : Node :=
  .leaf "sheet"
    [("name", s.name), ("sheetId", Nat.repr (index + 1)), ("r:id", relationshipId (index + 1))]

/-- The hidden name that a filter has besides. -/
def filterName (index : Nat) (s : Sheet) (filter : Range) : Node :=
  .element "definedName"
    [("name", "_xlnm._FilterDatabase"), ("localSheetId", Nat.repr index), ("hidden", "1")]
    [.plain "'", .text (quotedName s.name), .plain ("'!" ++ absoluteRangeText filter)]

/-- The names of all filters. -/
def filterNames (w : Workbook) : List Node :=
  w.sheets.zipIdx.filterMap fun (s, i) => s.filter.map (filterName i s)

/-- The document of a workbook. -/
def workbookNode (w : Workbook) : Node :=
  let names := filterNames w
  .block step 0 "workbook"
    [("xmlns", "http://schemas.openxmlformats.org/spreadsheetml/2006/main"),
      ("xmlns:r", "http://schemas.openxmlformats.org/officeDocument/2006/relationships")]
    ([.element "bookViews" [] [.leaf "workbookView" [("activeTab", "0")]],
        .block step 1 "sheets" [] (w.sheets.zipIdx.map fun (s, i) => sheetEntry i s)] ++
      if names.isEmpty then [] else [.block step 1 "definedNames" [] names])

end Spreadsheet.Package
