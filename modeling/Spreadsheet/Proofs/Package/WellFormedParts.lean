import Spreadsheet.Proofs.Package.SheetTags
import Spreadsheet.Proofs.Package.StyleTags
import Spreadsheet.Proofs.Package.WrittenParts
import Spreadsheet.Proofs.Package.WrittenTags
import Spreadsheet.Proofs.Xml.WellFormedness

/-! The documents of a written package are well-formed, whatever the texts in the workbook are.
Pictures are the only other parts, and their names tell them apart.
-/

namespace Spreadsheet.Package

open Spreadsheet.Sheet Spreadsheet.Xml

/-- The part holds a well-formed document, and nothing but characters that documents hold. -/
def Part.IsWellFormed (part : Part) : Prop :=
  ∃ text : String, part.content = .text text ∧ IsDocument text.toList
    ∧ ∀ c ∈ text.toList, IsDocumentChar c

/-- All parts that are documents by their names are well-formed. -/
def IsWellFormed (p : Package) : Prop :=
  ∀ part ∈ p, extension part.name ∈ ["xml", "rels"] → part.IsWellFormed

/-- A part whose root has named tags with distinct attributes is well-formed. -/
theorem isWellFormed_ofRoot (path : String) {name : String} {attributes : List (String × String)}
    {content : List Node} (formed : (Node.element name attributes content).EachTag IsTag)
    : (Part.ofRoot path (.element name attributes content)).IsWellFormed :=
  have whole := isDocument_document formed
  ⟨_, rfl, whole, whole.legal⟩

variable {now : Time.DateTime} {w : Workbook} {part : Part}

theorem isWellFormed_of_mem_workbookParts {t : StyleTable} (member : part ∈ workbookParts now w t)
    : part.IsWellFormed := by
  simp only [workbookParts, List.mem_cons, List.not_mem_nil, or_false] at member
  rcases member with rfl | rfl | rfl | rfl | rfl | rfl | rfl
  · exact isWellFormed_ofRoot _ (contentTypesNode_eachTag w)
  · exact isWellFormed_ofRoot _ (relationshipsNode_eachTag _)
  · exact isWellFormed_ofRoot _ (coreNode_eachTag now w.properties)
  · exact isWellFormed_ofRoot _ (appNode_eachTag w)
  · exact isWellFormed_ofRoot _ (workbookNode_eachTag w)
  · exact isWellFormed_ofRoot _ (relationshipsNode_eachTag _)
  · exact isWellFormed_ofRoot _ (styleSheetNode_eachTag t)

/-- Every part that is not a picture is well-formed. -/
theorem isWellFormed_of_isPart (isPart : IsPart now w part)
    (noPicture : ∀ numbers entry, part ≠ picturePart numbers entry)
    : part.IsWellFormed := by
  cases isPart with
  | fixed member => exact isWellFormed_of_mem_workbookParts member
  | sheet planned =>
      exact isWellFormed_ofRoot _ (sheetNode_eachTag _ _ _)
  | sheetLinks planned => exact isWellFormed_ofRoot _ (relationshipsNode_eachTag _)
  | drawing planned => exact isWellFormed_ofRoot _ (drawingNode_eachTag _)
  | drawingLinks planned => exact isWellFormed_ofRoot _ (relationshipsNode_eachTag _)
  | picture planned entry member => exact absurd rfl (noPicture _ entry)

/-- Whatever the texts in a workbook are, each part of its package whose name ends in "xml" or
"rels" holds a well-formed document.
-/
theorem ofWorkbook_isWellFormed (now : Time.DateTime) (w : Workbook)
    : (ofWorkbook now w).IsWellFormed := by
  intro part member named
  refine isWellFormed_of_isPart (mem_ofWorkbook_iff.mp member) ?_
  rintro numbers entry rfl
  have picture : extension (picturePart numbers entry).name = entry.1.format.extension :=
    extension_picturePath _ _
  rw [picture] at named
  revert named
  cases entry.1.format <;> decide

end Spreadsheet.Package
