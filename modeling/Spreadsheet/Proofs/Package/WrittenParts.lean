import Spreadsheet.Proofs.Package.PartNames

/-! The parts of a written package: in which folders they are, what they are, and that each is
found by its name.
-/

namespace Spreadsheet.Package

open Spreadsheet.Sheet Spreadsheet.Xml

-----------------------------------------------------------------------------------------
-- Names in folders
-----------------------------------------------------------------------------------------

/-- A step that leads down and ends there. -/
structure IsFile (file : String) : Prop where
  start : file.toList.headD '.' ≠ '.'
  noSlash : '/' ∉ file.toList

theorem IsFile.append {file back : String} (isFile : IsFile file) (noSlash : '/' ∉ back.toList)
    : IsFile (file ++ back) := by
  obtain ⟨start, noSlash'⟩ := isFile
  constructor
  · cases signs : file.toList with
    | nil => exact absurd (congrArg (·.headD '.') signs) start
    | cons c rest =>
        rw [signs] at start
        simpa [signs] using start
  · rw [String.toList_append]
    exact List.not_mem_append noSlash' noSlash

theorem noSlash_repr (number : Nat) : '/' ∉ (Nat.repr number).toList := by
  rw [Nat.toList_repr]
  exact fun member => absurd (Number.isDigit_of_mem_toDigits member) (by decide)

theorem isFile_sheetFile (number : Nat) : IsFile (sheetFile number) :=
  (IsFile.append ⟨by decide, by decide⟩ (noSlash_repr number)).append (by decide)

theorem isFile_drawingFile (number : Nat) : IsFile (drawingFile number) :=
  (IsFile.append ⟨by decide, by decide⟩ (noSlash_repr number)).append (by decide)

theorem isFile_pictureFile (number : Nat) (format : PictureFormat)
    : IsFile (pictureFile number format) :=
  ((IsFile.append ⟨by decide, by decide⟩ (noSlash_repr number)).append (by decide)).append
    (by cases format <;> decide)

/-- Names in a folder begin with its steps. -/
structure IsFront (front : String) (steps : List String) : Prop where
  some : steps ≠ []
  whole : joined steps ++ "/" = front
  noSlash : ∀ step ∈ steps, '/' ∉ step.toList

namespace IsFront

variable {front front' front'' file file' : String} {steps steps' : List String}

theorem noSlash_append (isFront : IsFront front steps) (isFile : IsFile file)
    : ∀ step ∈ steps ++ [file], '/' ∉ step.toList := by
  intro step member
  rcases List.mem_append.mp member with member | member
  · exact isFront.noSlash step member
  · exact List.mem_singleton.mp member ▸ isFile.noSlash

theorem append (isFront : IsFront front steps) (file : String)
    : front ++ file = joined (steps ++ [file]) := append_eq_joined isFront.some isFront.whole file

theorem folder (isFront : IsFront front steps) (isFile : IsFile file)
    : folder (front ++ file) = steps := by
  rw [isFront.append, folder_joined (isFront.noSlash_append isFile)]

/-- The relationships of a part are in a folder beside it. -/
theorem relationshipsName (isFront : IsFront front steps)
    (beside : IsFront front' (steps ++ ["_rels"])) (isFile : IsFile file)
    : relationshipsName (front ++ file) = front' ++ file ++ ".rels" := by
  rw [isFront.append, relationshipsName_joined (isFront.noSlash_append isFile),
    String.append_assoc, beside.append, List.append_assoc]
  rfl

/-- A target leads from its source to the file in another folder. -/
theorem resolve (isFront : IsFront front steps) (isFile : IsFile file)
    (target : IsFront front' steps') (isFile' : IsFile file')
    (reached : IsFront front'' (steps'.foldl enter steps))
    : resolve (front ++ file) (front' ++ file') = front'' ++ file' := by
  have entered (steps : List String) : enter steps file' = steps ++ [file'] := by
    rw [enter, if_neg, if_neg]
    · rintro rfl
      exact isFile'.start (by decide)
    · rintro rfl
      exact isFile'.start (by decide)
  rw [isFront.append, target.append, resolve_joined (isFront.noSlash_append isFile) (by simp)
    (target.noSlash_append isFile'), List.foldl_append, reached.append]
  exact congrArg joined (entered _)

end IsFront

theorem isFront_sheets : IsFront "xl/worksheets/" ["xl", "worksheets"] :=
  ⟨by decide, by decide, by decide⟩

theorem isFront_drawings : IsFront "xl/drawings/" ["xl", "drawings"] :=
  ⟨by decide, by decide, by decide⟩

/-- The name of the part of the drawing with a number. -/
def drawingPath (number : Nat) : String := "xl/drawings/" ++ drawingFile number

theorem drawingPath_injective {m n : Nat} (same : drawingPath m = drawingPath n) : m = n := by
  have texts := congrArg String.toList same
  simp only [drawingPath, drawingFile, String.toList_append, List.append_cancel_left_eq,
    List.append_cancel_right_eq, String.toList_inj] at texts
  exact Number.repr_injective texts

/-- The name of the part of the relationships of the sheet at a position. -/
def sheetLinksPath (index : Nat) : String :=
  "xl/worksheets/_rels/" ++ sheetFile (index + 1) ++ ".rels"

/-- The name of the part of the relationships of the drawing with a number. -/
def drawingLinksPath (number : Nat) : String :=
  "xl/drawings/_rels/" ++ drawingFile number ++ ".rels"

def picturePath (number : Nat) (format : PictureFormat) : String :=
  "xl/media/" ++ pictureFile number format

theorem isFront_sheetLinks : IsFront "xl/worksheets/_rels/" ["xl", "worksheets", "_rels"] :=
  ⟨by decide, by decide, by decide⟩

theorem isFront_drawingLinks : IsFront "xl/drawings/_rels/" ["xl", "drawings", "_rels"] :=
  ⟨by decide, by decide, by decide⟩

theorem isFront_pictures : IsFront "xl/media/" ["xl", "media"] :=
  ⟨by decide, by decide, by decide⟩

theorem folder_sheetPath (index : Nat) : folder (sheetPath index) = ["xl", "worksheets"] :=
  isFront_sheets.folder (isFile_sheetFile _)

theorem folder_drawingPath (number : Nat) : folder (drawingPath number) = ["xl", "drawings"] :=
  isFront_drawings.folder (isFile_drawingFile _)

theorem folder_sheetLinksPath (index : Nat)
    : folder (sheetLinksPath index) = ["xl", "worksheets", "_rels"] := by
  have whole : sheetLinksPath index
      = "xl/worksheets/_rels/" ++ (sheetFile (index + 1) ++ ".rels") := String.append_assoc
  exact whole ▸ isFront_sheetLinks.folder ((isFile_sheetFile (index + 1)).append (by decide))

theorem folder_drawingLinksPath (number : Nat)
    : folder (drawingLinksPath number) = ["xl", "drawings", "_rels"] := by
  have whole : drawingLinksPath number
      = "xl/drawings/_rels/" ++ (drawingFile number ++ ".rels") := String.append_assoc
  exact whole ▸ isFront_drawingLinks.folder ((isFile_drawingFile number).append (by decide))

theorem folder_picturePath (number : Nat) (format : PictureFormat)
    : folder (picturePath number format) = ["xl", "media"] :=
  isFront_pictures.folder (isFile_pictureFile _ _)

theorem relationshipsName_sheetPath (index : Nat)
    : relationshipsName (sheetPath index) = sheetLinksPath index :=
  isFront_sheets.relationshipsName isFront_sheetLinks (isFile_sheetFile _)

theorem relationshipsName_drawingPath (number : Nat)
    : relationshipsName (drawingPath number) = drawingLinksPath number :=
  isFront_drawings.relationshipsName isFront_drawingLinks (isFile_drawingFile _)

theorem resolve_sheetFile (index : Nat)
    : resolve "xl/workbook.xml" ("worksheets/" ++ sheetFile (index + 1)) = sheetPath index := by
  have source : "xl/workbook.xml" = "xl/" ++ "workbook.xml" := by decide
  have xl : IsFront "xl/" ["xl"] := ⟨by decide, by decide, by decide⟩
  have sheets : IsFront "worksheets/" ["worksheets"] := ⟨by decide, by decide, by decide⟩
  rw [source]
  exact xl.resolve ⟨by decide, by decide⟩ sheets (isFile_sheetFile _) isFront_sheets

theorem resolve_drawingFile (index number : Nat)
    : resolve (sheetPath index) ("../drawings/" ++ drawingFile number) = drawingPath number := by
  have drawings : IsFront "../drawings/" ["..", "drawings"] := ⟨by decide, by decide, by decide⟩
  exact isFront_sheets.resolve (isFile_sheetFile _) drawings (isFile_drawingFile _)
    isFront_drawings

theorem resolve_pictureFile (drawing number : Nat) (format : PictureFormat)
    : resolve (drawingPath drawing) ("../media/" ++ pictureFile number format)
      = picturePath number format := by
  have media : IsFront "../media/" ["..", "media"] := ⟨by decide, by decide, by decide⟩
  exact isFront_drawings.resolve (isFile_drawingFile _) media (isFile_pictureFile _ _)
    isFront_pictures

theorem extension_sheetPath (index : Nat) : extension (sheetPath index) = "xml" := by
  have whole : sheetPath index
      = "xl/worksheets/" ++ ("sheet" ++ Nat.repr (index + 1)) ++ "." ++ "xml" := by
    have point : ".xml" = "." ++ "xml" := by decide
    simp only [sheetPath, sheetFile, point, String.append_assoc]
  rw [whole, extension_append _ (by decide)]

theorem extension_drawingPath (number : Nat) : extension (drawingPath number) = "xml" := by
  have whole : drawingPath number
      = "xl/drawings/" ++ ("drawing" ++ Nat.repr number) ++ "." ++ "xml" := by
    have point : ".xml" = "." ++ "xml" := by decide
    simp only [drawingPath, drawingFile, point, String.append_assoc]
  rw [whole, extension_append _ (by decide)]

theorem extension_rels (front : String) : extension (front ++ ".rels") = "rels" := by
  have point : ".rels" = "." ++ "rels" := by decide
  rw [point, ← String.append_assoc, extension_append _ (by decide)]

theorem extension_picturePath (number : Nat) (format : PictureFormat)
    : extension (picturePath number format) = format.extension := by
  have whole : picturePath number format
      = "xl/media/" ++ ("image" ++ Nat.repr number) ++ "." ++ format.extension := by
    simp only [picturePath, pictureFile, String.append_assoc]
  rw [whole, extension_append _ (by cases format <;> decide)]

-----------------------------------------------------------------------------------------
-- Parts
-----------------------------------------------------------------------------------------

/-- The part of the sheet at a position. -/
def sheetPart (w : Workbook) (entry : Sheet × Nat) : Part :=
  .ofRoot (sheetPath entry.2) (sheetNode (StyleTable.ofWorkbook w) entry.2 entry.1)

/-- The part of the relationships of the sheet at a position. -/
def sheetLinksPart (index : Nat) (numbers : DrawingNumbers) : Part :=
  .ofRoot (sheetLinksPath index) (relationshipsNode (sheetRelationships numbers.drawing))

def drawingPart (s : Sheet) (numbers : DrawingNumbers) : Part :=
  .ofRoot (drawingPath numbers.drawing) (drawingNode s.pictures)

def drawingLinksPart (s : Sheet) (numbers : DrawingNumbers) : Part :=
  .ofRoot (drawingLinksPath numbers.drawing)
    (relationshipsNode (drawingRelationships (numberedPictures numbers.firstPicture s.pictures)))

def picturePart (numbers : DrawingNumbers) (entry : Picture × Nat) : Part :=
  ⟨picturePath (numbers.firstPicture + entry.2) entry.1.format, .binary entry.1.data⟩

/-- A sheet of the workbook with its position and the numbers that are planned for it. -/
structure Planned (w : Workbook) (index : Nat) (s : Sheet) (plan : Option DrawingNumbers) : Prop
    where
  sheet : w.sheets[index]? = some s
  plan : (drawingPlan w)[index]? = some plan

/-- What the parts of a written package are. -/
inductive IsPart (now : Time.DateTime) (w : Workbook) : Part → Prop where
  | fixed (member : part ∈ workbookParts now w (StyleTable.ofWorkbook w)) : IsPart now w part
  | sheet (planned : Planned w i s plan) : IsPart now w (sheetPart w (s, i))
  | sheetLinks (planned : Planned w i s (some n)) : IsPart now w (sheetLinksPart i n)
  | drawing (planned : Planned w i s (some n)) : IsPart now w (drawingPart s n)
  | drawingLinks (planned : Planned w i s (some n)) : IsPart now w (drawingLinksPart s n)
  | picture (planned : Planned w i s (some n)) (entry : Picture × Nat)
    (member : entry ∈ s.pictures.zipIdx)
    : IsPart now w (picturePart n entry)

variable {now : Time.DateTime} {w : Workbook} {part : Part}

theorem mem_ofWorkbook_iff : part ∈ ofWorkbook now w ↔ IsPart now w part := by
  have entries {entry : (Sheet × Option DrawingNumbers) × Nat}
      : entry ∈ (w.sheets.zip (drawingPlan w)).zipIdx
        ↔ Planned w entry.2 entry.1.1 entry.1.2 := by
    rw [List.mem_zipIdx_iff_getElem?, List.getElem?_zip_eq_some]
    exact ⟨fun found => ⟨found.1, found.2⟩, fun planned => ⟨planned.sheet, planned.plan⟩⟩
  have pictures (n : DrawingNumbers) (s : Sheet)
      : ((numberedPictures n.firstPicture s.pictures).map fun entry =>
          (⟨"xl/media/" ++ pictureFile entry.1 entry.2.format, .binary entry.2.data⟩ : Part))
        = s.pictures.zipIdx.map (picturePart n) := by
    rw [numberedPictures, List.map_map]
    rfl
  rw [ofWorkbook_eq, List.mem_append, allSheetParts, List.mem_flatMap]
  constructor
  · rintro (member | ⟨⟨⟨s, plan⟩, i⟩, planned, member⟩)
    · exact .fixed member
    · replace planned := entries.mp planned
      rcases List.mem_cons.mp member with rfl | member
      · exact .sheet planned
      · cases plan with
        | none => cases member
        | some n =>
            simp only [Option.map_some, Option.getD_some, drawingParts_eq, pictures,
              List.mem_append, List.mem_cons, List.not_mem_nil, or_false] at member
            rcases member with (rfl | rfl | rfl) | member
            · exact .sheetLinks planned
            · exact .drawing planned
            · exact .drawingLinks planned
            · obtain ⟨entry, inside, rfl⟩ := List.mem_map.mp member
              exact .picture planned entry inside
  · intro isPart
    cases isPart with
    | fixed member => exact .inl member
    | sheet planned => exact .inr ⟨((_, _), _), entries.mpr planned, List.mem_cons_self⟩
    | sheetLinks planned =>
        exact .inr ⟨((_, _), _), entries.mpr planned, List.mem_cons_of_mem _ List.mem_cons_self⟩
    | drawing planned =>
        exact .inr ⟨((_, _), _), entries.mpr planned,
          List.mem_cons_of_mem _ (List.mem_cons_of_mem _ List.mem_cons_self)⟩
    | drawingLinks planned =>
        exact .inr ⟨((_, _), _), entries.mpr planned, List.mem_cons_of_mem _
          (List.mem_cons_of_mem _ (List.mem_cons_of_mem _ List.mem_cons_self))⟩
    | picture planned entry member =>
        refine .inr ⟨((_, _), _), entries.mpr planned, List.mem_cons_of_mem _ ?_⟩
        refine List.mem_append_right _ ?_
        rw [pictures]
        exact List.mem_map_of_mem member

/-- Each part of a written package is found by its name. -/
theorem part?_of_isPart (isPart : IsPart now w part)
    : (ofWorkbook now w).part? part.name = some part :=
  part?_of_nodup (nodup_names now w) (mem_ofWorkbook_iff.mpr isPart)

/-- Documents that every package has. -/
theorem part?_ofRoot {name : String} {root : Node}
    (member : Part.ofRoot name root ∈ workbookParts now w (StyleTable.ofWorkbook w))
    : (ofWorkbook now w).part? name = some (.ofRoot name root) := part?_of_isPart (.fixed member)

theorem part?_contentTypes (now : Time.DateTime) (w : Workbook)
    : (ofWorkbook now w).part? "[Content_Types].xml"
      = some (.ofRoot "[Content_Types].xml" (contentTypesNode w)) :=
  part?_ofRoot (by simp [workbookParts])

theorem part?_workbook (now : Time.DateTime) (w : Workbook)
    : (ofWorkbook now w).part? "xl/workbook.xml"
      = some (.ofRoot "xl/workbook.xml" (workbookNode w)) :=
  part?_ofRoot (by simp [workbookParts])

theorem part?_workbookLinks (now : Time.DateTime) (w : Workbook)
    : (ofWorkbook now w).part? "xl/_rels/workbook.xml.rels"
      = some (.ofRoot "xl/_rels/workbook.xml.rels"
          (relationshipsNode (workbookRelationships w))) :=
  part?_ofRoot (by simp [workbookParts])

theorem part?_styles (now : Time.DateTime) (w : Workbook)
    : (ofWorkbook now w).part? "xl/styles.xml"
      = some (.ofRoot "xl/styles.xml" (styleSheetNode (StyleTable.ofWorkbook w))) :=
  part?_ofRoot (by simp [workbookParts])

theorem part?_core (now : Time.DateTime) (w : Workbook)
    : (ofWorkbook now w).part? "docProps/core.xml"
      = some (.ofRoot "docProps/core.xml" (coreNode now w.properties)) :=
  part?_ofRoot (by simp [workbookParts])

theorem part?_app (now : Time.DateTime) (w : Workbook)
    : (ofWorkbook now w).part? "docProps/app.xml"
      = some (.ofRoot "docProps/app.xml" (appNode w)) :=
  part?_ofRoot (by simp [workbookParts])

theorem name_mem (isPart : IsPart now w part) : part.name ∈ (ofWorkbook now w).map (·.name) :=
  List.mem_map_of_mem (mem_ofWorkbook_iff.mpr isPart)

/-- Each sheet has a place in the plan. -/
theorem exists_planned {index : Nat} {s : Sheet} (found : w.sheets[index]? = some s)
    : ∃ plan, Planned w index s plan := by
  have inside : index < (drawingPlan w).length := by
    rw [drawingPlan, length_planDrawings]
    exact (List.getElem?_eq_some_iff.mp found).1
  exact ⟨_, found, List.getElem?_eq_getElem inside⟩

/-- The document of each sheet is found. -/
theorem part?_sheet {index : Nat} {s : Sheet} (found : w.sheets[index]? = some s)
    : (ofWorkbook now w).part? (sheetPath index)
      = some (.ofRoot (sheetPath index) (sheetNode (StyleTable.ofWorkbook w) index s)) := by
  obtain ⟨plan, planned⟩ := exists_planned found
  exact part?_of_isPart (.sheet planned)

/-- Each place in the plan is that of a sheet. -/
theorem exists_planned_of_mem {plan : Option DrawingNumbers} (member : plan ∈ drawingPlan w)
    : ∃ index s, Planned w index s plan := by
  obtain ⟨index, inside, found⟩ := List.getElem_of_mem member
  rw [drawingPlan, length_planDrawings] at inside
  exact ⟨index, _, List.getElem?_eq_getElem inside, List.getElem?_eq_some_iff.mpr ⟨_, found⟩⟩

/-- Sheets have numbers if they have pictures, by induction on the sheets. -/
theorem isSome_planDrawings {drawing picture index : Nat} {sheets : List Sheet} {s : Sheet}
    {plan : Option DrawingNumbers} (found : sheets[index]? = some s)
    (planned : (planDrawings drawing picture sheets)[index]? = some plan)
    : plan.isSome = !s.pictures.isEmpty := by
  induction sheets generalizing drawing picture index with
  | nil => cases found
  | cons first rest ih =>
      rw [planDrawings] at planned
      cases index with
      | zero =>
          cases found
          split at planned
          · next none =>
              cases planned
              rw [none]
              rfl
          · next some =>
              cases planned
              simp [some]
      | succ index =>
          split at planned
          · exact ih found planned
          · exact ih found planned

theorem Planned.isSome {index : Nat} {s : Sheet} {plan : Option DrawingNumbers}
    (planned : Planned w index s plan)
    : plan.isSome = !s.pictures.isEmpty := isSome_planDrawings planned.sheet planned.plan

-----------------------------------------------------------------------------------------
-- Writing
-----------------------------------------------------------------------------------------

/-- A workbook is written if all row numbers fit in their words. -/
theorem write_eq_ok {now : Time.DateTime} {p : Package}
    : write now w = .ok p ↔ (∀ s ∈ w.sheets, s.IsNumbered) ∧ p = ofWorkbook now w := by
  rw [write]
  split
  · next numbered => rw [Except.ok.injEq, and_iff_right numbered, eq_comm]
  · next long => exact ⟨nofun, fun h => absurd h.1 long⟩

end Spreadsheet.Package
