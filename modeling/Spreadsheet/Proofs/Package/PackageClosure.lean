import Spreadsheet.Proofs.Package.References

/-! Written packages are closed. All targets of relationships and all parts with a content type are
in the package, every part has one content type for its extension, and the ids in the list of
sheets, in sheets and in drawings lead to the parts of the sheets and to the data of the pictures.
-/

namespace Spreadsheet.Package

open Spreadsheet.Sheet Spreadsheet.Xml

-----------------------------------------------------------------------------------------
-- Closed packages
-----------------------------------------------------------------------------------------

/-- The tags of the list of content types. -/
def typeTags (p : Package) : List Tag := ((p.part? "[Content_Types].xml").map Part.tags).getD []

/-- The extensions that have a content type, once for each one they have. -/
def defaults (p : Package) : List (Option String) := valuesIn p.typeTags "Default" "Extension"

/-- The parts that have a content type of their own, with a slash in front of their names. -/
def overrides (p : Package) : List (Option String) := valuesIn p.typeTags "Override" "PartName"

/-- The part holds the relationships of a part or of the whole package: their ids are distinct and
their targets are there.
-/
def HoldsLinks (p : Package) (part : Part) : Prop :=
  ∃ source ∈ "" :: p.map (·.name), part.name = relationshipsName source
    ∧ (part.links.map (·.id)).Nodup
    ∧ ∀ link ∈ part.links, resolve source link.target ∈ p.map (·.name)

/-- Names in a package lead to its parts, and each part has one content type for its extension. -/
structure IsClosed (p : Package) : Prop where
  names : (p.map (·.name)).Nodup
  relationships : ∀ part ∈ p, extension part.name = "rels" → p.HoldsLinks part
  defaults : ∀ part ∈ p, p.defaults.count (some (extension part.name)) = 1
  overrides : p.overrides.Nodup
  overridden : ∀ name ∈ p.overrides, ∃ part ∈ p, name = some ("/" ++ part.name)

/-- The tags of a name in a part, and only they, have ids in an attribute; through relationships
of the kind these lead to the targets in their order.
-/
def LeadsTo (p : Package) (part : Part) (name key : String) (kind : RelationshipKind)
    (targets : List Part) : Prop :=
  ∃ ids, Refers name key part.tags ids ∧ ids.map (p.follow? part.name kind) = targets.map some

/-- A sheet without pictures has no drawing. Any other has one, which leads to their data. -/
def ShowsPictures (p : Package) (sheet : Part) (pictures : List Picture) : Prop :=
  if pictures.isEmpty then p.LeadsTo sheet "drawing" "r:id" .drawing []
  else ∃ drawing images, folder drawing.name = ["xl", "drawings"]
    ∧ p.LeadsTo sheet "drawing" "r:id" .drawing [drawing]
    ∧ p.LeadsTo drawing "a:blip" "r:embed" .picture images
    ∧ images.map Part.bytes = pictures.map (·.data)

/-- The package holds a workbook: its ids lead to the sheets in their order and from these to their
pictures, and all these parts have content types of their own.
-/
structure Presents (p : Package) (w : Workbook) : Prop where
  fixed : ∀ name ∈ ["xl/workbook.xml", "xl/styles.xml", "docProps/core.xml", "docProps/app.xml"],
    name ∈ p.map (·.name) ∧ some ("/" ++ name) ∈ p.overrides
  typed : ∀ part ∈ p, folder part.name ∈ [["xl", "worksheets"], ["xl", "drawings"]] →
    some ("/" ++ part.name) ∈ p.overrides
  sheets : ∃ workbook, p.part? "xl/workbook.xml" = some workbook
    ∧ p.LeadsTo workbook "sheet" "r:id" .sheet (w.sheets.zipIdx.map (sheetPart w))
  pictures : ∀ entry ∈ w.sheets.zipIdx, p.ShowsPictures (sheetPart w entry) entry.1.pictures

-----------------------------------------------------------------------------------------
-- Content types
-----------------------------------------------------------------------------------------

variable {now : Time.DateTime} {w : Workbook} {part : Part}

theorem extension_injective : Function.Injective PictureFormat.extension := by
  intro format format' same
  cases format <;> cases format' <;> first | rfl | exact absurd same (by decide)

theorem nodup_typedExtensions (w : Workbook) : (typedExtensions w).Nodup := by
  refine List.nodup_append.mpr ⟨by decide, ?_, ?_⟩
  · have formats : pictureFormats.Nodup := by decide
    exact (formats.filter _).map extension_injective
  · intro fixed known _ member
    obtain ⟨format, -, rfl⟩ := List.mem_map.mp member
    rintro rfl
    revert known
    cases format <;> decide

/-- Drawings are numbered upwards, by induction on the sheets. -/
theorem nodup_drawings (drawing picture : Nat) (sheets : List Sheet)
    : (((planDrawings drawing picture sheets).filterMap id).map (·.drawing)).Nodup := by
  induction sheets generalizing drawing picture with
  | nil => exact .nil
  | cons s rest ih =>
      rw [planDrawings]
      split
      · exact ih _ _
      · refine List.nodup_cons.mpr ⟨fun member => ?_, ih _ _⟩
        obtain ⟨n, inside, same⟩ := List.mem_map.mp member
        obtain ⟨plan, inside, rfl⟩ := List.mem_filterMap.mp inside
        have later := (le_of_mem_planDrawings inside).1
        change n.drawing = drawing at same
        omega

theorem nodup_typedParts (w : Workbook) : (typedParts w).Nodup := by
  have sheets : ((List.range w.sheets.length).map sheetPath).Nodup :=
    List.nodup_range.map fun _ _ => sheetPath_injective
  have drawings : (((drawingPlan w).filterMap id).map fun n => drawingPath n.drawing).Nodup := by
    have numbers := (nodup_drawings 1 1 w.sheets).map fun _ _ => drawingPath_injective
    rw [List.map_map] at numbers
    exact numbers
  refine List.nodup_append.mpr ⟨by decide, List.nodup_append.mpr ⟨sheets, drawings, ?_⟩, ?_⟩
  · intro name sheet _ drawing
    obtain ⟨i, -, rfl⟩ := List.mem_map.mp sheet
    obtain ⟨n, -, rfl⟩ := List.mem_map.mp drawing
    intro same
    have folders := congrArg folder same
    rw [folder_sheetPath, folder_drawingPath] at folders
    exact absurd folders (by decide)
  · intro name fixed other member
    have outside : folder name ≠ ["xl", "worksheets"] ∧ folder name ≠ ["xl", "drawings"] := by
      simp only [List.mem_cons, List.not_mem_nil, or_false] at fixed
      rcases fixed with rfl | rfl | rfl | rfl <;> decide
    rintro rfl
    rcases List.mem_append.mp member with member | member
    · obtain ⟨i, -, rfl⟩ := List.mem_map.mp member
      exact outside.1 (folder_sheetPath i)
    · obtain ⟨n, -, rfl⟩ := List.mem_map.mp member
      exact outside.2 (folder_drawingPath _)

theorem typeTags_ofWorkbook (now : Time.DateTime) (w : Workbook)
    : (ofWorkbook now w).typeTags = (contentTypesNode w).events.filterMap tag? := by
  rw [typeTags, part?_contentTypes, Option.map_some, Option.getD_some,
    tags_ofRoot _ (contentTypesNode_eachTag w)]

theorem defaults_ofWorkbook (now : Time.DateTime) (w : Workbook)
    : (ofWorkbook now w).defaults = (typedExtensions w).map some := by
  rw [defaults, typeTags_ofWorkbook]
  exact (contentTypesNode_extensions w).named

theorem overrides_ofWorkbook (now : Time.DateTime) (w : Workbook)
    : (ofWorkbook now w).overrides = (typedParts w).map fun name => some ("/" ++ name) := by
  rw [overrides, typeTags_ofWorkbook, (contentTypesNode_parts w).named, List.map_map]
  rfl

theorem mem_overrides {name : String} (typed : name ∈ typedParts w)
    : some ("/" ++ name) ∈ (ofWorkbook now w).overrides := by
  rw [overrides_ofWorkbook]
  exact List.mem_map.mpr ⟨name, typed, rfl⟩

/-- Parts with a content type of their own are there. -/
theorem name_mem_of_typed {name : String} (typed : name ∈ typedParts w)
    : name ∈ (ofWorkbook now w).map (·.name) := by
  rcases List.mem_append.mp typed with fixed | typed
  · have every : ∀ name ∈ ["xl/workbook.xml", "xl/styles.xml", "docProps/core.xml",
        "docProps/app.xml"], name ∈ workbookNames := by
      decide
    exact mem_names_of_mem_workbookNames (every name fixed)
  · rcases List.mem_append.mp typed with sheet | drawing
    · obtain ⟨i, inside, rfl⟩ := List.mem_map.mp sheet
      obtain ⟨plan, planned⟩ :=
        exists_planned (List.getElem?_eq_getElem (List.mem_range.mp inside))
      exact name_mem (.sheet planned)
    · obtain ⟨n, member, rfl⟩ := List.mem_map.mp drawing
      obtain ⟨plan, member, rfl⟩ := List.mem_filterMap.mp member
      obtain ⟨i, s, planned⟩ := exists_planned_of_mem member
      exact name_mem (.drawing planned)

/-- The format of each picture is used. -/
theorem Planned.extension_mem {index : Nat} {s : Sheet} {plan : Option DrawingNumbers}
    (planned : Planned w index s plan) {picture : Picture} (member : picture ∈ s.pictures)
    : picture.format.extension ∈ typedExtensions w := by
  have known : picture.format ∈ pictureFormats := by
    cases picture.format <;> decide
  refine List.mem_append_right _ (List.mem_map_of_mem (List.mem_filter.mpr ⟨known, ?_⟩))
  refine List.any_eq_true.mpr ⟨s, List.mem_of_getElem? planned.sheet, ?_⟩
  exact List.any_eq_true.mpr ⟨picture, member, beq_self_eq_true _⟩

theorem extension_mem (isPart : IsPart now w part) : extension part.name ∈ typedExtensions w := by
  have fixed {e : String} (known : e = "rels" ∨ e = "xml") : e ∈ typedExtensions w :=
    List.mem_append_left _ (by simpa using known)
  cases isPart with
  | fixed member =>
      have every : ∀ name ∈ workbookNames, extension name = "rels" ∨ extension name = "xml" := by
        decide
      exact fixed (every part.name (name_mem_workbookNames member))
  | sheet planned => exact fixed (.inr (extension_sheetPath _))
  | sheetLinks planned => exact fixed (.inl (extension_rels _))
  | drawing planned => exact fixed (.inr (extension_drawingPath _))
  | drawingLinks planned => exact fixed (.inl (extension_rels _))
  | picture planned entry member =>
      have used := planned.extension_mem (List.fst_mem_of_mem_zipIdx member)
      exact (extension_picturePath _ _).symm ▸ used

-----------------------------------------------------------------------------------------
-- Relationships
-----------------------------------------------------------------------------------------

theorem holdsLinks {p : Package} {source name : String}
    {targets : List (RelationshipKind × String)} (named : name = relationshipsName source)
    (known : source ∈ "" :: p.map (·.name)) (legal : ∀ target ∈ targets, Legal target.2)
    (reached : ∀ target ∈ targets, resolve source target.2 ∈ p.map (·.name))
    : p.HoldsLinks (.ofRoot name (relationshipsNode (numberedRelationships targets))) := by
  refine ⟨source, known, named, ?_⟩
  rw [links_relationshipsNode name legal]
  refine ⟨nodup_ids_linksTo targets, fun link member => ?_⟩
  obtain ⟨entry, inside, rfl⟩ := List.mem_map.mp member
  exact reached entry.1 (List.fst_mem_of_mem_zipIdx inside)

/-- What the whole package leads to. -/
theorem holdsLinks_root (now : Time.DateTime) (w : Workbook)
    : (ofWorkbook now w).HoldsLinks
      (.ofRoot "_rels/.rels" (relationshipsNode rootRelationships)) := by
  refine holdsLinks (by decide) List.mem_cons_self ?_ ?_
  · intro target member
    simp only [List.mem_cons, List.not_mem_nil, or_false] at member
    rcases member with rfl | rfl | rfl <;> decide
  · intro target member
    refine mem_names_of_mem_workbookNames ?_
    simp only [List.mem_cons, List.not_mem_nil, or_false] at member
    rcases member with rfl | rfl | rfl <;> decide

/-- The targets of the list of sheets. -/
def workbookTargets (w : Workbook) : List (RelationshipKind × String) :=
  (List.range w.sheets.length).map (fun i => (.sheet, "worksheets/" ++ sheetFile (i + 1))) ++
    [(.styles, "styles.xml")]

theorem legal_workbookTargets {target : RelationshipKind × String}
    (member : target ∈ workbookTargets w)
    : Legal target.2 := by
  rcases List.mem_append.mp member with member | member
  · obtain ⟨i, -, rfl⟩ := List.mem_map.mp member
    exact Legal.append (by decide) (legal_sheetFile _)
  · cases List.mem_singleton.mp member
    exact show Legal "styles.xml" by decide

theorem holdsLinks_workbook (now : Time.DateTime) (w : Workbook)
    : (ofWorkbook now w).HoldsLinks
      (.ofRoot "xl/_rels/workbook.xml.rels" (relationshipsNode (workbookRelationships w))) := by
  have source : relationshipsName "xl/workbook.xml" = "xl/_rels/workbook.xml.rels" := by decide
  have known : "xl/workbook.xml" ∈ (ofWorkbook now w).map (·.name) :=
    mem_names_of_mem_workbookNames (by decide)
  refine holdsLinks source.symm (List.mem_cons_of_mem _ known)
    (fun _ => legal_workbookTargets) fun target member => ?_
  rcases List.mem_append.mp member with member | member
  · obtain ⟨i, inside, rfl⟩ := List.mem_map.mp member
    obtain ⟨plan, planned⟩ := exists_planned (List.getElem?_eq_getElem (List.mem_range.mp inside))
    exact (resolve_sheetFile i).symm ▸ name_mem (.sheet planned)
  · cases List.mem_singleton.mp member
    have styles : resolve "xl/workbook.xml" "styles.xml" = "xl/styles.xml" := by decide
    exact styles.symm ▸ mem_names_of_mem_workbookNames (by decide)

theorem legal_drawingTarget (number : Nat) : Legal ("../drawings/" ++ drawingFile number) :=
  Legal.append (by decide) (legal_drawingFile _)

/-- The targets of a drawing. -/
def drawingTargets (s : Sheet) (numbers : DrawingNumbers) : List (RelationshipKind × String) :=
  (numberedPictures numbers.firstPicture s.pictures).map fun (number, p) =>
    (.picture, "../media/" ++ pictureFile number p.format)

theorem drawingTargets_eq (s : Sheet) (n : DrawingNumbers)
    : drawingTargets s n = s.pictures.zipIdx.map fun entry =>
        (.picture, "../media/" ++ pictureFile (n.firstPicture + entry.2) entry.1.format) := by
  rw [drawingTargets, numberedPictures, List.map_map]
  rfl

theorem legal_drawingTargets {s : Sheet} {n : DrawingNumbers} {target : RelationshipKind × String}
    (member : target ∈ drawingTargets s n)
    : Legal target.2 := by
  obtain ⟨entry, -, rfl⟩ := List.mem_map.mp member
  exact Legal.append (by decide) (legal_pictureFile _ _)

section Planned

variable {index : Nat} {s : Sheet} {n : DrawingNumbers} (planned : Planned w index s (some n))

include planned

theorem Planned.holdsLinks_sheet : (ofWorkbook now w).HoldsLinks (sheetLinksPart index n) := by
  refine holdsLinks (relationshipsName_sheetPath index).symm
    (List.mem_cons_of_mem _ (name_mem (.sheet planned))) ?_ ?_
  · intro target member
    cases List.mem_singleton.mp member
    exact legal_drawingTarget _
  · intro target member
    cases List.mem_singleton.mp member
    exact (resolve_drawingFile index n.drawing).symm ▸ name_mem (.drawing planned)

theorem Planned.holdsLinks_drawing : (ofWorkbook now w).HoldsLinks (drawingLinksPart s n) := by
  refine holdsLinks (relationshipsName_drawingPath n.drawing).symm
    (List.mem_cons_of_mem _ (name_mem (.drawing planned))) (fun _ => legal_drawingTargets) ?_
  intro target member
  rw [← drawingTargets, drawingTargets_eq] at member
  obtain ⟨entry, inside, rfl⟩ := List.mem_map.mp member
  exact (resolve_pictureFile n.drawing _ _).symm ▸ name_mem (.picture planned entry inside)

end Planned

/-- All parts with the extension of relationships hold some. -/
theorem holdsLinks_of_isPart (isPart : IsPart now w part) (rels : extension part.name = "rels")
    : (ofWorkbook now w).HoldsLinks part := by
  cases isPart with
  | fixed member =>
      simp only [workbookParts, List.mem_cons, List.not_mem_nil, or_false] at member
      rcases member with rfl | rfl | rfl | rfl | rfl | rfl | rfl
      · exact absurd rels (show extension "[Content_Types].xml" ≠ "rels" by decide)
      · exact holdsLinks_root now w
      · exact absurd rels (show extension "docProps/core.xml" ≠ "rels" by decide)
      · exact absurd rels (show extension "docProps/app.xml" ≠ "rels" by decide)
      · exact absurd rels (show extension "xl/workbook.xml" ≠ "rels" by decide)
      · exact holdsLinks_workbook now w
      · exact absurd rels (show extension "xl/styles.xml" ≠ "rels" by decide)
  | sheet planned => exact absurd ((extension_sheetPath _).symm.trans rels) (by decide)
  | sheetLinks planned => exact planned.holdsLinks_sheet
  | drawing planned => exact absurd ((extension_drawingPath _).symm.trans rels) (by decide)
  | drawingLinks planned => exact planned.holdsLinks_drawing
  | picture planned entry member =>
      have other : ∀ format : PictureFormat, format.extension ≠ "rels" := by
        intro format
        cases format <;> decide
      exact absurd ((extension_picturePath _ _).symm.trans rels) (other _)

theorem isClosed_ofWorkbook (now : Time.DateTime) (w : Workbook)
    : (ofWorkbook now w).IsClosed := by
  refine ⟨nodup_names now w, fun part member => ?_, fun part member => ?_, ?_, ?_⟩
  · exact holdsLinks_of_isPart (mem_ofWorkbook_iff.mp member)
  · rw [defaults_ofWorkbook, List.count_map_of_injective _ _ (Option.some_injective _)]
    exact List.count_eq_one_of_mem (nodup_typedExtensions w)
      (extension_mem (mem_ofWorkbook_iff.mp member))
  · rw [overrides_ofWorkbook]
    refine (nodup_typedParts w).map fun name name' same => ?_
    have texts := congrArg String.toList (Option.some.inj same)
    rw [String.toList_append, String.toList_append] at texts
    exact String.toList_inj.mp (List.append_cancel_left texts)
  · intro name member
    rw [overrides_ofWorkbook] at member
    obtain ⟨typed, known, rfl⟩ := List.mem_map.mp member
    obtain ⟨part, inside, rfl⟩ := List.mem_map.mp (name_mem_of_typed known)
    exact ⟨part, inside, rfl⟩

-----------------------------------------------------------------------------------------
-- Ids
-----------------------------------------------------------------------------------------

theorem leadsTo_ofRoot {p : Package} {path name key : String} {root : Node} {ids : List String}
    {kind : RelationshipKind} {targets : List Part} (formed : root.EachTag IsTag)
    (refers : NodeRefers name key root ids)
    (followed : ids.map (p.follow? path kind) = targets.map some)
    : p.LeadsTo (.ofRoot path root) name key kind targets := by
  refine ⟨ids, ?_, followed⟩
  rw [tags_ofRoot path formed]
  exact refers

/-- The entries of the list of sheets lead to their parts. -/
theorem leadsTo_sheets (now : Time.DateTime) (w : Workbook)
    : (ofWorkbook now w).LeadsTo (.ofRoot "xl/workbook.xml" (workbookNode w)) "sheet" "r:id" .sheet
      (w.sheets.zipIdx.map (sheetPart w)) := by
  have source : relationshipsName "xl/workbook.xml" = "xl/_rels/workbook.xml.rels" := by decide
  have found : (ofWorkbook now w).part? (relationshipsName "xl/workbook.xml")
      = some (.ofRoot _ (relationshipsNode (numberedRelationships (workbookTargets w)))) :=
    source.symm ▸ part?_workbookLinks now w
  refine leadsTo_ofRoot (workbookNode_eachTag w) (workbookNode_refers w) ?_
  rw [List.map_map, List.map_map]
  refine List.map_congr_left fun entry listed => ?_
  have sheet := List.mem_zipIdx_iff_getElem?.mp listed
  have inside : entry.2 < w.sheets.length := (List.getElem?_eq_some_iff.mp sheet).1
  have place : (workbookTargets w)[entry.2]?
      = some (.sheet, "worksheets/" ++ sheetFile (entry.2 + 1)) := by
    rw [workbookTargets, List.getElem?_append_left (by simpa using inside)]
    simp [inside]
  obtain ⟨plan, planned⟩ := exists_planned sheet
  rw [Function.comp_apply, follow?_numbered (fun _ => legal_workbookTargets) found place,
    resolve_sheetFile]
  exact part?_of_isPart (.sheet planned)

section Pictures

variable {index : Nat} {s : Sheet} {n : DrawingNumbers} (planned : Planned w index s (some n))

include planned

theorem Planned.leadsTo_drawing
    : (ofWorkbook now w).LeadsTo (sheetPart w (s, index)) "drawing" "r:id" .drawing
      [drawingPart s n] := by
  have found : (ofWorkbook now w).part? (relationshipsName (sheetPath index))
      = some (sheetLinksPart index n) :=
    (relationshipsName_sheetPath index).symm ▸ part?_of_isPart (.sheetLinks planned)
  have some : s.pictures.isEmpty = false := by simpa using planned.isSome
  have refers := sheetNode_refers (StyleTable.ofWorkbook w) index s
  rw [some] at refers
  refine leadsTo_ofRoot (sheetNode_eachTag _ _ _) refers ?_
  have legal : ∀ target ∈ [(RelationshipKind.drawing, "../drawings/" ++ drawingFile n.drawing)],
      Legal target.2 := by
    intro target member
    cases List.mem_singleton.mp member
    exact legal_drawingTarget _
  have followed := follow?_numbered legal found (i := 0) rfl
  rw [resolve_drawingFile] at followed
  exact congrArg (fun part => [part]) (followed.trans (part?_of_isPart (.drawing planned)))

theorem Planned.leadsTo_pictures
    : (ofWorkbook now w).LeadsTo (drawingPart s n) "a:blip" "r:embed" .picture
      (s.pictures.zipIdx.map (picturePart n)) := by
  have found : (ofWorkbook now w).part? (relationshipsName (drawingPath n.drawing))
      = some (drawingLinksPart s n) :=
    (relationshipsName_drawingPath n.drawing).symm ▸ part?_of_isPart (.drawingLinks planned)
  refine leadsTo_ofRoot (drawingNode_eachTag _) (drawingNode_refers _) ?_
  rw [List.map_map, List.map_map]
  refine List.map_congr_left fun entry member => ?_
  have place : (drawingTargets s n)[entry.2]? = some (.picture,
      "../media/" ++ pictureFile (n.firstPicture + entry.2) entry.1.format) := by
    rw [drawingTargets_eq, List.getElem?_map, List.getElem?_zipIdx,
      List.mem_zipIdx_iff_getElem?.mp member]
    simp
  rw [Function.comp_apply, follow?_numbered (fun _ => legal_drawingTargets) found place,
    resolve_pictureFile]
  exact part?_of_isPart (.picture planned entry member)

end Pictures

theorem showsPictures (now : Time.DateTime) {w : Workbook} {entry : Sheet × Nat}
    (member : entry ∈ w.sheets.zipIdx)
    : (ofWorkbook now w).ShowsPictures (sheetPart w entry) entry.1.pictures := by
  obtain ⟨s, i⟩ := entry
  obtain ⟨plan, planned⟩ := exists_planned (List.mem_zipIdx_iff_getElem?.mp member)
  have known := planned.isSome
  rw [ShowsPictures]
  cases plan with
  | none =>
      have none : s.pictures.isEmpty = true := by simpa using known
      have refers := sheetNode_refers (StyleTable.ofWorkbook w) i s
      rw [if_pos none] at refers ⊢
      exact leadsTo_ofRoot (sheetNode_eachTag _ _ _) refers rfl
  | some n =>
      have some : ¬ s.pictures.isEmpty = true := by simpa using known
      rw [if_neg some]
      refine ⟨drawingPart s n, _, folder_drawingPath _, planned.leadsTo_drawing,
        planned.leadsTo_pictures, ?_⟩
      have data : Part.bytes ∘ picturePart n = Picture.data ∘ Prod.fst := rfl
      rw [List.map_map, data, ← List.map_map, List.zipIdx_map_fst]

-----------------------------------------------------------------------------------------
-- Whole packages
-----------------------------------------------------------------------------------------

/-- The parts of sheets and drawings are those in their folders. -/
theorem mem_typedParts_of_isPart (isPart : IsPart now w part)
    (inside : folder part.name ∈ [["xl", "worksheets"], ["xl", "drawings"]])
    : part.name ∈ typedParts w := by
  -- A part whose name is in another folder is none of these.
  have outside {name : String} {steps : List String} (known : folder name = steps)
      (other : steps ∉ [["xl", "worksheets"], ["xl", "drawings"]])
      : folder name ∉ [["xl", "worksheets"], ["xl", "drawings"]] := known.symm ▸ other
  cases isPart with
  | fixed member =>
      have every : ∀ name ∈ workbookNames,
          folder name ∉ [["xl", "worksheets"], ["xl", "drawings"]] := by
        decide
      exact absurd inside (every part.name (name_mem_workbookNames member))
  | sheet planned =>
      have index := List.mem_range.mpr (List.getElem?_eq_some_iff.mp planned.sheet).1
      exact List.mem_append_right _ (List.mem_append_left _ (List.mem_map_of_mem index))
  | drawing planned =>
      have numbered : _ ∈ (drawingPlan w).filterMap id :=
        List.mem_filterMap.mpr ⟨_, List.mem_of_getElem? planned.plan, rfl⟩
      exact List.mem_append_right _ (List.mem_append_right _ (List.mem_map.mpr ⟨_, numbered, rfl⟩))
  | sheetLinks planned =>
      exact absurd inside (outside (folder_sheetLinksPath _) (by decide))
  | drawingLinks planned =>
      exact absurd inside (outside (folder_drawingLinksPath _) (by decide))
  | picture planned entry member =>
      exact absurd inside (outside (folder_picturePath _ _) (by decide))

/-- A written package is closed and presents its workbook. -/
theorem ofWorkbook_closed (now : Time.DateTime) (w : Workbook)
    : (ofWorkbook now w).IsClosed ∧ (ofWorkbook now w).Presents w := by
  refine ⟨isClosed_ofWorkbook now w, fun name known => ?_, fun part member inside => ?_, ?_, ?_⟩
  · have typed : name ∈ typedParts w := List.mem_append_left _ known
    exact ⟨name_mem_of_typed typed, mem_overrides typed⟩
  · exact mem_overrides (mem_typedParts_of_isPart (mem_ofWorkbook_iff.mp member) inside)
  · exact ⟨_, part?_workbook now w, leadsTo_sheets now w⟩
  · exact fun entry member => showsPictures now member

end Spreadsheet.Package
