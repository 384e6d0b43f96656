import Spreadsheet.Proofs.Package.PartReading
import Spreadsheet.Proofs.Package.WrittenParts
import Spreadsheet.Proofs.Package.WrittenTags
import Spreadsheet.Proofs.Xml.LegalText

/-! The list of sheets in a written package, and the way from its entries to the parts.
-/

namespace Spreadsheet

open Spreadsheet.Xml

-----------------------------------------------------------------------------------------
-- Tags of trees
-----------------------------------------------------------------------------------------

namespace Package

variable {name : String} {attributes : List (String × String)} {nodes : List Node}

theorem filterMap_allEvents_append (nodes nodes' : List Node)
    : (allEvents (nodes ++ nodes')).filterMap tag?
      = (allEvents nodes).filterMap tag? ++ (allEvents nodes').filterMap tag? := by
  rw [allEvents_append, List.filterMap_append]

theorem filterMap_allEvents_cons (node : Node) (rest : List Node)
    : (allEvents (node :: rest)).filterMap tag?
      = node.events.filterMap tag? ++ (allEvents rest).filterMap tag? := by
  rw [allEvents, List.filterMap_append]

theorem filterMap_events_element (content : List Node)
    : (Node.element name attributes content).events.filterMap tag?
      = ⟨name, readAttributes attributes⟩ :: (allEvents content).filterMap tag? := by
  rw [Node.events]
  change _ :: (allEvents content ++ [Event.close name]).filterMap tag? = _
  rw [List.filterMap_append]
  exact congrArg _ (List.append_nil _)

/-- The tags of a block are its own and those of its items, by induction on the items. -/
theorem filterMap_events_block (width depth : Nat)
    : (Node.block width depth name attributes nodes).events.filterMap tag?
      = ⟨name, readAttributes attributes⟩ :: (allEvents nodes).filterMap tag? := by
  have line : ∀ blanks rest, (allEvents (Node.newLine blanks :: rest)).filterMap tag?
      = (allEvents rest).filterMap tag? := fun _ _ => rfl
  rw [Node.block, filterMap_events_element, filterMap_allEvents_append, line, allEvents,
    List.filterMap_nil, List.append_nil]
  congr 1
  induction nodes with
  | nil => rfl
  | cons node rest ih =>
      rw [List.flatMap_cons, List.cons_append, List.cons_append, List.nil_append, line,
        filterMap_allEvents_cons, filterMap_allEvents_cons, ih]

theorem filterMap_allEvents_leaves (name : String) (attributes : α → List (String × String))
    (items : List α)
    : (allEvents (items.map fun a => .leaf name (attributes a))).filterMap tag?
      = items.map fun a => ⟨name, readAttributes (attributes a)⟩ := by
  induction items with
  | nil => rfl
  | cons a rest ih =>
      rw [List.map_cons, filterMap_allEvents_cons, ih]
      rfl

-----------------------------------------------------------------------------------------
-- Entries of sheets
-----------------------------------------------------------------------------------------

/-- Tags of another name are no entries. -/
theorem foldl_addSheetEntry_other {tags : List Tag} (other : ∀ tag ∈ tags, tag.name ≠ "sheet")
    (entries : List SheetEntry)
    : tags.foldl addSheetEntry entries = entries := by
  induction tags generalizing entries with
  | nil => rfl
  | cons tag rest ih =>
      rw [List.foldl_cons, addSheetEntry, if_neg (other tag List.mem_cons_self)]
      exact ih (fun tag member => other tag (List.mem_cons_of_mem _ member)) entries

/-- The attributes of the entry of a sheet with its position. -/
def entryAttributes (entry : Sheet × Nat) : List (String × String) :=
  [("name", entry.1.name), ("sheetId", Nat.repr (entry.2 + 1)),
    ("r:id", relationshipId (entry.2 + 1))]

theorem legal_relationshipId (number : Nat) : Legal (relationshipId number) := by
  have start : Legal "rId" := by decide
  exact start.append (legal_repr number)

/-- The entry that is read for a sheet with its position: its name, as far as documents can hold it,
and the id of its relationship.
-/
def readEntry (entry : Sheet × Nat) : SheetEntry :=
  ⟨legalPart entry.1.name, relationshipId (entry.2 + 1)⟩

/-- The names that are read do not depend on the positions. -/
theorem map_legalPart_zipIdx (sheets : List Sheet)
    : sheets.zipIdx.map (legalPart ·.1.name) = sheets.map (legalPart ·.name) := by
  conv_rhs => rw [← List.zipIdx_map_fst 0 sheets, List.map_map]
  rfl

/-- The tag of a sheet's entry gives its name and its id. -/
theorem foldl_addSheetEntry (sheets : List (Sheet × Nat)) (entries : List SheetEntry)
    : (sheets.map fun entry => (⟨"sheet", readAttributes (entryAttributes entry)⟩ : Tag)).foldl
        addSheetEntry entries
      = entries ++ sheets.map readEntry := by
  induction sheets generalizing entries with
  | nil => rw [List.map_nil, List.map_nil, List.foldl_nil, List.append_nil]
  | cons entry rest ih =>
      have id : legalPart (relationshipId (entry.2 + 1)) = relationshipId (entry.2 + 1) :=
        legalPart_eq_self (legal_relationshipId _)
      have added : addSheetEntry entries ⟨"sheet", readAttributes (entryAttributes entry)⟩
          = entries ++ [⟨legalPart entry.1.name, legalPart (relationshipId (entry.2 + 1))⟩] := rfl
      rw [List.map_cons, List.foldl_cons, added, id, ih, List.append_assoc]
      rfl

/-- Behind the entries there are only the names of filters. -/
theorem tag_of_filterNames {w : Workbook} {tag : Tag}
    (member : tag ∈ (allEvents (filterNames w)).filterMap tag?)
    : tag.name = "definedName" := by
  have each : ∀ node ∈ filterNames w, ∀ tag ∈ node.events.filterMap tag?,
      tag.name = "definedName" := by
    intro node inside tag member
    obtain ⟨⟨s, i⟩, -, named⟩ := List.mem_filterMap.mp inside
    obtain ⟨filter, -, rfl⟩ := Option.map_eq_some_iff.mp named
    exact congrArg Tag.name (List.mem_singleton.mp member)
  generalize filterNames w = nodes at each member
  induction nodes with
  | nil => cases member
  | cons node rest ih =>
      rw [filterMap_allEvents_cons, List.mem_append] at member
      rcases member with member | member
      · exact each node List.mem_cons_self tag member
      · exact ih (fun node inside => each node (List.mem_cons_of_mem _ inside)) member

/-- The tags of the document that lists the sheets are those of the entries and others. -/
theorem filterMap_events_workbookNode (w : Workbook)
    : ∃ front after, (workbookNode w).events.filterMap tag?
        = front
          ++ (w.sheets.zipIdx.map fun entry => ⟨"sheet", readAttributes (entryAttributes entry)⟩)
          ++ after
      ∧ (∀ tag ∈ front, tag.name ≠ "sheet") ∧ ∀ tag ∈ after, tag.name ≠ "sheet" := by
  have sheets : (allEvents (w.sheets.zipIdx.map fun entry =>
      sheetEntry entry.2 entry.1)).filterMap tag? = _ :=
    filterMap_allEvents_leaves "sheet" entryAttributes w.sheets.zipIdx
  have tags : ∃ root views view list, (workbookNode w).events.filterMap tag?
      = [⟨"workbook", root⟩, ⟨"bookViews", views⟩, ⟨"workbookView", view⟩, ⟨"sheets", list⟩]
        ++ (w.sheets.zipIdx.map fun entry => ⟨"sheet", readAttributes (entryAttributes entry)⟩)
        ++ (allEvents (if (filterNames w).isEmpty then []
          else [.block step 1 "definedNames" [] (filterNames w)])).filterMap tag? := by
    refine ⟨?_, ?_, ?_, ?_, ?tags⟩
    case tags =>
      rw [workbookNode]
      dsimp only
      rw [filterMap_events_block, filterMap_allEvents_append, filterMap_allEvents_cons,
        filterMap_allEvents_cons, filterMap_events_element, filterMap_events_block, sheets]
      simp only [List.cons_append, List.nil_append, allEvents, List.filterMap_nil, List.append_nil]
      rfl
  obtain ⟨root, views, view, list, tags⟩ := tags
  refine ⟨_, _, tags, by simp, fun tag member => ?_⟩
  split at member
  · cases member
  · rw [filterMap_allEvents_cons, filterMap_events_block, allEvents, List.filterMap_nil,
      List.append_nil, List.mem_cons] at member
    rcases member with rfl | member
    · simp
    · simp [tag_of_filterNames member]

/-- The sheets are listed in their order. -/
theorem readSheetEntries_ofWorkbook (now : Time.DateTime) (w : Workbook)
    : readSheetEntries (ofWorkbook now w) = .ok (w.sheets.zipIdx.map readEntry) := by
  obtain ⟨front, after, tags, before, behind⟩ := filterMap_events_workbookNode w
  rw [readSheetEntries, foldPart, part?_workbook]
  dsimp only
  rw [foldEvents_onTags (workbookNode_eachTag w), tags, List.foldl_append, List.foldl_append,
    foldl_addSheetEntry_other before, foldl_addSheetEntry, foldl_addSheetEntry_other behind,
    List.nil_append]

-----------------------------------------------------------------------------------------
-- Paths of sheets
-----------------------------------------------------------------------------------------

/-- The attributes of the relationship with a position. -/
def relationshipAttributes (entry : (RelationshipKind × String) × Nat) : List (String × String) :=
  [("Id", relationshipId (entry.2 + 1)), ("Type", entry.1.1.url), ("Target", entry.1.2)]

theorem filterMap_events_relationshipsNode (targets : List (RelationshipKind × String))
    : ∃ root, (relationshipsNode (numberedRelationships targets)).events.filterMap tag?
      = ⟨"Relationships", root⟩
        :: targets.zipIdx.map fun entry =>
          ⟨"Relationship", readAttributes (relationshipAttributes entry)⟩ := by
  refine ⟨?_, ?tags⟩
  case tags =>
    rw [relationshipsNode, filterMap_events_block, numberedRelationships, List.map_map]
    exact congrArg _ (filterMap_allEvents_leaves "Relationship" relationshipAttributes _)

theorem legal_sheetFile (number : Nat) : Legal (sheetFile number) :=
  legal_numbered (by decide) number

/-- The relationship of a sheet leads to its part. -/
theorem addSheetPath_sheet (paths : List (String × String)) (i : Nat)
    : addSheetPath paths ⟨"Relationship", readAttributes (relationshipAttributes
        ((.sheet, "worksheets/" ++ sheetFile (i + 1)), i))⟩
      = (relationshipId (i + 1), sheetPath i) :: paths := by
  have target : Legal ("worksheets/" ++ sheetFile (i + 1)) :=
    Legal.append (by decide) (legal_sheetFile _)
  have known : "/worksheet".toList.isSuffixOf (legalPart RelationshipKind.sheet.url).toList
      = true := by
    decide +kernel
  have place : targetPart ("worksheets/" ++ sheetFile (i + 1)) = sheetPath i := by
    have whole : "xl/worksheets/" = "xl/" ++ "worksheets/" := by decide
    rw [sheetPath, whole, String.append_assoc, targetPart]
    split
    · next rooted =>
        rw [String.toList_append] at rooted
        cases rooted
    · rfl
  have id : (relationshipAttributes ((.sheet, "worksheets/" ++ sheetFile (i + 1)), i)).lookup "Id"
      = some (relationshipId (i + 1)) := rfl
  have type : (relationshipAttributes ((.sheet, "worksheets/" ++ sheetFile (i + 1)), i)).lookup
        "Type"
      = some RelationshipKind.sheet.url := rfl
  have goal : (relationshipAttributes ((.sheet, "worksheets/" ++ sheetFile (i + 1)), i)).lookup
      "Target" = some ("worksheets/" ++ sheetFile (i + 1)) := rfl
  rw [addSheetPath, attribute?_readAttributes, attribute?_readAttributes, attribute?_readAttributes,
    id, type, goal, Option.map_some, Option.map_some, Option.map_some, Option.any_some, known,
    legalPart_eq_self (legal_relationshipId _), legalPart_eq_self target]
  dsimp only
  rw [place]
  rfl

theorem addSheetPath_other {tag : Tag} (other : tag.name ≠ "Relationship")
    (paths : List (String × String))
    : addSheetPath paths tag = paths := by
  rw [addSheetPath, if_neg]
  simp [other]

/-- The relationship of the styles leads to no sheet. -/
theorem addSheetPath_styles (paths : List (String × String)) (i : Nat)
    : addSheetPath paths ⟨"Relationship", readAttributes (relationshipAttributes
        ((.styles, "styles.xml"), i))⟩
      = paths := by
  have known : "/worksheet".toList.isSuffixOf (legalPart RelationshipKind.styles.url).toList
      = false := by
    decide +kernel
  have type : (relationshipAttributes ((.styles, "styles.xml"), i)).lookup "Type"
      = some RelationshipKind.styles.url := rfl
  rw [addSheetPath, attribute?_readAttributes, type, Option.map_some, Option.any_some, known]
  rfl

/-- The relationships of sheets lead to their parts. -/
theorem foldl_addSheetPath (sheets : List Nat) (paths : List (String × String))
    : (sheets.map fun i => (⟨"Relationship", readAttributes (relationshipAttributes
          ((.sheet, "worksheets/" ++ sheetFile (i + 1)), i))⟩ : Tag)).foldl addSheetPath paths
      = (sheets.map fun i => (relationshipId (i + 1), sheetPath i)).reverse ++ paths := by
  induction sheets generalizing paths with
  | nil => rfl
  | cons i rest ih =>
      rw [List.map_cons, List.foldl_cons, addSheetPath_sheet, ih, List.map_cons, List.reverse_cons,
        List.append_assoc]
      rfl

theorem zipIdx_map_range (f : Nat → α) (n : Nat)
    : ((List.range n).map f).zipIdx = (List.range n).map fun i => (f i, i) := by
  refine List.ext_getElem (by simp) fun i inside inside' => ?_
  simp

/-- Of pairs with distinct keys each is found. -/
theorem lookup_of_mem {pairs : List (String × String)} (distinct : (pairs.map (·.1)).Nodup)
    {key value : String} (member : (key, value) ∈ pairs)
    : pairs.lookup key = some value := by
  induction pairs with
  | nil => cases member
  | cons first rest ih =>
      rw [List.map_cons, List.nodup_cons] at distinct
      rw [List.lookup_cons]
      rcases List.mem_cons.mp member with rfl | member
      · rw [beq_self_eq_true]
      · have other : (key == first.1) = false := by
          refine beq_eq_false_iff_ne.mpr ?_
          rintro rfl
          exact distinct.1 (List.mem_map.mpr ⟨_, member, rfl⟩)
        rw [other]
        exact ih distinct.2 member

/-- The relationship of each sheet leads to its part. -/
theorem exists_readSheetPaths (now : Time.DateTime) (w : Workbook)
    : ∃ paths, readSheetPaths (ofWorkbook now w) = .ok paths
      ∧ ∀ i < w.sheets.length, paths.lookup (relationshipId (i + 1)) = some (sheetPath i) := by
  obtain ⟨root, tags⟩ := filterMap_events_relationshipsNode
    ((List.range w.sheets.length).map (fun i => (.sheet, "worksheets/" ++ sheetFile (i + 1))) ++
      [(.styles, "styles.xml")])
  have styles : ∀ paths k, ((([(.styles, "styles.xml")] : List (RelationshipKind × String)).zipIdx
        k).map fun entry => (⟨"Relationship", readAttributes (relationshipAttributes entry)⟩
          : Tag)).foldl addSheetPath paths = paths := by
    intro paths k
    simp only [List.zipIdx_cons, List.zipIdx_nil, List.map_cons, List.map_nil, List.foldl_cons,
      List.foldl_nil]
    exact addSheetPath_styles paths k
  refine ⟨((List.range w.sheets.length).map fun i => (relationshipId (i + 1), sheetPath i)).reverse,
    ?_, fun i inside => ?_⟩
  · rw [readSheetPaths, foldPart, part?_workbookLinks]
    dsimp only
    rw [foldEvents_onTags (relationshipsNode_eachTag _), workbookRelationships, tags,
      List.zipIdx_append, zipIdx_map_range, List.map_append, List.map_map, List.foldl_cons,
      List.foldl_append, addSheetPath_other (by simp), styles]
    exact congrArg Except.ok ((foldl_addSheetPath _ []).trans (List.append_nil _))
  · refine lookup_of_mem ?_ ?_
    · rw [List.map_reverse, List.nodup_reverse, List.map_map]
      refine List.Nodup.map (fun i j same => ?_) List.nodup_range
      exact Nat.succ.inj (relationshipId_injective same)
    · rw [List.mem_reverse, List.mem_map]
      exact ⟨i, List.mem_range.mpr inside, rfl⟩

end Package

end Spreadsheet
