import Spreadsheet.Proofs.Package.PartLinks
import Spreadsheet.Proofs.Package.SheetTags
import Spreadsheet.Proofs.Package.WrittenParts

/-! What the documents of a written package refer to: the list of sheets, sheets and drawings by
ids of relationships, and the list of content types by extensions and names of parts.
-/

namespace Spreadsheet.Package

open Spreadsheet.Sheet Spreadsheet.Xml

-----------------------------------------------------------------------------------------
-- References in tags
-----------------------------------------------------------------------------------------

/-- The values of an attribute in the tags of a name. -/
def valuesIn (tags : List Tag) (name key : String) : List (Option String) :=
  (tags.filter (·.name == name)).map (·.attribute? key)

/-- The tags of a name have an attribute with the values, and no other tag has the attribute. -/
structure Refers (name key : String) (tags : List Tag) (values : List String) : Prop where
  named : valuesIn tags name key = values.map some
  only : tags.filterMap (·.attribute? key) = values

/-- A tag of another name without the attribute. -/
structure IsApart (name key : String) (tag : String) (attributes : List (String × String)) : Prop
    where
  name : tag ≠ name
  key : key ∉ attributes.map (·.1)

variable {name key tag : String} {attributes : List (String × String)} {nodes : List Node}

namespace Refers

variable {tags tags' : List Tag} {values values' : List String}

theorem nil : Refers name key [] [] := ⟨rfl, rfl⟩

theorem append (first : Refers name key tags values) (second : Refers name key tags' values')
    : Refers name key (tags ++ tags') (values ++ values') := by
  constructor
  · rw [valuesIn, List.filter_append, List.map_append, List.map_append]
    exact congrArg₂ _ first.named second.named
  · rw [List.filterMap_append, first.only, second.only]

theorem apart (apart : IsApart name key tag attributes)
    : Refers name key [⟨tag, readAttributes attributes⟩] [] := by
  have missing : (⟨tag, readAttributes attributes⟩ : Tag).attribute? key = none := by
    rw [attribute?_readAttributes, List.lookup_eq_none_iff.mpr, Option.map_none]
    exact fun entry member => bne_iff_ne.mpr fun same =>
      apart.key (List.mem_map.mpr ⟨entry, member, same.symm⟩)
  exact ⟨by simp [valuesIn, apart.name], by simp [missing]⟩

theorem single {value : String} (has : attributes.lookup key = some value) (legal : Legal value)
    : Refers name key [⟨name, readAttributes attributes⟩] [value] := by
  have read : (⟨name, readAttributes attributes⟩ : Tag).attribute? key = some value := by
    rw [attribute?_readAttributes, has, Option.map_some, legalPart_eq_self legal]
  exact ⟨by simp [valuesIn, read], by simp [read]⟩

end Refers

/-- What a piece of a document refers to. -/
def NodeRefers (name key : String) (node : Node) (values : List String) : Prop :=
  Refers name key (node.events.filterMap tag?) values

/-- What pieces that follow each other refer to. -/
def NodesRefer (name key : String) (nodes : List Node) (values : List String) : Prop :=
  Refers name key ((allEvents nodes).filterMap tag?) values

section Nodes

variable {node : Node} {nodes' : List Node} {values values' : List String}

theorem NodesRefer.cons (first : NodeRefers name key node values)
    (rest : NodesRefer name key nodes values')
    : NodesRefer name key (node :: nodes) (values ++ values') := by
  rw [NodesRefer, filterMap_allEvents_cons]
  exact first.append rest

theorem NodesRefer.append (first : NodesRefer name key nodes values)
    (second : NodesRefer name key nodes' values')
    : NodesRefer name key (nodes ++ nodes') (values ++ values') := by
  rw [NodesRefer, filterMap_allEvents_append]
  exact Refers.append first second

theorem NodeRefers.element (apart : IsApart name key tag attributes)
    (inner : NodesRefer name key nodes values)
    : NodeRefers name key (.element tag attributes nodes) values := by
  rw [NodeRefers, filterMap_events_element]
  exact (Refers.apart apart).append inner

theorem NodeRefers.block {width depth : Nat} (apart : IsApart name key tag attributes)
    (inner : NodesRefer name key nodes values)
    : NodeRefers name key (.block width depth tag attributes nodes) values := by
  rw [NodeRefers, filterMap_events_block]
  exact (Refers.apart apart).append inner

theorem NodeRefers.leaf {value : String} (has : attributes.lookup key = some value)
    (legal : Legal value)
    : NodeRefers name key (.leaf name attributes) [value] := Refers.single has legal

mutual

/-- A piece whose tags are all apart refers to nothing. -/
theorem NodeRefers.apart (node : Node) (apart : node.EachTag (IsApart name key))
    : NodeRefers name key node [] := by
  cases node with
  | text content => exact .nil
  | plain content => exact .nil
  | leaf tag attributes => exact Refers.apart apart
  | element tag attributes content => exact .element apart.1 (.apart content apart.2)

theorem NodesRefer.apart (nodes : List Node) (apart : EachTagOf (IsApart name key) nodes)
    : NodesRefer name key nodes [] := by
  cases nodes with
  | nil => exact Refers.nil
  | cons node rest => exact .cons (.apart node apart.1) (.apart rest apart.2)

end

/-- Pieces that refer to one value each, by induction on what they are made of. -/
theorem NodesRefer.map {node : α → Node} {value : α → String} {items : List α}
    (each : ∀ a ∈ items, NodeRefers name key (node a) [value a])
    : NodesRefer name key (items.map node) (items.map value) := by
  induction items with
  | nil => exact Refers.nil
  | cons a rest ih =>
      have later := ih fun b member => each b (List.mem_cons_of_mem _ member)
      exact .cons (each a List.mem_cons_self) later

end Nodes

-----------------------------------------------------------------------------------------
-- Ids
-----------------------------------------------------------------------------------------

/-- The entries of sheets have ids, and nothing else in the list of sheets has one. -/
theorem workbookNode_refers (w : Workbook)
    : NodeRefers "sheet" "r:id" (workbookNode w)
      (w.sheets.zipIdx.map fun entry => relationshipId (entry.2 + 1)) := by
  have entries : NodesRefer "sheet" "r:id" (w.sheets.zipIdx.map fun entry =>
      sheetEntry entry.2 entry.1) (w.sheets.zipIdx.map fun entry => relationshipId (entry.2 + 1)) :=
    .map fun entry _ => .leaf rfl (legal_relationshipId _)
  have views : NodeRefers "sheet" "r:id"
      (.element "bookViews" [] [.leaf "workbookView" [("activeTab", "0")]]) [] :=
    .apart _ ⟨⟨by decide, by decide⟩, ⟨by decide, by decide⟩, trivial⟩
  have sheets : NodeRefers "sheet" "r:id"
      (.block step 1 "sheets" [] (w.sheets.zipIdx.map fun entry => sheetEntry entry.2 entry.1)) _ :=
    .block ⟨by decide, by decide⟩ entries
  have names : EachTagOf (IsApart "sheet" "r:id") (if (filterNames w).isEmpty then []
      else [.block step 1 "definedNames" [] (filterNames w)]) := by
    refine eachTagOf_iff.mpr fun node member => ?_
    split at member
    · cases member
    · cases List.mem_singleton.mp member
      refine eachTag_block ⟨by decide, by decide⟩ fun name member => ?_
      obtain ⟨⟨s, i⟩, -, named⟩ := List.mem_filterMap.mp member
      obtain ⟨filter, -, rfl⟩ := Option.map_eq_some_iff.mp named
      exact ⟨⟨by simp, by simp⟩, trivial, trivial, trivial, trivial⟩
  have whole := (NodesRefer.cons views (.cons sheets (.apart [] trivial))).append (.apart _ names)
  rw [List.nil_append, List.append_nil, List.append_nil] at whole
  exact .block ⟨by decide, by decide⟩ whole

/-- A sheet with pictures has one drawing, and others have none. -/
theorem sheetNode_refers (t : StyleTable) (index : Nat) (s : Sheet)
    : NodeRefers "drawing" "r:id" (sheetNode t index s)
      (if s.pictures.isEmpty then [] else [relationshipId 1]) := by
  have front : EachTagOf (IsApart "drawing" "r:id") (sheetNodes t index s) :=
    eachTagOf_iff.mpr fun node member => (sheetNodes_inner member).mono fun _ _ inner =>
      ⟨inner.ne_drawing, inner.unlinked⟩
  have drawing : NodesRefer "drawing" "r:id" (drawingNodes s)
      (if s.pictures.isEmpty then [] else [relationshipId 1]) := by
    rw [drawingNodes]
    cases s.pictures.isEmpty with
    | true => exact Refers.nil
    | false => exact .cons (.leaf rfl (legal_relationshipId _)) (.apart [] trivial)
  exact .block ⟨by decide, by decide⟩ ((NodesRefer.apart _ front).append drawing)

theorem markerNode_apart {corner : String} (other : corner ≠ "a:blip") (cell : Cell.Address)
    : (markerNode corner cell).EachTag (IsApart "a:blip" "r:embed") := by
  refine eachTag_element ⟨other, by simp⟩ fun node member => ?_
  simp only [List.mem_cons, List.not_mem_nil, or_false] at member
  rcases member with rfl | rfl | rfl | rfl <;> exact eachTag_textual ⟨by decide, by decide⟩

theorem pictureNode_refers (number : Nat)
    : NodeRefers "a:blip" "r:embed" (pictureNode number) [relationshipId number] := by
  have named : NodeRefers "a:blip" "r:embed" (.element "xdr:nvPicPr" []
      [.leaf "xdr:cNvPr" [("id", Nat.repr (number + 1)), ("name", "Picture " ++ Nat.repr number)],
        .element "xdr:cNvPicPr" [] [.leaf "a:picLocks" [("noChangeAspect", "1")]]]) [] :=
    .apart _ ⟨⟨by decide, by simp⟩, ⟨by decide, by simp⟩,
      ⟨⟨by decide, by simp⟩, ⟨by decide, by simp⟩, trivial⟩, trivial⟩
  have fill : NodeRefers "a:blip" "r:embed" (.element "xdr:blipFill" []
      [.leaf "a:blip" [("r:embed", relationshipId number)],
        .element "a:stretch" [] [.leaf "a:fillRect" []]]) [relationshipId number] :=
    .element ⟨by decide, by simp⟩ (.cons (.leaf rfl (legal_relationshipId _))
      (.apart _ ⟨⟨⟨by decide, by simp⟩, ⟨by decide, by simp⟩, trivial⟩, trivial⟩))
  have shape : NodeRefers "a:blip" "r:embed" (.element "xdr:spPr" []
      [.element "a:xfrm" []
          [.leaf "a:off" [("x", "0"), ("y", "0")], .leaf "a:ext" [("cx", "0"), ("cy", "0")]],
        .element "a:prstGeom" [("prst", "rect")] [.leaf "a:avLst" []]]) [] :=
    .apart _ ⟨⟨by decide, by simp⟩,
      ⟨⟨by decide, by simp⟩, ⟨by decide, by simp⟩, ⟨by decide, by simp⟩, trivial⟩,
      ⟨⟨by decide, by simp⟩, ⟨by decide, by simp⟩, trivial⟩, trivial⟩
  exact .element ⟨by decide, by simp⟩ (.cons named (.cons fill (.cons shape (.apart [] trivial))))

theorem anchorNode_refers (number : Nat) (p : Picture)
    : NodeRefers "a:blip" "r:embed" (anchorNode number p) [relationshipId number] :=
  .element ⟨by decide, by decide⟩ (.cons (.apart _ (markerNode_apart (by decide) _))
    (.cons (.apart _ (markerNode_apart (by decide) _)) (.cons (pictureNode_refers number)
      (.apart _ ⟨⟨by decide, by decide⟩, trivial⟩))))

/-- A drawing has one id for each picture. -/
theorem drawingNode_refers (pictures : List Picture)
    : NodeRefers "a:blip" "r:embed" (drawingNode pictures)
      (pictures.zipIdx.map fun entry => relationshipId (entry.2 + 1)) :=
  .element ⟨by decide, by decide⟩ (.map fun entry _ => anchorNode_refers (entry.2 + 1) entry.1)

-----------------------------------------------------------------------------------------
-- Content types
-----------------------------------------------------------------------------------------

/-- The extensions that have a content type. -/
def typedExtensions (w : Workbook) : List String :=
  ["rels", "xml"] ++ (usedFormats w).map PictureFormat.extension

/-- The parts that have a content type of their own. -/
def typedParts (w : Workbook) : List String :=
  ["xl/workbook.xml", "xl/styles.xml", "docProps/core.xml", "docProps/app.xml"] ++
    ((List.range w.sheets.length).map sheetPath ++
      ((drawingPlan w).filterMap id).map fun numbers => drawingPath numbers.drawing)

theorem legal_extension (format : PictureFormat) : Legal format.extension := by
  cases format <;> decide

theorem legal_drawingFile (number : Nat) : Legal (drawingFile number) :=
  legal_numbered (by decide) number

theorem legal_pictureFile (number : Nat) (format : PictureFormat)
    : Legal (pictureFile number format) :=
  (legal_numbered (by decide) number).append (legal_extension format)

theorem legal_sheetPath (index : Nat) : Legal ("/" ++ sheetPath index) :=
  Legal.append (by decide) (Legal.append (by decide) (legal_sheetFile _))

theorem legal_drawingPath (number : Nat) : Legal ("/" ++ drawingPath number) :=
  Legal.append (by decide) (Legal.append (by decide) (legal_drawingFile _))

theorem defaultType_refers {extension : String} (legal : Legal extension) (type : String)
    : NodeRefers "Default" "Extension" (defaultType extension type) [extension] := .leaf rfl legal

theorem partType_refers {part : String} (legal : Legal ("/" ++ part)) (type : String)
    : NodeRefers "Override" "PartName" (partType part type) ["/" ++ part] := .leaf rfl legal

theorem defaultType_apart (extension type : String)
    : (defaultType extension type).EachTag (IsApart "Override" "PartName") :=
  ⟨by decide, by simp⟩

theorem partType_apart (part type : String)
    : (partType part type).EachTag (IsApart "Default" "Extension") :=
  ⟨by decide, by simp⟩

/-- The content types of extensions, whatever they are. -/
theorem contentTypesNode_extensions (w : Workbook)
    : NodeRefers "Default" "Extension" (contentTypesNode w) (typedExtensions w) := by
  have fixed {a b : String} : NodesRefer "Default" "Extension"
      [defaultType "rels" a, defaultType "xml" b] ["rels", "xml"] :=
    .cons (defaultType_refers (by decide) a) (.cons (defaultType_refers (by decide) b)
      (.apart [] trivial))
  have formats : NodesRefer "Default" "Extension"
      ((usedFormats w).map fun f => defaultType f.extension f.contentType)
      ((usedFormats w).map PictureFormat.extension) :=
    .map fun f _ => defaultType_refers (legal_extension f) _
  have parts {nodes : List Node} (each : ∀ node ∈ nodes, ∃ part type, node = partType part type)
      : NodesRefer "Default" "Extension" nodes [] := by
    refine .apart nodes (eachTagOf_iff.mpr fun node member => ?_)
    obtain ⟨part, type, rfl⟩ := each node member
    exact partType_apart part type
  rw [contentTypesNode]
  refine .block ⟨by decide, by decide⟩ ?_
  rw [List.append_assoc, List.append_assoc, ← List.append_nil (typedExtensions w)]
  refine (fixed.append formats).append (parts fun node member => ?_)
  simp only [List.mem_append, List.mem_cons, List.not_mem_nil, or_false, List.mem_map,
    List.mem_filterMap, Option.map_eq_some_iff] at member
  rcases member with (rfl | rfl | rfl | rfl) | ⟨i, -, rfl⟩ | ⟨plan, -, numbers, -, rfl⟩
  all_goals exact ⟨_, _, rfl⟩

theorem contentTypesNode_parts (w : Workbook)
    : NodeRefers "Override" "PartName" (contentTypesNode w) ((typedParts w).map ("/" ++ ·)) := by
  have extensions {nodes : List Node}
      (each : ∀ node ∈ nodes, ∃ extension type, node = defaultType extension type)
      : NodesRefer "Override" "PartName" nodes [] := by
    refine .apart nodes (eachTagOf_iff.mpr fun node member => ?_)
    obtain ⟨extension, type, rfl⟩ := each node member
    exact defaultType_apart extension type
  have fixed {a b c d : String} : NodesRefer "Override" "PartName"
      [partType "xl/workbook.xml" a, partType "xl/styles.xml" b, partType "docProps/core.xml" c,
        partType "docProps/app.xml" d]
      (["xl/workbook.xml", "xl/styles.xml", "docProps/core.xml", "docProps/app.xml"].map
        ("/" ++ ·)) :=
    .cons (partType_refers (by decide) a) (.cons (partType_refers (by decide) b)
      (.cons (partType_refers (by decide) c) (.cons (partType_refers (by decide) d)
        (.apart [] trivial))))
  have sheets {type : String} : NodesRefer "Override" "PartName"
      ((List.range w.sheets.length).map fun i => partType (sheetPath i) type)
      (((List.range w.sheets.length).map sheetPath).map ("/" ++ ·)) := by
    rw [List.map_map]
    exact .map fun i _ => partType_refers (legal_sheetPath i) type
  have drawings {type : String} : NodesRefer "Override" "PartName"
      ((drawingPlan w).filterMap fun plan => plan.map fun numbers =>
        partType (drawingPath numbers.drawing) type)
      ((((drawingPlan w).filterMap id).map fun numbers =>
        drawingPath numbers.drawing).map ("/" ++ ·)) := by
    have nodes : (drawingPlan w).filterMap (fun plan => plan.map fun numbers =>
          partType (drawingPath numbers.drawing) type)
        = ((drawingPlan w).filterMap id).map fun numbers =>
            partType (drawingPath numbers.drawing) type := by
      rw [List.map_filterMap]
      rfl
    rw [nodes, List.map_map]
    exact .map fun numbers _ => partType_refers (legal_drawingPath _) type
  rw [contentTypesNode]
  refine .block ⟨by decide, by decide⟩ ?_
  rw [List.append_assoc, List.append_assoc, ← List.nil_append (List.map _ (typedParts w)),
    typedParts, List.map_append, List.map_append]
  refine (extensions fun node member => ?_).append (fixed.append (sheets.append drawings))
  simp only [List.mem_append, List.mem_cons, List.not_mem_nil, or_false, List.mem_map] at member
  rcases member with (rfl | rfl) | ⟨format, -, rfl⟩
  all_goals exact ⟨_, _, rfl⟩

end Spreadsheet.Package
