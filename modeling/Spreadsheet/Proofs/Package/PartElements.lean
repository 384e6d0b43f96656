import Spreadsheet.Proofs.Package.SheetTags
import Spreadsheet.Proofs.Package.WrittenParts
import Spreadsheet.Proofs.Xml.DocumentReading

/-! Elements of documents, put together from the stream of tags and texts that is read. A written
tree is read as the elements it was made of, with the texts right inside each of them as one. So the
names that are defined in a workbook and the rules of a sheet can be told from their parts.
-/

namespace Spreadsheet.Xml

-----------------------------------------------------------------------------------------
-- Elements that are read
-----------------------------------------------------------------------------------------

/-- An element with the text and the elements right inside it. -/
structure Element where
  tag : Tag
  text : String
  children : List Element

namespace Element

def name (e : Element) : String := e.tag.name

/-- The element with some more content. -/
def hold (e : Element) (text : String) (children : List Element) : Element :=
  { e with text := e.text ++ text, children := e.children ++ children }

theorem hold_hold (e : Element) (text text' : String) (children children' : List Element)
    : (e.hold text children).hold text' children'
      = e.hold (text ++ text') (children ++ children') := by
  simp only [hold, String.append_assoc, List.append_assoc]

theorem hold_nothing (e : Element) : e.hold "" [] = e := by
  cases e
  simp only [hold, String.append_empty, List.append_nil]

/-- The open elements after an event: the innermost one, and those around it from the inside out.
A text that cannot be told counts for nothing, and so does an end outside all elements.
-/
def grow : Element × List Element → Event → Element × List Element
  | (here, around), .start tag => (⟨tag, "", []⟩, here :: around)
  | (here, around), .empty tag => (here.hold "" [⟨tag, "", []⟩], around)
  | (here, outer :: around), .close _ => (outer.hold "" [here], around)
  | (here, []), .close _ => (here, [])
  | (here, around), .text content => (here.hold (content.getD "") [], around)

/-- The elements that lie inside no other. -/
def ofEvents (events : List Event) : List Element :=
  (events.foldl grow (⟨⟨"", []⟩, "", []⟩, [])).1.children

/-- The elements of a name. -/
def named (name : String) (elements : List Element) : List Element :=
  elements.filter (·.name == name)

/-- The elements right inside those of a name. -/
def inside (name : String) (elements : List Element) : List Element :=
  (named name elements).flatMap (·.children)

end Element

-----------------------------------------------------------------------------------------
-- Elements of trees
-----------------------------------------------------------------------------------------

/-- The text of a piece that is itself one, as far as documents can hold it. -/
def Node.ownText : Node → String
  | .text content | .plain content => legalPart content
  | .leaf .. | .element .. => ""

def innerText : List Node → String
  | [] => ""
  | node :: rest => node.ownText ++ innerText rest

mutual

/-- The element that a piece is, if it is one. -/
def Node.elements : Node → List Element
  | .text _ | .plain _ => []
  | .leaf name attributes => [⟨⟨name, readAttributes attributes⟩, "", []⟩]
  | .element name attributes content =>
    [⟨⟨name, readAttributes attributes⟩, innerText content, innerElements content⟩]

def innerElements : List Node → List Element
  | [] => []
  | node :: rest => node.elements ++ innerElements rest

end

theorem innerElements_eq_flatMap (nodes : List Node)
    : innerElements nodes = nodes.flatMap Node.elements := by
  induction nodes with
  | nil => rfl
  | cons node rest ih => rw [innerElements, ih, List.flatMap_cons]

theorem innerElements_append (nodes nodes' : List Node)
    : innerElements (nodes ++ nodes') = innerElements nodes ++ innerElements nodes' := by
  simp only [innerElements_eq_flatMap, List.flatMap_append]

/-- The name of the element that a piece is, if it is one. -/
def Node.name? : Node → Option String
  | .text _ | .plain _ => none
  | .leaf name _ | .element name .. => some name

theorem name?_of_mem_elements {node : Node} {e : Element} (member : e ∈ node.elements)
    : node.name? = some e.name := by
  cases node with
  | text content => cases member
  | plain content => cases member
  | leaf name attributes =>
      cases List.mem_singleton.mp member
      rfl
  | element name attributes content =>
      cases List.mem_singleton.mp member
      rfl

namespace Element

variable {nodes : List Node} {name : String}

theorem named_append (elements elements' : List Element)
    : named name (elements ++ elements') = named name elements ++ named name elements' :=
  List.filter_append ..

theorem inside_append (elements elements' : List Element)
    : inside name (elements ++ elements') = inside name elements ++ inside name elements' := by
  rw [inside, named_append, List.flatMap_append, inside, inside]

theorem named_innerElements (same : ∀ node ∈ nodes, node.name? = some name)
    : named name (innerElements nodes) = innerElements nodes := by
  rw [innerElements_eq_flatMap]
  refine List.filter_eq_self.mpr fun e member => ?_
  obtain ⟨node, listed, member⟩ := List.mem_flatMap.mp member
  have this := same node listed
  rw [name?_of_mem_elements member] at this
  exact beq_iff_eq.mpr (Option.some.inj this)

theorem named_innerElements_eq_nil (other : ∀ node ∈ nodes, node.name? ≠ some name)
    : named name (innerElements nodes) = [] := by
  rw [innerElements_eq_flatMap]
  refine List.filter_eq_nil_iff.mpr fun e member same => ?_
  obtain ⟨node, listed, member⟩ := List.mem_flatMap.mp member
  exact other node listed (by rw [name?_of_mem_elements member, beq_iff_eq.mp same])

/-- What is inside an element is its content. -/
theorem inside_element (name : String) (attributes : List (String × String)) (content : List Node)
    : inside name (Node.element name attributes content).elements = innerElements content := by
  have same : named name (Node.element name attributes content).elements
      = (Node.element name attributes content).elements :=
    List.filter_eq_self.mpr fun e member => by
      cases List.mem_singleton.mp member
      exact beq_self_eq_true name
  rw [inside, same]
  exact List.append_nil _

/-- What is inside a block is its items. -/
theorem inside_block (width depth : Nat) (name : String) (attributes : List (String × String))
    (items : List Node)
    : inside name (Node.block width depth name attributes items).elements
      = innerElements items := by
  have newLine (blanks : Nat) : (Node.newLine blanks).elements = [] := rfl
  rw [Node.block, inside_element, innerElements_eq_flatMap, innerElements_eq_flatMap,
    List.flatMap_append, List.flatMap_assoc]
  simp only [List.flatMap_cons, List.flatMap_nil, newLine, List.nil_append, List.append_nil]

end Element

-----------------------------------------------------------------------------------------
-- Reading
-----------------------------------------------------------------------------------------

namespace Element

mutual

/-- The events of a piece add the piece to the innermost open element, by induction on the tree. -/
theorem foldl_events (node : Node) (here : Element) (around : List Element)
    : node.events.foldl grow (here, around) = (here.hold node.ownText node.elements, around) := by
  cases node with
  | text content => rfl
  | plain content => rfl
  | leaf name attributes => rfl
  | element name attributes content =>
      rw [Node.events, List.foldl_cons, List.foldl_append, grow, foldl_allEvents content]
      simp only [List.foldl_cons, List.foldl_nil, grow, Node.ownText, Node.elements, hold,
        String.empty_append, List.nil_append]

theorem foldl_allEvents (nodes : List Node) (here : Element) (around : List Element)
    : (allEvents nodes).foldl grow (here, around)
      = (here.hold (innerText nodes) (innerElements nodes), around) := by
  cases nodes with
  | nil => rw [innerText, innerElements, hold_nothing]; rfl
  | cons node rest =>
      rw [allEvents, List.foldl_append, foldl_events node, foldl_allEvents rest, hold_hold,
        innerText, innerElements]

end

theorem foldl_gathered (text : String) (here : Element) (around : List Element)
    : (gathered text).foldl grow (here, around) = (here.hold text [], around) := by
  rw [gathered]
  split
  · next empty => rw [empty, hold_nothing]; rfl
  · rfl

/-- Neighboring texts may be put together, by induction on the events behind them. -/
theorem foldl_joinTexts (front : String) (events : List Event) (here : Element)
    (around : List Element)
    : (joinTexts front events).foldl grow (here, around)
      = events.foldl grow (here.hold front [], around) := by
  induction events generalizing front here around with
  | nil => exact foldl_gathered front here around
  | cons event rest ih =>
      have behind (other : Event) (apart : joinTexts front (other :: rest)
            = gathered front ++ other :: joinTexts "" rest)
          : (joinTexts front (other :: rest)).foldl grow (here, around)
            = (other :: rest).foldl grow (here.hold front [], around) := by
        rw [apart, List.foldl_append, foldl_gathered, List.foldl_cons, List.foldl_cons]
        generalize grow (here.hold front [], around) other = grown
        rw [ih, hold_nothing]
      cases event with
      | text content =>
          cases content with
          | none => exact behind _ rfl
          | some text =>
              rw [joinTexts, ih, List.foldl_cons, grow, hold_hold]
              rfl
      | start tag => exact behind _ rfl
      | empty tag => exact behind _ rfl
      | close name => exact behind _ rfl

/-- A written document is read as the element of its root. -/
theorem ofEvents_document {root : Node} (formed : root.EachTag IsTag)
    : ofEvents (events (.ofText (document root))).events = root.elements := by
  rw [events_document formed, ofEvents, foldl_joinTexts, foldl_events]
  simp only [hold, List.nil_append]

end Element

end Spreadsheet.Xml

namespace Spreadsheet.Package

open Spreadsheet.Cell Spreadsheet.Sheet Spreadsheet.Xml Spreadsheet.Xml.Element

variable {p : Package} {w : Workbook} {now : Time.DateTime}

/-- The elements of a part that lie inside no other. -/
def elements (p : Package) (name : String) : List Element :=
  ((p.part? name).map fun part => Element.ofEvents (events part.content.source).events).getD []

/-- A part that was written from a tree has its root. -/
theorem elements_ofRoot {name : String} {root : Node} (formed : root.EachTag IsTag)
    (found : p.part? name = some (.ofRoot name root))
    : p.elements name = root.elements := by
  rw [elements, found]
  exact Element.ofEvents_document formed

-----------------------------------------------------------------------------------------
-- Defined names
-----------------------------------------------------------------------------------------

/-- The names that are defined in the workbook. -/
def definedNames (p : Package) : List Element :=
  named "definedName" (inside "definedNames" (inside "workbook" (p.elements "xl/workbook.xml")))

theorem name?_of_mem_filterNames {node : Node} (member : node ∈ filterNames w)
    : node.name? = some "definedName" := by
  obtain ⟨⟨s, i⟩, -, named⟩ := List.mem_filterMap.mp member
  obtain ⟨filter, -, rfl⟩ := Option.map_eq_some_iff.mp named
  rfl

/-- What is defined are the names of all filters. -/
theorem definedNames_ofWorkbook (now : Time.DateTime) (w : Workbook)
    : (ofWorkbook now w).definedNames = innerElements (filterNames w) := by
  have front (sheets : Node) (other : sheets.name? = some "sheets")
      : inside "definedNames" (innerElements
          [.element "bookViews" [] [.leaf "workbookView" [("activeTab", "0")]], sheets]) = [] := by
    rw [inside, named_innerElements_eq_nil, List.flatMap_nil]
    simp only [List.mem_cons, List.not_mem_nil, or_false, forall_eq_or_imp, forall_eq, other]
    exact ⟨by decide, by decide⟩
  have names
      : inside "definedNames" (innerElements (if (filterNames w).isEmpty then []
          else [.block step 1 "definedNames" [] (filterNames w)]))
        = innerElements (filterNames w) := by
    split
    · next none => rw [List.isEmpty_iff.mp none]; rfl
    · rw [innerElements, innerElements, List.append_nil, inside_block]
  rw [definedNames, elements_ofRoot (workbookNode_eachTag w) (part?_workbook now w),
    workbookNode]
  dsimp only
  rw [inside_block, innerElements_append, inside_append, front _ rfl, names, List.nil_append,
    named_innerElements fun node member => name?_of_mem_filterNames member]

-----------------------------------------------------------------------------------------
-- Rules
-----------------------------------------------------------------------------------------

/-- The rules in the part of a sheet. -/
def rulesIn (p : Package) (path : String) : List Element :=
  named "cfRule" (inside "conditionalFormatting" (inside "worksheet" (p.elements path)))

/-- The names of the elements that stand beside the rules. -/
def namesBesideRules : List String :=
  ["sheetPr", "dimension", "sheetViews", "sheetFormatPr", "cols", "sheetData", "sheetProtection",
    "autoFilter", "mergeCells", "dataValidations", "pageMargins", "pageSetup", "headerFooter",
    "drawing"]

theorem eq_of_mem_nodeIf {wanted : Bool} {node item : Node} (member : item ∈ nodeIf wanted node)
    : item = node := by
  cases wanted with
  | true => exact List.mem_singleton.mp member
  | false => cases member

theorem exists_of_mem_map_toList {a? : Option α} {f : α → β} {b : β}
    (member : b ∈ (a?.map f).toList)
    : ∃ a, b = f a := by
  rw [Option.mem_toList, Option.map_eq_some_iff] at member
  obtain ⟨a, -, same⟩ := member
  exact ⟨a, same.symm⟩

theorem name?_of_mem_front {t : StyleTable} {index : Nat} {s : Sheet} {node : Node}
    (member : node ∈ sheetPropertyNodes s ++ dimensionNodes s
      ++ [viewNode index s, sheetFormatNode s] ++ columnNodes s ++ [dataNode t index s]
      ++ protectionNodes s ++ filterNodes s ++ mergeNodes s)
    : ∃ name ∈ namesBesideRules, node.name? = some name := by
  simp only [List.mem_append, List.mem_cons, List.not_mem_nil, or_false] at member
  rcases member with (((((((member | member) | rfl | rfl) | member) | rfl) | member) | member)
    | member)
  · cases eq_of_mem_nodeIf member
    exact ⟨"sheetPr", by decide, rfl⟩
  · obtain ⟨r, rfl⟩ := exists_of_mem_map_toList member
    exact ⟨"dimension", by decide, rfl⟩
  · exact ⟨"sheetViews", by decide, rfl⟩
  · exact ⟨"sheetFormatPr", by decide, rfl⟩
  · cases eq_of_mem_nodeIf member
    exact ⟨"cols", by decide, rfl⟩
  · refine ⟨"sheetData", by decide, ?_⟩
    rw [dataNode]
    split <;> rfl
  · obtain ⟨p, rfl⟩ := exists_of_mem_map_toList member
    exact ⟨"sheetProtection", by decide, rfl⟩
  · obtain ⟨r, rfl⟩ := exists_of_mem_map_toList member
    exact ⟨"autoFilter", by decide, rfl⟩
  · cases eq_of_mem_nodeIf member
    exact ⟨"mergeCells", by decide, rfl⟩

theorem name?_of_mem_back {s : Sheet} {node : Node}
    (member : node ∈ validationNodes s ++ (pageNodes s ++ drawingNodes s))
    : ∃ name ∈ namesBesideRules, node.name? = some name := by
  simp only [pageNodes, List.mem_append, List.mem_singleton] at member
  rcases member with member | ((rfl | member) | member) | member
  · cases eq_of_mem_nodeIf member
    exact ⟨"dataValidations", by decide, rfl⟩
  · exact ⟨"pageMargins", by decide, rfl⟩
  · obtain ⟨p, rfl⟩ := exists_of_mem_map_toList member
    exact ⟨"pageSetup", by decide, rfl⟩
  · obtain ⟨h, rfl⟩ := exists_of_mem_map_toList member
    exact ⟨"headerFooter", by decide, rfl⟩
  · cases eq_of_mem_nodeIf member
    exact ⟨"drawing", by decide, rfl⟩

theorem inside_besideRules {nodes : List Node}
    (beside : ∀ node ∈ nodes, ∃ name ∈ namesBesideRules, node.name? = some name)
    : inside "conditionalFormatting" (innerElements nodes) = [] := by
  rw [inside, named_innerElements_eq_nil, List.flatMap_nil]
  intro node member same
  obtain ⟨name, known, named⟩ := beside node member
  rw [named, Option.some.injEq] at same
  exact absurd (same ▸ known) (by decide)

/-- The rules of a sheet that are written, with their positions. -/
def writtenRules (s : Sheet) : List (Rule × Nat) :=
  s.rules.zipIdx.filter (!·.1.ranges.isEmpty)

theorem name?_ruleNode (number : Option Nat) (rule : Rule)
    : (ruleNode number rule).name? = some "cfRule" := by
  rw [ruleNode]
  cases rule.condition <;> rfl

/-- The rules of a sheet stand in its part in their order. -/
theorem rulesIn_ofWorkbook (now : Time.DateTime) {i : Nat} {s : Sheet}
    (found : w.sheets[i]? = some s)
    : (ofWorkbook now w).rulesIn (sheetPath i)
      = (writtenRules s).flatMap fun entry =>
        (ruleNode ((StyleTable.ofWorkbook w).ruleNumber? i entry.2) entry.1).elements := by
  have place : (ofWorkbook now w).part? (sheetPath i) = _ := part?_sheet found
  have part := elements_ofRoot (sheetNode_eachTag (StyleTable.ofWorkbook w) i s) place
  have rules
      : inside "conditionalFormatting" (innerElements (ruleNodes (StyleTable.ofWorkbook w) i s))
        = innerElements ((writtenRules s).map fun entry =>
          ruleNode ((StyleTable.ofWorkbook w).ruleNumber? i entry.2) entry.1) := by
    rw [ruleNodes, ← writtenRules]
    induction writtenRules s with
    | nil => rfl
    | cons entry rest ih =>
        rw [List.map_cons, innerElements, inside_append, inside_block, ih, List.map_cons,
          innerElements, innerElements, innerElements, List.append_nil]
  rw [rulesIn, part, sheetNode, inside_block]
  rw [List.append_assoc _ (pageNodes s), List.append_assoc _ (validationNodes s),
    innerElements_append, innerElements_append, inside_append, inside_append,
    inside_besideRules fun node member => name?_of_mem_front member,
    inside_besideRules fun node member => name?_of_mem_back member, rules, List.nil_append,
    List.append_nil, named_innerElements, innerElements_eq_flatMap, List.flatMap_map]
  intro node member
  obtain ⟨entry, -, rfl⟩ := List.mem_map.mp member
  exact name?_ruleNode _ _

end Spreadsheet.Package
