import Spreadsheet.Package.PropertiesPart
import Spreadsheet.Package.Writer
import Spreadsheet.Proofs.Xml.DocumentReading

/-! The tags of written parts have names and distinct attributes, whatever the texts in them.
-/

namespace Spreadsheet

-----------------------------------------------------------------------------------------
-- Names of attributes
-----------------------------------------------------------------------------------------

namespace Xml

/-- The attributes have names out of a list, each once at most. -/
def NamedAmong (names : List String) (attributes : List (String × String)) : Prop :=
  (attributes.map (·.1)).Sublist names

namespace NamedAmong

variable {names names' : List String} {attributes attributes' : List (String × String)}

theorem exactly (names : List String) (same : attributes.map (·.1) = names)
    : NamedAmong names attributes := by
  cases same
  exact .refl _

theorem append (left : NamedAmong names attributes) (right : NamedAmong names' attributes')
    : NamedAmong (names ++ names') (attributes ++ attributes') := by
  rw [NamedAmong, List.map_append]
  exact List.Sublist.append left right

theorem attributeIf (wanted : Bool) (name value : String)
    : NamedAmong [name] (attributeIf wanted name value) := by
  cases wanted
  · exact List.nil_sublist _
  · exact .refl _

theorem flag (name : String) (on : Bool) : NamedAmong [name] (flag name on) :=
  .attributeIf on name "1"

theorem attribute? (name : String) (value : Option String)
    : NamedAmong [name] (attribute? name value) := by
  cases value
  · exact List.nil_sublist _
  · exact .refl _

/-- A tag with a name is one if its attributes are named by a list of distinct names. -/
theorem isTag {name : String} (among : NamedAmong names attributes)
    (named : (isName name && names.all isName && decide names.Nodup) = true)
    : IsTag name attributes := by
  rw [Bool.and_eq_true, Bool.and_eq_true, List.all_eq_true, decide_eq_true_eq] at named
  obtain ⟨⟨tag, each⟩, distinct⟩ := named
  refine ⟨tag, fun a member => ?_, distinct.sublist among⟩
  exact each a.1 (among.subset (List.mem_map_of_mem member))

end NamedAmong

/-- A tag with fixed attributes is one if their names are distinct. -/
theorem isTag_of_names {name : String} {attributes : List (String × String)} (names : List String)
    (same : attributes.map (·.1) = names)
    (named : (isName name && names.all isName && decide names.Nodup) = true)
    : IsTag name attributes :=
  (NamedAmong.exactly names same).isTag named

/-- A tag whose only attribute has a name is one. -/
theorem isTag_single {name key : String} (named : isName name = true) (keyed : isName key = true)
    (value : String)
    : IsTag name [(key, value)] := by
  refine ⟨named, fun a member => ?_, by simp⟩
  cases List.mem_singleton.mp member
  exact keyed

-----------------------------------------------------------------------------------------
-- Elements
-----------------------------------------------------------------------------------------

variable {property property' : String → List (String × String) → Prop} {name : String}
  {attributes : List (String × String)}

mutual

theorem Node.EachTag.mono
    (weaker : ∀ name attributes, property name attributes → property' name attributes)
    {node : Node} (each : node.EachTag property)
    : node.EachTag property' := by
  cases node with
  | text content => trivial
  | plain content => trivial
  | leaf name attributes => exact weaker _ _ each
  | element name attributes content => exact ⟨weaker _ _ each.1, EachTagOf.mono weaker each.2⟩

theorem EachTagOf.mono
    (weaker : ∀ name attributes, property name attributes → property' name attributes)
    {nodes : List Node} (each : EachTagOf property nodes)
    : EachTagOf property' nodes := by
  cases nodes with
  | nil => trivial
  | cons node rest => exact ⟨Node.EachTag.mono weaker each.1, EachTagOf.mono weaker each.2⟩

end

theorem eachTag_element {content : List Node} (tag : property name attributes)
    (inner : ∀ node ∈ content, node.EachTag property)
    : (Node.element name attributes content).EachTag property :=
  ⟨tag, eachTagOf_iff.mpr inner⟩

theorem eachTag_textual {content : String} (tag : property name [])
    : (Node.textual name content).EachTag property :=
  ⟨tag, trivial, trivial⟩

/-- A text that may be missing stands in an element without attributes. -/
theorem eachTag_of_mem_textual {text : Option String} {node : Node} (tag : property name [])
    (member : node ∈ (text.map (Node.textual name)).toList)
    : node.EachTag property := by
  obtain ⟨content, -, rfl⟩ := Option.map_eq_some_iff.mp (Option.mem_toList.mp member)
  exact eachTag_textual tag

/-- An element around a single node. -/
theorem eachTag_around {inner : Node} (tag : property name attributes)
    (inside : inner.EachTag property)
    : (Node.element name attributes [inner]).EachTag property :=
  ⟨tag, inside, trivial⟩

theorem eachTag_block {step depth : Nat} {items : List Node} (tag : property name attributes)
    (inner : ∀ item ∈ items, item.EachTag property)
    : (Node.block step depth name attributes items).EachTag property := by
  refine eachTag_element tag fun node member => ?_
  rw [List.mem_append, List.mem_flatMap, List.mem_singleton] at member
  rcases member with ⟨item, inside, member⟩ | rfl
  · simp only [List.mem_cons, List.not_mem_nil, or_false] at member
    rcases member with rfl | rfl
    · trivial
    · exact inner _ inside
  · trivial

end Xml

namespace Package

open Spreadsheet.Xml

-----------------------------------------------------------------------------------------
-- Relationships and properties
-----------------------------------------------------------------------------------------

theorem relationshipsNode_eachTag (list : List Relationship)
    : (relationshipsNode list).EachTag IsTag := by
  refine eachTag_block (isTag_of_names ["xmlns"] rfl (by decide)) ?_
  intro item member
  obtain ⟨r, -, rfl⟩ := List.mem_map.mp member
  exact isTag_of_names ["Id", "Type", "Target"] rfl (by decide)

theorem workbookNode_eachTag (w : Workbook) : (workbookNode w).EachTag IsTag := by
  refine eachTag_block (isTag_of_names ["xmlns", "xmlns:r"] rfl (by decide)) ?_
  intro item member
  rw [List.mem_append, List.mem_cons, List.mem_singleton] at member
  rcases member with (rfl | rfl) | member
  · refine eachTag_element (isTag_of_names [] rfl (by decide)) ?_
    intro view member
    cases List.mem_singleton.mp member
    exact isTag_of_names ["activeTab"] rfl (by decide)
  · refine eachTag_block (isTag_of_names [] rfl (by decide)) ?_
    intro entry member
    obtain ⟨⟨s, i⟩, -, rfl⟩ := List.mem_map.mp member
    exact isTag_of_names ["name", "sheetId", "r:id"] rfl (by decide)
  · split at member
    · cases member
    · cases List.mem_singleton.mp member
      refine eachTag_block (isTag_of_names [] rfl (by decide)) ?_
      intro name member
      obtain ⟨⟨s, i⟩, -, named⟩ := List.mem_filterMap.mp member
      obtain ⟨filter, -, rfl⟩ := Option.map_eq_some_iff.mp named
      refine eachTag_element (isTag_of_names ["name", "localSheetId", "hidden"] rfl (by decide)) ?_
      intro text member
      simp only [List.mem_cons, List.not_mem_nil, or_false] at member
      rcases member with rfl | rfl | rfl <;> trivial

theorem coreNode_eachTag (now : Time.DateTime) (p : Properties)
    : (coreNode now p).EachTag IsTag := by
  refine eachTag_block (isTag_of_names
    ["xmlns:cp", "xmlns:dc", "xmlns:dcterms", "xmlns:dcmitype", "xmlns:xsi"] rfl (by decide)) ?_
  intro item member
  have part {name : String} {text : Option String} (named : isName name = true)
      (member : item ∈ (text.map (Node.textual name)).toList)
      : item.EachTag IsTag :=
    eachTag_of_mem_textual ⟨named, nofun, List.nodup_nil⟩ member
  simp only [List.mem_append, List.mem_cons, List.not_mem_nil, or_false] at member
  rcases member with ((((((member | member) | member) | member) | member) | member) | member)
    | rfl | rfl
  · exact part (by decide) member
  · exact part (by decide) member
  · exact part (by decide) member
  · exact part (by decide) member
  · exact part (by decide) member
  · exact part (by decide) member
  · exact part (by decide) member
  · exact ⟨isTag_of_names ["xsi:type"] rfl (by decide), trivial, trivial⟩
  · exact ⟨isTag_of_names ["xsi:type"] rfl (by decide), trivial, trivial⟩

theorem appNode_eachTag (w : Workbook) : (appNode w).EachTag IsTag := by
  refine eachTag_block (isTag_of_names ["xmlns", "xmlns:vt"] rfl (by decide)) ?_
  intro item member
  simp only [List.mem_append, List.mem_cons, List.not_mem_nil, or_false] at member
  rcases member with (rfl | member) | rfl
  · exact eachTag_textual (isTag_of_names [] rfl (by decide))
  · exact eachTag_of_mem_textual (isTag_of_names [] rfl (by decide)) member
  · refine eachTag_around (isTag_of_names [] rfl (by decide)) ?_
    refine eachTag_element (isTag_of_names ["size", "baseType"] rfl (by decide)) ?_
    intro title member
    obtain ⟨s, -, rfl⟩ := List.mem_map.mp member
    exact eachTag_textual (isTag_of_names [] rfl (by decide))

-----------------------------------------------------------------------------------------
-- Content types and drawings
-----------------------------------------------------------------------------------------

theorem contentTypesNode_eachTag (w : Workbook) : (contentTypesNode w).EachTag IsTag := by
  refine eachTag_block (isTag_of_names ["xmlns"] rfl (by decide)) fun item member => ?_
  have default (extension type : String) : (defaultType extension type).EachTag IsTag :=
    isTag_of_names ["Extension", "ContentType"] rfl (by decide)
  have override (part type : String) : (partType part type).EachTag IsTag :=
    isTag_of_names ["PartName", "ContentType"] rfl (by decide)
  simp only [List.mem_append, List.mem_cons, List.not_mem_nil, or_false, List.mem_map,
    List.mem_filterMap, Option.map_eq_some_iff] at member
  rcases member with ((((rfl | rfl) | ⟨format, -, rfl⟩) | rfl | rfl | rfl | rfl) | ⟨i, -, rfl⟩)
    | ⟨plan, -, numbers, -, rfl⟩
  · exact default _ _
  · exact default _ _
  · exact default _ _
  · exact override _ _
  · exact override _ _
  · exact override _ _
  · exact override _ _
  · exact override _ _
  · exact override _ _

theorem markerNode_eachTag {name : String} (named : isName name = true) (cell : Cell.Address)
    : (markerNode name cell).EachTag IsTag := by
  refine eachTag_element ⟨named, nofun, List.nodup_nil⟩ fun item member => ?_
  simp only [List.mem_cons, List.not_mem_nil, or_false] at member
  rcases member with rfl | rfl | rfl | rfl <;>
    exact eachTag_textual (isTag_of_names [] rfl (by decide))

theorem pictureNode_eachTag (number : Nat) : (pictureNode number).EachTag IsTag := by
  have plain {name : String} (named : isName name = true) : IsTag name [] :=
    ⟨named, nofun, List.nodup_nil⟩
  exact ⟨plain (by decide),
    ⟨plain (by decide), isTag_of_names ["id", "name"] rfl (by decide),
      ⟨plain (by decide), isTag_single (by decide) (by decide) _, trivial⟩, trivial⟩,
    ⟨plain (by decide), isTag_single (by decide) (by decide) _,
      ⟨plain (by decide), plain (by decide), trivial⟩, trivial⟩,
    ⟨plain (by decide),
      ⟨plain (by decide), isTag_of_names ["x", "y"] rfl (by decide),
        isTag_of_names ["cx", "cy"] rfl (by decide), trivial⟩,
      ⟨isTag_single (by decide) (by decide) _, plain (by decide), trivial⟩, trivial⟩, trivial⟩

theorem drawingNode_eachTag (pictures : List Sheet.Picture)
    : (drawingNode pictures).EachTag IsTag := by
  refine eachTag_element (isTag_of_names ["xmlns:xdr", "xmlns:a", "xmlns:r"] rfl (by decide))
    fun item member => ?_
  obtain ⟨⟨p, i⟩, -, rfl⟩ := List.mem_map.mp member
  refine eachTag_element (isTag_single (by decide) (by decide) _) fun part member => ?_
  simp only [List.mem_cons, List.not_mem_nil, or_false] at member
  rcases member with rfl | rfl | rfl | rfl
  · exact markerNode_eachTag (by decide) _
  · exact markerNode_eachTag (by decide) _
  · exact pictureNode_eachTag _
  · exact isTag_of_names [] rfl (by decide)

end Package

end Spreadsheet
