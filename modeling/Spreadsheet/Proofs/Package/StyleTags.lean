import Spreadsheet.Proofs.Package.WrittenTags

/-! The tags of the document of styles have names and distinct attributes.
-/

namespace Spreadsheet.Package

open Spreadsheet.Style Spreadsheet.Xml

variable {property : String → List (String × String) → Prop}

/-- An element that may be missing is written well if it is when it is there. -/
theorem eachTag_of_mem_nodeIf {wanted : Bool} {node item : Node}
    (member : item ∈ nodeIf wanted node) (each : node.EachTag property)
    : item.EachTag property := by
  cases wanted with
  | true =>
      cases List.mem_singleton.mp member
      exact each
  | false => cases member

/-- A color is one tag with one attribute. -/
theorem colorNode_eachTag {name : String} (color : Color)
    (tag : ∀ key value, key ∈ ["indexed", "rgb"] → property name [(key, value)])
    : (colorNode name color).EachTag property := by
  rw [colorNode]
  split
  · exact tag _ _ (by simp)
  · exact tag _ _ (by simp)

theorem color_isTag {name : String} (named : isName name = true) (key value : String)
    (known : key ∈ ["indexed", "rgb"])
    : IsTag name [(key, value)] := by
  simp only [List.mem_cons, List.not_mem_nil, or_false] at known
  rcases known with rfl | rfl
  · exact isTag_single named (by decide) value
  · exact isTag_single named (by decide) value

-----------------------------------------------------------------------------------------
-- Slots
-----------------------------------------------------------------------------------------

/-- A tag whose name is one of some names. -/
structure IsTagOf (names : List String) (name : String) (attributes : List (String × String))
    : Prop where
  isTag : IsTag name attributes
  known : name ∈ names

def fontElements : List String := ["font", "b", "i", "u", "sz", "color", "name"]

def fillElements : List String := ["fill", "patternFill", "fgColor", "bgColor"]

def borderElements : List String :=
  ["border", "left", "right", "top", "bottom", "color", "diagonal"]

/-- The elements in the style of a rule. -/
def ruleStyleElements : List String :=
  ["dxf", "numFmt"] ++ (fontElements ++ fillElements ++ borderElements)

section Named

variable {known : List String} {name : String}

theorem isTagOf_of_names {attributes : List (String × String)} (names : List String)
    (same : attributes.map (·.1) = names)
    (named : (isName name && names.all isName && decide names.Nodup) = true) (listed : name ∈ known)
    : IsTagOf known name attributes :=
  ⟨isTag_of_names names same named, listed⟩

theorem colorNode_isTagOf (color : Color) (named : isName name = true) (listed : name ∈ known)
    : (colorNode name color).EachTag (IsTagOf known) :=
  colorNode_eachTag color fun key value member => ⟨color_isTag named key value member, listed⟩

/-- More names may be used than those that are. -/
theorem eachTag_isTagOf_mono {node : Node} (each : node.EachTag (IsTagOf known))
    {others : List String} (more : known ⊆ others)
    : node.EachTag (IsTagOf others) :=
  each.mono fun _ _ tag => ⟨tag.isTag, more tag.known⟩

theorem isTag_of_isTagOf {node : Node} (each : node.EachTag (IsTagOf known))
    : node.EachTag IsTag :=
  each.mono fun _ _ => IsTagOf.isTag

end Named

theorem fontNode_isTagOf (font : Font) : (fontNode font).EachTag (IsTagOf fontElements) := by
  refine eachTag_element (isTagOf_of_names [] rfl (by decide) (by decide)) ?_
  intro item member
  simp only [List.mem_append, List.mem_singleton] at member
  rcases member with ((((member | member) | member) | rfl) | member) | rfl
  · exact eachTag_of_mem_nodeIf member (isTagOf_of_names [] rfl (by decide) (by decide))
  · exact eachTag_of_mem_nodeIf member (isTagOf_of_names [] rfl (by decide) (by decide))
  · exact eachTag_of_mem_nodeIf member (isTagOf_of_names [] rfl (by decide) (by decide))
  · exact isTagOf_of_names ["val"] rfl (by decide) (by decide)
  · exact eachTag_of_mem_nodeIf member (colorNode_isTagOf _ (by decide) (by decide))
  · exact isTagOf_of_names ["val"] rfl (by decide) (by decide)

theorem patternNode_isTagOf {name : String} {colors : List Node}
    (each : ∀ color ∈ colors, color.EachTag (IsTagOf fillElements))
    : (patternNode name colors).EachTag (IsTagOf fillElements) := by
  refine eachTag_element (isTagOf_of_names [] rfl (by decide) (by decide)) ?_
  intro item member
  cases List.mem_singleton.mp member
  split
  · exact isTagOf_of_names ["patternType"] rfl (by decide) (by decide)
  · exact eachTag_element (isTagOf_of_names ["patternType"] rfl (by decide) (by decide)) each

theorem patternNode_isTagOf_pair {name : String} {front back : Node}
    (first : front.EachTag (IsTagOf fillElements)) (second : back.EachTag (IsTagOf fillElements))
    : (patternNode name [front, back]).EachTag (IsTagOf fillElements) :=
  patternNode_isTagOf (List.forall_mem_cons.mpr ⟨first, List.forall_mem_singleton.mpr second⟩)

theorem fillNode_isTagOf (fill : Fill) : (fillNode fill).EachTag (IsTagOf fillElements) := by
  cases fill with
  | none => exact patternNode_isTagOf nofun
  | solid color =>
      exact patternNode_isTagOf_pair (colorNode_isTagOf _ (by decide) (by decide))
        (isTagOf_of_names ["indexed"] rfl (by decide) (by decide))
  | pattern pattern foreground background =>
      exact patternNode_isTagOf_pair (colorNode_isTagOf _ (by decide) (by decide))
        (colorNode_isTagOf _ (by decide) (by decide))

theorem ruleFillNode_isTagOf (fill : Fill)
    : (ruleFillNode fill).EachTag (IsTagOf fillElements) := by
  cases fill with
  | none => exact fillNode_isTagOf .none
  | solid color =>
      exact patternNode_isTagOf_pair (colorNode_isTagOf _ (by decide) (by decide))
        (colorNode_isTagOf _ (by decide) (by decide))
  | pattern pattern foreground background => exact fillNode_isTagOf (.pattern _ _ _)

theorem edgeNode_isTagOf {name : String} (named : isName name = true)
    (listed : name ∈ borderElements) (edge : Option Edge)
    : (edgeNode name edge).EachTag (IsTagOf borderElements) := by
  cases edge with
  | none => exact ⟨⟨named, nofun, List.nodup_nil⟩, listed⟩
  | some edge =>
      refine eachTag_element ⟨isTag_single named (by decide) _, listed⟩ fun item member => ?_
      cases List.mem_singleton.mp member
      exact colorNode_isTagOf _ (by decide) (by decide)

theorem borderNode_isTagOf (border : Border)
    : (borderNode border).EachTag (IsTagOf borderElements) := by
  refine eachTag_element (isTagOf_of_names [] rfl (by decide) (by decide)) ?_
  intro item member
  simp only [List.mem_cons, List.not_mem_nil, or_false] at member
  rcases member with rfl | rfl | rfl | rfl | rfl
  · exact edgeNode_isTagOf (by decide) (by decide) _
  · exact edgeNode_isTagOf (by decide) (by decide) _
  · exact edgeNode_isTagOf (by decide) (by decide) _
  · exact edgeNode_isTagOf (by decide) (by decide) _
  · exact isTagOf_of_names [] rfl (by decide) (by decide)

theorem alignmentNode_eachTag (a : Style.Alignment) : (alignmentNode a).EachTag IsTag :=
  (((NamedAmong.attributeIf _ _ _).append (.attributeIf _ _ _)).append (.flag _ _)).isTag
    (by decide)

theorem formatNode_eachTag (number : Nat) (code : String)
    : (formatNode number code).EachTag IsTag :=
  isTag_of_names ["numFmtId", "formatCode"] rfl (by decide)

-----------------------------------------------------------------------------------------
-- Styles
-----------------------------------------------------------------------------------------

theorem cellStyleNode_eachTag (style : Style) (numbers : StyleNumbers)
    : (cellStyleNode style numbers).EachTag IsTag := by
  have fixed : NamedAmong ["numFmtId", "fontId", "fillId", "borderId", "xfId"]
      [("numFmtId", Nat.repr numbers.format), ("fontId", Nat.repr numbers.font),
        ("fillId", Nat.repr numbers.fill), ("borderId", Nat.repr numbers.border),
        ("xfId", "0")] := .exactly _ rfl
  have among := fun a b c d e =>
    ((((fixed.append (.flag "applyNumberFormat" a)).append (.flag "applyFont" b)).append
      (.flag "applyFill" c)).append (.flag "applyBorder" d)).append (.flag "applyAlignment" e)
  rw [cellStyleNode]
  dsimp only
  split
  · exact (among _ _ _ _ _).isTag (by decide)
  · refine eachTag_element ((among _ _ _ _ _).isTag (by decide)) fun item member => ?_
    cases List.mem_singleton.mp member
    exact alignmentNode_eachTag _

theorem ruleStyleNode_isTagOf (style : Style)
    : (ruleStyleNode style).EachTag (IsTagOf ruleStyleElements) := by
  refine eachTag_element (isTagOf_of_names [] rfl (by decide) (by decide)) ?_
  intro item member
  simp only [List.mem_append] at member
  rcases member with ((member | member) | member) | member
  · exact eachTag_of_mem_nodeIf member (eachTag_isTagOf_mono (fontNode_isTagOf _) (by decide))
  · exact eachTag_of_mem_nodeIf member ⟨formatNode_eachTag _ _, by decide⟩
  · exact eachTag_of_mem_nodeIf member (eachTag_isTagOf_mono (ruleFillNode_isTagOf _) (by decide))
  · exact eachTag_of_mem_nodeIf member (eachTag_isTagOf_mono (borderNode_isTagOf _) (by decide))

theorem listNode_eachTag {name : String} (named : isName name = true) {items : List Node}
    (each : ∀ item ∈ items, item.EachTag IsTag)
    : (listNode name items).EachTag IsTag :=
  eachTag_block (isTag_single named (by decide) _) each

theorem fillNodes_eachTag {fills : List Fill} {item : Node} (member : item ∈ fillNodes fills)
    : item.EachTag IsTag := by
  obtain ⟨⟨fill, i⟩, -, rfl⟩ := List.mem_map.mp member
  dsimp only
  split
  · exact isTag_of_isTagOf (patternNode_isTagOf nofun)
  · exact isTag_of_isTagOf (fillNode_isTagOf fill)

theorem styleSheetNode_eachTag (t : StyleTable) : (styleSheetNode t).EachTag IsTag := by
  refine eachTag_block (isTag_of_names ["xmlns"] rfl (by decide)) ?_
  intro item member
  rw [List.mem_append] at member
  rcases member with member | member
  · refine eachTag_of_mem_nodeIf member (listNode_eachTag (by decide) ?_)
    intro code member
    obtain ⟨⟨code, i⟩, -, rfl⟩ := List.mem_map.mp member
    exact formatNode_eachTag _ _
  · simp only [List.mem_cons, List.not_mem_nil, or_false] at member
    rcases member with rfl | rfl | rfl | rfl | rfl | rfl | rfl | rfl
    · refine listNode_eachTag (by decide) fun item member => ?_
      obtain ⟨font, -, rfl⟩ := List.mem_map.mp member
      exact isTag_of_isTagOf (fontNode_isTagOf font)
    · exact listNode_eachTag (by decide) fun item member => fillNodes_eachTag member
    · refine listNode_eachTag (by decide) fun item member => ?_
      obtain ⟨border, -, rfl⟩ := List.mem_map.mp member
      exact isTag_of_isTagOf (borderNode_isTagOf border)
    · refine listNode_eachTag (by decide) fun item member => ?_
      cases List.mem_singleton.mp member
      exact isTag_of_names ["numFmtId", "fontId", "fillId", "borderId"] rfl (by decide)
    · refine listNode_eachTag (by decide) fun item member => ?_
      rw [← List.map_uncurry_zip_eq_zipWith, List.mem_map] at member
      obtain ⟨⟨style, numbers⟩, -, rfl⟩ := member
      exact cellStyleNode_eachTag style numbers
    · refine listNode_eachTag (by decide) fun item member => ?_
      cases List.mem_singleton.mp member
      exact isTag_of_names ["name", "xfId", "builtinId"] rfl (by decide)
    · rw [listOrLeaf]
      split
      · exact isTag_of_names ["count"] rfl (by decide)
      · refine listNode_eachTag (by decide) fun item member => ?_
        obtain ⟨style, -, rfl⟩ := List.mem_map.mp member
        exact isTag_of_isTagOf (ruleStyleNode_isTagOf style)
    · exact isTag_of_names ["count", "defaultTableStyle", "defaultPivotStyle"] rfl
        (by decide)

end Spreadsheet.Package
