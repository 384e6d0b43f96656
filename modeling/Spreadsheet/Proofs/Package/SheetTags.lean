import Spreadsheet.Proofs.Package.StyleTags

/-! The tags of the documents of sheets have names and distinct attributes. Most of them are
passed over when a sheet is read.
-/

namespace Spreadsheet.Package

open Spreadsheet.Cell Spreadsheet.Sheet Spreadsheet.Xml

/-- The elements that sheets are read from. -/
def readElements : List String :=
  ["row", "c", "v", "f", "t", "col", "pane", "mergeCell", "autoFilter"]

/-- A tag that is not that of a drawing and has no id of one. -/
structure IsInner (name : String) (attributes : List (String × String)) : Prop where
  isTag : IsTag name attributes
  ne_drawing : name ≠ "drawing"
  unlinked : "r:id" ∉ attributes.map (·.1)

/-- A tag that is passed over when a sheet is read. -/
structure IsQuiet (name : String) (attributes : List (String × String)) : Prop where
  isInner : IsInner name attributes
  unread : name ∉ readElements

section Named

variable {name : String} {attributes : List (String × String)}

/-- The names of a tag and of its attributes are written well and are not those of a drawing. -/
def isInnerNamed (name : String) (names : List String) : Bool :=
  isName name && names.all isName && decide names.Nodup && name != "drawing"
    && !names.contains "r:id"

theorem isInner_of_among {names : List String} (among : NamedAmong names attributes)
    (named : isInnerNamed name names = true)
    : IsInner name attributes := by
  rw [isInnerNamed, Bool.and_eq_true, Bool.and_eq_true, bne_iff_ne, Bool.not_eq_true',
    List.contains_eq_mem, decide_eq_false_iff_not] at named
  exact ⟨among.isTag named.1.1, named.1.2, fun member => named.2 (among.subset member)⟩

theorem isInner_of_names (names : List String) (same : attributes.map (·.1) = names)
    (named : isInnerNamed name names = true)
    : IsInner name attributes :=
  isInner_of_among (.exactly names same) named

theorem isQuiet_of_among {names : List String} (among : NamedAmong names attributes)
    (named : isInnerNamed name names = true) (unread : name ∉ readElements)
    : IsQuiet name attributes :=
  ⟨isInner_of_among among named, unread⟩

theorem isQuiet_of_names (names : List String) (same : attributes.map (·.1) = names)
    (named : isInnerNamed name names = true) (unread : name ∉ readElements)
    : IsQuiet name attributes :=
  ⟨isInner_of_names names same named, unread⟩

end Named

-----------------------------------------------------------------------------------------
-- What is passed over
-----------------------------------------------------------------------------------------

theorem levelAttribute_names (name : String) (level : Nat)
    : NamedAmong [name] (levelAttribute name level) := .attributeIf _ _ _

theorem sheetPropertyNodes_quiet {s : Sheet} {node : Node} (member : node ∈ sheetPropertyNodes s)
    : node.EachTag IsQuiet := by
  refine eachTag_of_mem_nodeIf member ?_
  exact eachTag_around (isQuiet_of_names [] rfl (by decide) (by decide))
    (isQuiet_of_names ["fitToPage"] rfl (by decide) (by decide))

theorem dimensionNodes_quiet {s : Sheet} {node : Node} (member : node ∈ dimensionNodes s)
    : node.EachTag IsQuiet := by
  obtain ⟨r, -, rfl⟩ := Option.map_eq_some_iff.mp (Option.mem_toList.mp member)
  exact isQuiet_of_names ["ref"] rfl (by decide) (by decide)

theorem sheetFormatNode_quiet (s : Sheet) : (sheetFormatNode s).EachTag IsQuiet := by
  have fixed : NamedAmong ["defaultRowHeight"] [("defaultRowHeight", "15")] := .exactly _ rfl
  exact isQuiet_of_among ((fixed.append (levelAttribute_names _ _)).append
    (levelAttribute_names _ _)) (by decide) (by decide)

theorem protectionNodes_quiet {s : Sheet} {node : Node} (member : node ∈ protectionNodes s)
    : node.EachTag IsQuiet := by
  obtain ⟨p, -, rfl⟩ := Option.map_eq_some_iff.mp (Option.mem_toList.mp member)
  have password := NamedAmong.attribute? "password" (p.hash?.map hashText)
  have fixed : NamedAmong ["sheet", "objects", "scenarios"]
      [("sheet", "1"), ("objects", "1"), ("scenarios", "1")] := .exactly _ rfl
  have among := (((((((password.append fixed).append
    (.attributeIf p.formatCells "formatCells" "0")).append
    (.attributeIf p.formatColumns "formatColumns" "0")).append
    (.attributeIf p.formatRows "formatRows" "0")).append
    (.attributeIf p.insertColumns "insertColumns" "0")).append
    (.attributeIf p.insertRows "insertRows" "0")).append
    (.attributeIf p.deleteColumns "deleteColumns" "0")).append
    (.attributeIf p.deleteRows "deleteRows" "0")
  exact isQuiet_of_among among (by decide) (by decide)

-----------------------------------------------------------------------------------------
-- Rules
-----------------------------------------------------------------------------------------

theorem thresholdNode_quiet (t : Threshold) : (thresholdNode t).EachTag IsQuiet := by
  have fixed : NamedAmong ["type"] [("type", t.kind.name)] := .exactly _ rfl
  exact isQuiet_of_among (fixed.append (.attribute? _ _)) (by decide) (by decide)

theorem colorNode_quiet (color : Style.Color) : (colorNode "color" color).EachTag IsQuiet := by
  refine colorNode_eachTag color fun key value known => ?_
  have other : "r:id" ∉ [key] := fun same =>
    absurd (List.mem_singleton.mp same ▸ known) (by decide)
  exact ⟨⟨color_isTag (by decide) key value known, by decide, other⟩, by decide⟩

theorem dataBarNode_quiet (bar : DataBar) : (dataBarNode bar).EachTag IsQuiet := by
  refine eachTag_element (isQuiet_of_among (((NamedAmong.attribute? _ _).append
    (.attribute? _ _)).append (.attributeIf _ _ _)) (by decide) (by decide)) ?_
  intro item member
  simp only [List.mem_cons, List.not_mem_nil, or_false] at member
  rcases member with rfl | rfl | rfl
  · exact thresholdNode_quiet _
  · exact thresholdNode_quiet _
  · exact colorNode_quiet _

theorem formula_isQuiet : IsQuiet "formula" [] := isQuiet_of_names [] rfl (by decide) (by decide)

theorem colorScale_quiet (stops : List ColorStop)
    : (Node.element "colorScale" [] (stops.map (fun s => thresholdNode s.threshold) ++
        stops.map fun s => colorNode "color" s.color)).EachTag IsQuiet := by
  refine eachTag_element (isQuiet_of_names [] rfl (by decide) (by decide)) ?_
  intro stop member
  rw [List.mem_append, List.mem_map, List.mem_map] at member
  rcases member with ⟨s, -, rfl⟩ | ⟨s, -, rfl⟩
  · exact thresholdNode_quiet _
  · exact colorNode_quiet _

theorem iconSet_quiet {name : String} {thresholds : List Threshold} {reversed hidden : Bool}
    : (Node.element "iconSet" ([("iconSet", name)] ++ flag "reverse" reversed ++
        attributeIf hidden "showValue" "0") (thresholds.map thresholdNode)).EachTag IsQuiet := by
  have set : NamedAmong ["iconSet"] [("iconSet", name)] := .exactly _ rfl
  refine eachTag_element (isQuiet_of_among ((set.append (.flag _ _)).append
    (.attributeIf _ _ _)) (by decide) (by decide)) ?_
  intro threshold member
  obtain ⟨t, -, rfl⟩ := List.mem_map.mp member
  exact thresholdNode_quiet t

theorem ruleNode_quiet (number : Option Nat) (rule : Rule)
    : (ruleNode number rule).EachTag IsQuiet := by
  have fixed : NamedAmong ["type", "priority"] [("type", rule.condition.kindName),
      ("priority", Nat.repr (max rule.priority 1))] := .exactly _ rfl
  have head := fixed.append (.flag "stopIfTrue" rule.stopIfTrue)
  have styled := head.append (.attribute? "dxfId" (number.map Nat.repr))
  unfold ruleNode
  dsimp only
  split
  · next comparison first second _ =>
      have operator : NamedAmong ["operator"] [("operator", comparison.name)] := .exactly _ rfl
      refine eachTag_element (isQuiet_of_among (styled.append operator) (by decide)
        (by decide)) ?_
      intro item member
      rw [List.mem_cons] at member
      rcases member with rfl | member
      · exact eachTag_textual formula_isQuiet
      · exact eachTag_of_mem_textual formula_isQuiet member
  · next formula _ =>
      exact eachTag_around (isQuiet_of_among styled (by decide) (by decide))
        (eachTag_textual formula_isQuiet)
  · next text _ =>
      have operator : NamedAmong ["operator", "text"]
          [("operator", "containsText"), ("text", text)] :=
        .exactly _ rfl
      exact eachTag_around (isQuiet_of_among (styled.append operator) (by decide) (by decide))
        ⟨formula_isQuiet, trivial, trivial, trivial, trivial⟩
  · next stops _ =>
      exact eachTag_around (isQuiet_of_among head (by decide) (by decide)) (colorScale_quiet stops)
  · next bar _ =>
      exact eachTag_around (isQuiet_of_among head (by decide) (by decide)) (dataBarNode_quiet bar)
  · next icons thresholds reversed showValue _ =>
      exact eachTag_around (isQuiet_of_among head (by decide) (by decide)) iconSet_quiet

theorem ruleNodes_quiet {t : StyleTable} {index : Nat} {s : Sheet} {node : Node}
    (member : node ∈ ruleNodes t index s)
    : node.EachTag IsQuiet := by
  obtain ⟨⟨rule, i⟩, -, rfl⟩ := List.mem_map.mp member
  refine eachTag_block (isQuiet_of_names ["sqref"] rfl (by decide) (by decide)) ?_
  intro item member
  cases List.mem_singleton.mp member
  exact ruleNode_quiet _ rule

-----------------------------------------------------------------------------------------
-- Validations and pages
-----------------------------------------------------------------------------------------

theorem validationNode_quiet (v : Validation) : (validationNode v).EachTag IsQuiet := by
  have type : NamedAmong ["type"] [("type", v.kind.name)] := .exactly _ rfl
  have operator := NamedAmong.attributeIf v.usesComparison "operator" v.comparison.name
  have sqref : NamedAmong ["sqref"] [("sqref", rangesText v.ranges)] := .exactly _ rfl
  have among := ((((((((type.append operator).append
    (.flag "allowBlank" v.allowBlank)).append (.flag "showInputMessage" v.showInput)).append
    (.flag "showErrorMessage" v.showError)).append (.attribute? "errorTitle" v.errorTitle)).append
    (.attribute? "error" v.error)).append (.attribute? "promptTitle" v.promptTitle)).append
    (.attribute? "prompt" v.prompt)).append sqref
  refine eachTag_element (isQuiet_of_among among (by decide) (by decide)) ?_
  intro item member
  rw [List.mem_append] at member
  rcases member with member | member
  · exact eachTag_of_mem_textual (isQuiet_of_names [] rfl (by decide) (by decide)) member
  · exact eachTag_of_mem_textual (isQuiet_of_names [] rfl (by decide) (by decide)) member

theorem validationNodes_quiet {s : Sheet} {node : Node} (member : node ∈ validationNodes s)
    : node.EachTag IsQuiet := by
  refine eachTag_of_mem_nodeIf member ?_
  refine eachTag_block (isQuiet_of_names ["count"] rfl (by decide) (by decide)) ?_
  intro item member
  obtain ⟨v, -, rfl⟩ := List.mem_map.mp member
  exact validationNode_quiet v

theorem headerFooterNode_quiet (h : HeaderFooter) : (headerFooterNode h).EachTag IsQuiet := by
  refine eachTag_element (isQuiet_of_among (.flag _ _) (by decide) (by decide)) ?_
  intro item member
  simp only [List.mem_append] at member
  rcases member with ((member | member) | member) | member
  · exact eachTag_of_mem_textual (isQuiet_of_names [] rfl (by decide) (by decide)) member
  · exact eachTag_of_mem_textual (isQuiet_of_names [] rfl (by decide) (by decide)) member
  · exact eachTag_of_mem_textual (isQuiet_of_names [] rfl (by decide) (by decide)) member
  · exact eachTag_of_mem_textual (isQuiet_of_names [] rfl (by decide) (by decide)) member

theorem pageNodes_quiet {s : Sheet} {node : Node} (member : node ∈ pageNodes s)
    : node.EachTag IsQuiet := by
  simp only [pageNodes, List.mem_append, List.mem_singleton] at member
  rcases member with (rfl | member) | member
  · exact isQuiet_of_names ["left", "right", "top", "bottom", "header", "footer"] rfl
      (by decide) (by decide)
  · obtain ⟨p, -, rfl⟩ := Option.map_eq_some_iff.mp (Option.mem_toList.mp member)
    have orientation : NamedAmong ["orientation"] [("orientation", p.orientation.name)] :=
      .exactly _ rfl
    exact isQuiet_of_among ((((NamedAmong.attribute? _ _).append (.attribute? _ _)).append
      (.attribute? _ _)).append orientation) (by decide) (by decide)
  · obtain ⟨h, -, rfl⟩ := Option.map_eq_some_iff.mp (Option.mem_toList.mp member)
    exact headerFooterNode_quiet h

-----------------------------------------------------------------------------------------
-- Whole sheets
-----------------------------------------------------------------------------------------

theorem viewNode_inner (index : Nat) (s : Sheet) : (viewNode index s).EachTag IsInner := by
  have id : NamedAmong ["workbookViewId"] [("workbookViewId", "0")] := .exactly _ rfl
  have among := (NamedAmong.flag "tabSelected" (index == 0)).append id
  refine eachTag_element (isInner_of_names [] rfl (by decide)) fun item member => ?_
  cases List.mem_singleton.mp member
  split
  · exact isInner_of_among among (by decide)
  · next f _ =>
      refine eachTag_element (isInner_of_among among (by decide)) fun part member => ?_
      simp only [freezeNodes, List.mem_cons, List.not_mem_nil, or_false] at member
      rcases member with rfl | rfl
      · have fixed : NamedAmong ["topLeftCell", "activePane", "state"]
            [("topLeftCell", f.topLeftCell.text), ("activePane", activePane f),
              ("state", "frozen")] :=
          .exactly _ rfl
        exact isInner_of_among
          (((NamedAmong.attributeIf _ _ _).append (.attributeIf _ _ _)).append fixed) (by decide)
      · exact isInner_of_names ["pane", "activeCell", "sqref"] rfl (by decide)

theorem settingAttributes_names (setting : Setting)
    : NamedAmong ["hidden", "outlineLevel", "collapsed"] (settingAttributes setting) :=
  ((NamedAmong.flag _ _).append (levelAttribute_names _ _)).append (.flag _ _)

/-- A size and a mark beside it are there together or not at all. -/
theorem sizeAttributes_names (key mark : String) (size : Option Number.Binary64)
    : NamedAmong [key, mark]
      (match size with
        | some x => [(key, x.display), (mark, "1")]
        | none => []) := by
  cases size with
  | none => exact List.nil_sublist _
  | some x => exact .exactly _ rfl

theorem columnNode_inner (column : Nat) (setting : Setting)
    : (columnNode column setting).EachTag IsInner := by
  have span : NamedAmong ["min", "max"]
      [("min", Nat.repr (column + 1)), ("max", Nat.repr (column + 1))] := .exactly _ rfl
  exact isInner_of_among ((span.append (sizeAttributes_names "width" "customWidth"
    setting.size)).append (settingAttributes_names setting)) (by decide)

theorem columnNodes_inner {s : Sheet} {node : Node} (member : node ∈ columnNodes s)
    : node.EachTag IsInner := by
  refine eachTag_of_mem_nodeIf member ?_
  refine eachTag_block (isInner_of_names [] rfl (by decide)) fun item member => ?_
  obtain ⟨⟨column, setting⟩, -, rfl⟩ := List.mem_map.mp member
  exact columnNode_inner column setting

theorem cellNode_inner {address : Address} {style : Nat} {value : Value} {node : Node}
    (member : node ∈ cellNode address style value)
    : node.EachTag IsInner := by
  have place : NamedAmong ["r"] [("r", address.text)] := .exactly _ rfl
  have attributes := place.append (.attributeIf (style != 0) "s" (Nat.repr style))
  have kind : ∀ kind : String, NamedAmong ["t"] [("t", kind)] := fun _ => .exactly _ rfl
  have inner : ∀ {name : String} {content : String}, isName name = true
      → name ≠ "drawing" → (Node.textual name content).EachTag IsInner := fun named inner =>
    eachTag_textual ⟨⟨named, nofun, List.nodup_nil⟩, inner, nofun⟩
  cases value with
  | empty => exact eachTag_of_mem_nodeIf member (isInner_of_among attributes (by decide))
  | number x =>
      cases List.mem_singleton.mp member
      exact ⟨isInner_of_among attributes (by decide), inner (by decide) (by decide), trivial⟩
  | text content =>
      cases List.mem_singleton.mp member
      exact ⟨isInner_of_among (attributes.append (kind _)) (by decide),
        ⟨isInner_of_names [] rfl (by decide),
          ⟨isInner_of_names ["xml:space"] rfl (by decide), trivial, trivial⟩, trivial⟩, trivial⟩
  | boolean b =>
      cases List.mem_singleton.mp member
      exact ⟨isInner_of_among (attributes.append (kind _)) (by decide),
        inner (by decide) (by decide), trivial⟩
  | formula body =>
      cases List.mem_singleton.mp member
      exact ⟨isInner_of_among attributes (by decide), inner (by decide) (by decide), trivial⟩

theorem rowAttributes_names (s : Sheet) (row : Nat)
    : NamedAmong ["ht", "customHeight", "hidden", "outlineLevel", "collapsed"]
      (rowAttributes s row) := by
  rw [rowAttributes]
  split
  · exact List.nil_sublist _
  · next setting _ =>
      exact (sizeAttributes_names "ht" "customHeight" setting.size).append
        (settingAttributes_names setting)

theorem rowNode_inner (t : StyleTable) (index : Nat) (s : Sheet) (row : Nat)
    : (rowNode t index s row).EachTag IsInner := by
  have number : NamedAmong ["r"] [("r", Nat.repr (row + 1))] := .exactly _ rfl
  have tag : IsInner "row" ([("r", Nat.repr (row + 1))] ++ rowAttributes s row) :=
    isInner_of_among (number.append (rowAttributes_names s row)) (by decide)
  rw [rowNode]
  split
  · exact tag
  · refine eachTag_block tag fun item member => ?_
    obtain ⟨⟨column, entry⟩, -, member⟩ := List.mem_flatMap.mp member
    exact cellNode_inner member

theorem dataNode_inner (t : StyleTable) (index : Nat) (s : Sheet)
    : (dataNode t index s).EachTag IsInner := by
  rw [dataNode]
  split
  · exact isInner_of_names [] rfl (by decide)
  · refine eachTag_block (isInner_of_names [] rfl (by decide)) fun item member => ?_
    obtain ⟨row, -, rfl⟩ := List.mem_map.mp member
    exact rowNode_inner t index s row

theorem filterNodes_inner {s : Sheet} {node : Node} (member : node ∈ filterNodes s)
    : node.EachTag IsInner := by
  obtain ⟨r, -, rfl⟩ := Option.map_eq_some_iff.mp (Option.mem_toList.mp member)
  exact isInner_of_names ["ref"] rfl (by decide)

theorem mergeNodes_inner {s : Sheet} {node : Node} (member : node ∈ mergeNodes s)
    : node.EachTag IsInner := by
  refine eachTag_of_mem_nodeIf member ?_
  refine eachTag_block (isInner_of_names ["count"] rfl (by decide)) fun item member => ?_
  obtain ⟨r, -, rfl⟩ := List.mem_map.mp member
  exact isInner_of_names ["ref"] rfl (by decide)

theorem drawingNodes_eachTag {s : Sheet} {node : Node} (member : node ∈ drawingNodes s)
    : node.EachTag IsTag :=
  eachTag_of_mem_nodeIf member (isTag_of_names ["r:id"] rfl (by decide))

/-- All that a sheet's document lists in front of the drawing. -/
def sheetNodes (t : StyleTable) (index : Nat) (s : Sheet) : List Node :=
  sheetPropertyNodes s ++ dimensionNodes s ++ [viewNode index s, sheetFormatNode s] ++
    columnNodes s ++ [dataNode t index s] ++ protectionNodes s ++ filterNodes s ++
    mergeNodes s ++ ruleNodes t index s ++ validationNodes s ++ pageNodes s

theorem sheetNodes_inner {t : StyleTable} {index : Nat} {s : Sheet} {node : Node}
    (member : node ∈ sheetNodes t index s)
    : node.EachTag IsInner := by
  have quiet {node : Node} (quiet : node.EachTag IsQuiet) : node.EachTag IsInner :=
    quiet.mono fun _ _ => IsQuiet.isInner
  simp only [sheetNodes, List.mem_append, List.mem_cons, List.not_mem_nil, or_false] at member
  rcases member with ((((((((((member | member) | rfl | rfl) | member) | rfl) | member) | member)
    | member) | member) | member) | member)
  · exact quiet (sheetPropertyNodes_quiet member)
  · exact quiet (dimensionNodes_quiet member)
  · exact viewNode_inner index s
  · exact quiet (sheetFormatNode_quiet s)
  · exact columnNodes_inner member
  · exact dataNode_inner t index s
  · exact quiet (protectionNodes_quiet member)
  · exact filterNodes_inner member
  · exact mergeNodes_inner member
  · exact quiet (ruleNodes_quiet member)
  · exact quiet (validationNodes_quiet member)
  · exact quiet (pageNodes_quiet member)

theorem sheetNode_eachTag (t : StyleTable) (index : Nat) (s : Sheet)
    : (sheetNode t index s).EachTag IsTag := by
  refine eachTag_block (isTag_of_names ["xmlns", "xmlns:r"] rfl (by decide)) fun item member => ?_
  rcases List.mem_append.mp member with member | member
  · exact (sheetNodes_inner member).mono fun _ _ => IsInner.isTag
  · exact drawingNodes_eachTag member

end Spreadsheet.Package
