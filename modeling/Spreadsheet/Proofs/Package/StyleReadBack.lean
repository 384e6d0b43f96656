import Spreadsheet.Proofs.Package.LineReadBack
import Spreadsheet.Proofs.Package.StyleNumbers
import Spreadsheet.Proofs.Package.StyleTags
import Spreadsheet.Proofs.Package.WrittenParts
import Spreadsheet.Proofs.Style.SlotReading

/-! The document of styles is read list by list. Each list that counts is read entry by entry, and
the others leave what is known as it is.
-/

namespace Spreadsheet.Package

open Spreadsheet.Style Spreadsheet.Xml

namespace CellStyles

variable {s : CellStyles} {name : String} {attributes : List (String × String)}

-----------------------------------------------------------------------------------------
-- Pieces of the document
-----------------------------------------------------------------------------------------

/-- What is known after an event. -/
def next (s : CellStyles) : Event → CellStyles
  | .start tag => s.start tag
  | .empty tag => s.empty tag
  | .close name => if name = s.listName then { s with listName := "" } else s
  | .text _ => s

/-- What is known after a piece of the document. -/
def after (s : CellStyles) (node : Node) : CellStyles := node.events.foldl next s

theorem foldlM_step (s : CellStyles) (events : List Event)
    : events.foldlM step s = .ok (events.foldl next s) := by
  induction events generalizing s with
  | nil => rfl
  | cons event rest ih => cases event <;> exact ih _

/-- Texts count for nothing, however they are put together. -/
theorem foldl_joinTexts (front : String) (events : List Event)
    : (joinTexts front events).foldl next s = events.foldl next s := by
  have silent : ∀ (s : CellStyles) text, (gathered text).foldl next s = s := by
    intro s text
    rw [gathered]
    split <;> rfl
  induction events generalizing front s with
  | nil => exact silent s front
  | cons event rest ih =>
      cases event with
      | text content =>
          cases content with
          | some text => exact ih _
          | none => rw [joinTexts, List.foldl_append, silent, List.foldl_cons, List.foldl_cons, ih]
      | start tag => rw [joinTexts, List.foldl_append, silent, List.foldl_cons, List.foldl_cons, ih]
      | empty tag => rw [joinTexts, List.foldl_append, silent, List.foldl_cons, List.foldl_cons, ih]
      | close name =>
          rw [joinTexts, List.foldl_append, silent, List.foldl_cons, List.foldl_cons, ih]

theorem foldl_allEvents (nodes : List Node) (s : CellStyles)
    : (allEvents nodes).foldl next s = nodes.foldl after s := by
  induction nodes generalizing s with
  | nil => rfl
  | cons node rest ih => rw [allEvents, List.foldl_append, ih, List.foldl_cons, after]

theorem after_leaf (s : CellStyles)
    : s.after (.leaf name attributes) = s.empty ⟨name, readAttributes attributes⟩ :=
  rfl

theorem after_element (s : CellStyles) (content : List Node)
    : s.after (.element name attributes content)
      = (content.foldl after (s.start ⟨name, readAttributes attributes⟩)).next (.close name) := by
  rw [after, Node.events, List.foldl_cons, List.foldl_append, foldl_allEvents]
  rfl

/-- Line breaks between pieces count for nothing. -/
theorem after_block {width depth : Nat} (s : CellStyles) (items : List Node)
    : s.after (.block width depth name attributes items)
      = (items.foldl after (s.start ⟨name, readAttributes attributes⟩)).next (.close name) := by
  have lines : ∀ (blanks : Nat) (s : CellStyles),
      (items.flatMap fun item => [Node.newLine blanks, item]).foldl after s
        = items.foldl after s := by
    intro blanks s
    rw [List.foldl_flatMap]
    rfl
  rw [Node.block, after_element, List.foldl_append, lines]
  rfl

-----------------------------------------------------------------------------------------
-- What is passed over
-----------------------------------------------------------------------------------------

/-- The tag leaves what is known, wherever it stands. -/
structure Passes (s : CellStyles) (name : String) (attributes : List (String × String)) : Prop where
  start : s.start ⟨name, readAttributes attributes⟩ = s
  empty : s.empty ⟨name, readAttributes attributes⟩ = s
  close : name ≠ s.listName

/-- Elements that are read in some lists. -/
def readElements : List String :=
  sections ++ ["font", "fill", "patternFill", "xf", "numFmt", "b", "sz", "fgColor"]

theorem passes_unread (unread : name ∉ readElements) (close : name ≠ s.listName)
    : Passes s name attributes := by
  simp only [readElements, sections, List.cons_append, List.nil_append, List.mem_cons,
    List.not_mem_nil, or_false, not_or] at unread
  exact ⟨by simp [CellStyles.start, sections, unread], by simp [CellStyles.empty, unread], close⟩

/-- A border is read in no list. -/
theorem passes_border (outside : s.listName = "") (known : name ∈ borderElements)
    : Passes s name attributes := by
  have unread : ∀ element ∈ borderElements, element ∉ readElements ∧ element ≠ "" := by decide
  exact passes_unread (unread name known).1 (by rw [outside]; exact (unread name known).2)

/-- The styles of rules are not those of cells: among them only another list would be read. -/
theorem passes_ruleStyle (inside : s.listName = "dxfs") (known : name ∈ ruleStyleElements)
    : Passes s name attributes where
  start := by
    have apart : ∀ element ∈ ruleStyleElements, element ∉ sections := by decide
    rw [CellStyles.start, if_neg (by simpa using apart name known)]
    split <;> simp [inside, addReference]
  empty := by
    rw [CellStyles.empty]
    split <;> simp [inside, addReference]
  close := by
    have apart : "dxfs" ∉ ruleStyleElements := by decide
    rintro rfl
    exact apart (inside ▸ known)

mutual

theorem after_of_passes {node : Node} (passes : node.EachTag (Passes s)) : s.after node = s := by
  cases node with
  | text content => rfl
  | plain content => rfl
  | leaf name attributes => exact passes.empty
  | element name attributes content =>
      rw [after_element, passes.1.start, foldl_of_passes passes.2]
      exact if_neg passes.1.close

theorem foldl_of_passes {nodes : List Node} (passes : EachTagOf (Passes s) nodes)
    : nodes.foldl after s = s := by
  cases nodes with
  | nil => rfl
  | cons node rest =>
      rw [List.foldl_cons, after_of_passes passes.1]
      exact foldl_of_passes passes.2

end

/-- The element is read in no list, and is not the list itself. -/
def UnreadIn (list : String) (name : String) (_ : List (String × String)) : Prop :=
  name ∉ readElements ∧ name ≠ list

section Unread

variable {list : String} (inside : s.listName = list)

include inside

theorem after_unread {node : Node} (unread : node.EachTag (UnreadIn list)) : s.after node = s :=
  after_of_passes (unread.mono fun _ _ other => passes_unread other.1 (inside ▸ other.2))

theorem foldl_nodeIf_unread (wanted : Bool) {node : Node} (unread : node.EachTag (UnreadIn list))
    : (nodeIf wanted node).foldl after s = s := by
  cases wanted with
  | false => rfl
  | true => exact after_unread inside unread

end Unread

-----------------------------------------------------------------------------------------
-- Entries of lists
-----------------------------------------------------------------------------------------

theorem updateLast_push {α : Type} (f : α → α) (list : Array α) (a : α)
    : updateLast f (list.push a) = list.push (f a) := by
  apply Array.ext_getElem?
  intro i
  rw [updateLast, Array.getElem?_modify, Array.getElem?_push, Array.getElem?_push, Array.size_push,
    Nat.add_sub_cancel]
  split
  · next last => rw [if_pos last.symm, if_pos last.symm, Option.map_some]
  · next other => rw [if_neg (Ne.symm other), if_neg (Ne.symm other)]

/-- A format code is read with its number. -/
theorem after_formatNode (outside : s.listName = "") {number : Nat}
    (below : number < Number.wordLimit 32) (code : String)
    : s.after (formatNode number code)
      = { s with codes := s.codes.insert number (legalPart code) } := by
  have numbered : (⟨"numFmt", readAttributes [("numFmtId", Nat.repr number), ("formatCode", code)]⟩
      : Tag).nat? "numFmtId" (Number.wordLimit 32) = some number :=
    SheetReading.nat?_readAttributes below rfl
  have coded : (⟨"numFmt", readAttributes [("numFmtId", Nat.repr number), ("formatCode", code)]⟩
      : Tag).attribute? "formatCode" = some (legalPart code) := by
    rw [attribute?_readAttributes]
    rfl
  rw [formatNode, after_leaf]
  simp [CellStyles.empty, outside, addCode, numbered, coded]

/-- A font is read with its size and if it is bold. -/
theorem after_fontNode (inside : s.listName = "fonts") (font : Font)
    : s.after (fontNode font) = { s with fonts := s.fonts.push font.reading } := by
  have start : s.start ⟨"font", readAttributes []⟩ = { s with fonts := s.fonts.push {} } := by
    simp [CellStyles.start, sections, inside]
  have bold : (nodeIf font.bold (.leaf "b" [])).foldl after { s with fonts := s.fonts.push {} }
      = { s with fonts := s.fonts.push { bold := font.bold } } := by
    cases font.bold with
    | false => rfl
    | true => simp [nodeIf, after_leaf, CellStyles.empty, inside, updateLast_push]
  have sized : ({ s with fonts := s.fonts.push { bold := font.bold } } : CellStyles).after
        (.leaf "sz" [("val", font.size.display)])
      = { s with fonts := s.fonts.push font.reading } := by
    have read : (⟨"sz", readAttributes [("val", font.size.display)]⟩ : Tag).number? "val"
        = some font.reading.size := SheetReading.number?_readAttributes rfl
    simp [after_leaf, CellStyles.empty, inside, setSize, read, updateLast_push, Font.reading]
  have unread : ∀ (fonts : Array FontReading) (wanted : Bool) (node : Node),
      node.EachTag (UnreadIn "fonts")
      → (nodeIf wanted node).foldl after { s with fonts } = { s with fonts } :=
    fun fonts wanted _ => foldl_nodeIf_unread (s := { s with fonts }) inside wanted
  have colored : (colorNode "color" font.color).EachTag (UnreadIn "fonts") :=
    colorNode_eachTag font.color fun _ _ _ => ⟨by decide, by decide⟩
  rw [fontNode, after_element, start]
  simp only [List.foldl_append, List.foldl_cons, List.foldl_nil]
  rw [bold, unread _ _ (.leaf "i" []) ⟨by decide, by decide⟩,
    unread _ _ (.leaf "u" []) ⟨by decide, by decide⟩, sized, unread _ _ _ colored]
  exact if_neg fun same => absurd (same.trans inside) (by decide)

section Fills

variable (inside : s.listName = "fills")

include inside

/-- A color in front fills what was begun if the pattern is solid and the color has digits. -/
theorem after_foreground (fills : Array Fill) (inSolid : Bool) (color : Color)
    : ({ s with fills := fills.push .none, inSolid } : CellStyles).after (colorNode "fgColor" color)
      = { s with
          fills := fills.push (if inSolid && !color.isAuto then .solid color else .none)
          inSolid } := by
  rw [colorNode]
  cases own : color.isAuto with
  | true =>
      have unsaid : (⟨"fgColor", readAttributes [("indexed", "64")]⟩ : Tag).attribute? "rgb"
          = none := by
        rw [attribute?_readAttributes]
        rfl
      cases inSolid <;> simp [after_leaf, CellStyles.empty, inside, setColor, unsaid]
  | false =>
      have said : (⟨"fgColor", readAttributes [("rgb", color.argbHex)]⟩ : Tag).attribute? "rgb"
          = some color.argbHex := by
        rw [attribute?_readAttributes]
        exact congrArg some (legalPart_eq_self color.legal_argbHex)
      cases inSolid with
      | false => simp [after_leaf, CellStyles.empty, inside]
      | true =>
          simp [after_leaf, CellStyles.empty, inside, setColor, said, Color.ofHex?_argbHex own,
            updateLast_push]

/-- A pattern without colors is no fill. -/
theorem after_patternNode_nil (pattern : String)
    : s.after (patternNode pattern [])
      = { s with fills := s.fills.push .none, inSolid := false } := by
  simp [patternNode, after_element, after_leaf, CellStyles.start, CellStyles.empty, sections,
    inside, next]

/-- A pattern with colors is the fill that its first color makes. -/
theorem after_patternNode_cons {pattern : String} (legal : Legal pattern) (color : Color)
    (back : Node) (unread : back.EachTag (UnreadIn "fills"))
    : s.after (patternNode pattern [colorNode "fgColor" color, back])
      = { s with
          fills := s.fills.push
            (if pattern == "solid" && !color.isAuto then .solid color else .none)
          inSolid := pattern == "solid" } := by
  have kind : (⟨"patternFill", readAttributes [("patternType", pattern)]⟩ : Tag).attribute?
      "patternType" = some pattern := by
    rw [attribute?_readAttributes]
    exact congrArg some (legalPart_eq_self legal)
  have fill : s.start ⟨"fill", readAttributes []⟩ = { s with fills := s.fills.push .none } := by
    simp [CellStyles.start, sections, inside]
  have begun : ({ s with fills := s.fills.push .none } : CellStyles).start
        ⟨"patternFill", readAttributes [("patternType", pattern)]⟩
      = { s with fills := s.fills.push .none, inSolid := pattern == "solid" } := by
    simp [CellStyles.start, sections, inside, kind]
  have behind : ∀ s' : CellStyles, s'.listName = "fills" → s'.after back = s' :=
    fun _ inside' => after_unread inside' unread
  rw [patternNode]
  simp only [List.isEmpty_cons, Bool.false_eq_true, if_false, after_element, fill, List.foldl_cons,
    List.foldl_nil, begun]
  rw [after_foreground inside]
  simp [next, inside, behind]

/-- A fill that was written is read if it is solid. -/
theorem exists_after_fillNode (fill : Fill)
    : ∃ inSolid,
        s.after (fillNode fill) = { s with fills := s.fills.push fill.asRead, inSolid } := by
  cases fill with
  | none => exact ⟨_, after_patternNode_nil inside _⟩
  | solid color =>
      refine ⟨true, (after_patternNode_cons inside (by decide) color (.leaf "bgColor" _)
        ⟨by decide, by decide⟩).trans ?_⟩
      cases own : color.isAuto <;> simp [Fill.asRead, own, Pattern.name]
  | pattern pattern foreground background =>
      have legal : Legal pattern.name := by cases pattern <;> decide
      have unread : (colorNode "bgColor" background).EachTag (UnreadIn "fills") :=
        colorNode_eachTag background fun _ _ _ => ⟨by decide, by decide⟩
      refine ⟨pattern.name == "solid", (after_patternNode_cons inside legal foreground
        (colorNode "bgColor" background) unread).trans ?_⟩
      cases own : foreground.isAuto <;> cases pattern <;> simp [Fill.asRead, own, Pattern.name]

end Fills

/-- The reference that is read where a style was written with some numbers. -/
def referenceOf (numbers : StyleNumbers) : StyleReference :=
  ⟨numbers.format, numbers.font, numbers.fill⟩

/-- The numbers of a style are small enough to be read. -/
structure Readable (numbers : StyleNumbers) : Prop where
  format : numbers.format < Number.wordLimit 32
  font : numbers.font < Number.wordLimit 64
  fill : numbers.fill < Number.wordLimit 64

/-- A style of cells is read with its numbers, whether it has an alignment or not. -/
theorem after_cellStyleNode (inside : s.listName = "cellXfs") (style : Style)
    {numbers : StyleNumbers} (readable : Readable numbers)
    : s.after (cellStyleNode style numbers)
      = { s with references := s.references.push (referenceOf numbers) } := by
  rw [cellStyleNode]
  dsimp only
  simp only [List.append_assoc, List.cons_append, List.nil_append]
  generalize flag "applyNumberFormat" _ ++ _ = flags
  have read : reference ⟨"xf", readAttributes ([("numFmtId", Nat.repr numbers.format),
      ("fontId", Nat.repr numbers.font), ("fillId", Nat.repr numbers.fill),
      ("borderId", Nat.repr numbers.border), ("xfId", "0")] ++ flags)⟩ = referenceOf numbers := by
    rw [reference, SheetReading.nat?_readAttributes readable.format rfl,
      SheetReading.nat?_readAttributes readable.font rfl,
      SheetReading.nat?_readAttributes readable.fill rfl]
    rfl
  split
  · simpa [after_leaf, CellStyles.empty, addReference, inside] using
      congrArg s.references.push read
  · have aligned : ∀ s' : CellStyles, s'.after (alignmentNode style.alignment) = s' := fun _ => rfl
    simpa [after_element, CellStyles.start, sections, addReference, inside, aligned, next] using
      congrArg s.references.push read

-----------------------------------------------------------------------------------------
-- Lists
-----------------------------------------------------------------------------------------

/-- The codes that are read where some were written. -/
def readCodes (codes : Cell.Numbered String) (entries : List (String × Nat))
    : Cell.Numbered String :=
  entries.foldl (fun codes entry => codes.insert (firstCustomFormat + entry.2) (legalPart entry.1))
    codes

theorem foldl_formatNodes (outside : s.listName = "") {entries : List (String × Nat)}
    (below : ∀ entry ∈ entries, firstCustomFormat + entry.2 < Number.wordLimit 32)
    : (entries.map fun (code, i) => formatNode (firstCustomFormat + i) code).foldl after s
      = { s with codes := readCodes s.codes entries } := by
  induction entries generalizing s with
  | nil => rfl
  | cons entry rest ih =>
      rw [List.forall_mem_cons] at below
      rw [List.map_cons, List.foldl_cons, after_formatNode outside below.1]
      exact ih outside below.2

theorem foldl_fontNodes (inside : s.listName = "fonts") (fonts : List Font)
    : (fonts.map fontNode).foldl after s
      = { s with fonts := s.fonts ++ (fonts.map Font.reading).toArray } := by
  induction fonts generalizing s with
  | nil => simp
  | cons font rest ih =>
      rw [List.map_cons, List.foldl_cons, after_fontNode inside]
      refine Eq.trans (ih ?_) ?_
      · exact inside
      · simp

/-- The second fill is written as a pattern that is read as none. -/
theorem exists_foldl_fillNodes (inside : s.listName = "fills") {entries : List (Fill × Nat)}
    (second : ∀ entry ∈ entries, entry.2 = 1 → entry.1 = .none)
    : ∃ inSolid,
        (entries.map fun (fill, i) =>
          if i = 1 then patternNode Pattern.gray125.name [] else fillNode fill).foldl after s
        = { s with fills := s.fills ++ (entries.map (·.1.asRead)).toArray, inSolid } := by
  induction entries generalizing s with
  | nil => exact ⟨s.inSolid, by simp⟩
  | cons entry rest ih =>
      rw [List.forall_mem_cons] at second
      obtain ⟨inSolid, first⟩ : ∃ inSolid,
          s.after (if entry.2 = 1 then patternNode Pattern.gray125.name [] else fillNode entry.1)
          = { s with fills := s.fills.push entry.1.asRead, inSolid } := by
        split
        · next reserved =>
            rw [second.1 reserved]
            exact ⟨false, after_patternNode_nil inside _⟩
        · exact exists_after_fillNode inside entry.1
      rw [List.map_cons, List.foldl_cons, first]
      obtain ⟨last, others⟩ := ih (s := { s with fills := s.fills.push entry.1.asRead, inSolid })
        inside second.2
      refine ⟨last, others.trans ?_⟩
      simp

theorem foldl_cellStyleNodes (inside : s.listName = "cellXfs") {styles : List Style}
    {numbers : List StyleNumbers}
    (readable : List.Forall₂ (fun _ numbers => Readable numbers) styles numbers)
    : (List.zipWith cellStyleNode styles numbers).foldl after s
      = { s with references := s.references ++ (numbers.map referenceOf).toArray } := by
  induction readable generalizing s with
  | nil => simp
  | cons first _ ih =>
      rw [List.zipWith_cons_cons, List.foldl_cons, after_cellStyleNode inside _ first]
      refine Eq.trans (ih ?_) ?_
      · exact inside
      · simp

/-- A list that is read leaves no trace but its entries. -/
theorem after_listNode_section {items : List Node} {s' : CellStyles} (listed : name ∈ sections)
    (read : items.foldl after { s with listName := name } = { s' with listName := name })
    (outside' : s'.listName = "")
    : s.after (listNode name items) = s' := by
  have start : ∀ attributes, s.start ⟨name, attributes⟩ = { s with listName := name } := by
    intro attributes
    rw [CellStyles.start, if_pos (by simpa using listed)]
  rw [listNode, after_block, start, read, next, if_pos rfl, ← outside']

/-- A list that is not told from others is read entry by entry. -/
theorem after_listNode_unread {items : List Node} {s' : CellStyles} (outside : s.listName = "")
    (unread : name ∉ readElements) (named : name ≠ "")
    (read : items.foldl after s = s') (outside' : s'.listName = "")
    : s.after (listNode name items) = s' := by
  have start : ∀ attributes, s.start ⟨name, readAttributes attributes⟩ = s := fun attributes =>
    (passes_unread unread (by rw [outside]; exact named)).start
  rw [listNode, after_block, start, read]
  exact if_neg (by rw [outside']; exact named)

-----------------------------------------------------------------------------------------
-- The whole document
-----------------------------------------------------------------------------------------

section Document

variable (outside : s.listName = "")

include outside

theorem foldl_codeList {entries : List (String × Nat)} {items : List Node}
    (same : items = entries.map fun (code, i) => formatNode (firstCustomFormat + i) code)
    (below : ∀ entry ∈ entries, firstCustomFormat + entry.2 < Number.wordLimit 32)
    : (nodeIf (!items.isEmpty) (listNode "numFmts" items)).foldl after s
      = { s with codes := readCodes s.codes entries } := by
  have read := foldl_formatNodes outside below
  rw [← same] at read
  cases none : items.isEmpty with
  | true =>
      rw [List.isEmpty_iff.mp none] at read
      exact read
  | false => exact after_listNode_unread outside (by decide) (by decide) read outside

theorem after_fontList (fonts : List Font)
    : s.after (listNode "fonts" (fonts.map fontNode))
      = { s with fonts := s.fonts ++ (fonts.map Font.reading).toArray } :=
  after_listNode_section (by decide) (foldl_fontNodes rfl fonts) outside

theorem exists_after_fillList {fills : List Fill}
    (second : ∀ entry ∈ fills.zipIdx, entry.2 = 1 → entry.1 = .none)
    : ∃ inSolid, s.after (listNode "fills" (fillNodes fills))
      = { s with fills := s.fills ++ (fills.map Fill.asRead).toArray, inSolid } := by
  have entries : fills.zipIdx.map (·.1.asRead) = fills.map Fill.asRead := by
    conv_rhs => rw [← List.zipIdx_map_fst 0 fills, List.map_map]
    rfl
  obtain ⟨inSolid, read⟩ := exists_foldl_fillNodes (s := { s with listName := "fills" }) rfl second
  rw [entries] at read
  exact ⟨inSolid, after_listNode_section (by decide) read outside⟩

theorem after_borderList (borders : List Border)
    : s.after (listNode "borders" (borders.map borderNode)) = s := by
  refine after_listNode_unread outside (by decide) (by decide) ?_ outside
  refine foldl_of_passes (eachTagOf_iff.mpr fun item member => ?_)
  obtain ⟨border, -, rfl⟩ := List.mem_map.mp member
  exact (borderNode_isTagOf border).mono fun _ _ tag => passes_border outside tag.known

/-- The style that all others build on is none of a cell. -/
theorem after_baseList (attributes : List (String × String))
    : s.after (listNode "cellStyleXfs" [.leaf "xf" attributes]) = s :=
  after_listNode_section (by decide) rfl outside

theorem after_cellStyleList {styles : List Style} {numbers : List StyleNumbers}
    (readable : List.Forall₂ (fun _ numbers => Readable numbers) styles numbers)
    : s.after (listNode "cellXfs" (List.zipWith cellStyleNode styles numbers))
      = { s with references := s.references ++ (numbers.map referenceOf).toArray } :=
  after_listNode_section (by decide) (foldl_cellStyleNodes rfl readable) outside

theorem after_nameList (attributes : List (String × String))
    : s.after (listNode "cellStyles" [.leaf "cellStyle" attributes]) = s :=
  after_listNode_unread outside (by decide) (by decide) rfl outside

theorem after_ruleStyleList (styles : List Style)
    : s.after (listOrLeaf "dxfs" (styles.map ruleStyleNode)) = s := by
  rw [listOrLeaf]
  split
  · rfl
  · refine after_listNode_section (by decide) ?_ outside
    refine foldl_of_passes (eachTagOf_iff.mpr fun item member => ?_)
    obtain ⟨style, -, rfl⟩ := List.mem_map.mp member
    exact (ruleStyleNode_isTagOf style).mono fun _ _ tag => passes_ruleStyle rfl tag.known

end Document

/-- What is known of styles at the end of their document. -/
def known (lists : StyleLists) (numbers : List StyleNumbers) (inSolid : Bool) : CellStyles where
  codes := readCodes ∅ lists.codes.toList.zipIdx
  fonts := (lists.fonts.toList.map Font.reading).toArray
  fills := (lists.fills.toList.map Fill.asRead).toArray
  references := (numbers.map referenceOf).toArray
  inSolid

/-- The lists are read one after the other; those of borders, of named styles and of the styles of
rules leave what is known.
-/
theorem exists_after_styleSheetNode {t : StyleTable} {numbers : List StyleNumbers}
    {lists : StyleLists} (added : StyleLists.addAll {} t.styles.toList = (numbers, lists))
    (below : ∀ entry ∈ lists.codes.toList.zipIdx,
      firstCustomFormat + entry.2 < Number.wordLimit 32)
    (second : ∀ entry ∈ lists.fills.toList.zipIdx, entry.2 = 1 → entry.1 = .none)
    (readable : List.Forall₂ (fun _ numbers => Readable numbers) t.styles.toList numbers)
    : ∃ inSolid, ({} : CellStyles).after (styleSheetNode t) = known lists numbers inSolid := by
  have root : ∀ attributes, ({} : CellStyles).start ⟨"styleSheet", attributes⟩ = {} := fun _ => rfl
  rw [styleSheetNode, added]
  dsimp only
  rw [after_block, root, List.foldl_append, foldl_codeList rfl rfl below]
  simp only [List.foldl_cons, List.foldl_nil]
  rw [after_fontList rfl, Array.empty_append]
  let withFonts : CellStyles :=
    { codes := readCodes ∅ lists.codes.toList.zipIdx
      fonts := (lists.fonts.toList.map Font.reading).toArray }
  obtain ⟨inSolid, fills⟩ := exists_after_fillList (show withFonts.listName = "" from rfl) second
  rw [fills, after_borderList rfl, after_baseList rfl, after_cellStyleList rfl readable,
    after_nameList rfl, after_ruleStyleList rfl]
  refine ⟨inSolid, ?_⟩
  rw [Array.empty_append, Array.empty_append]
  rfl

-----------------------------------------------------------------------------------------
-- What the numbers call
-----------------------------------------------------------------------------------------

/-- A code is found under the number that follows from its place, by induction on the codes. -/
theorem getElem?_readCodes (codes : List String) (number : Nat)
    : (readCodes ∅ codes.zipIdx)[number]?
      = if firstCustomFormat ≤ number then codes[number - firstCustomFormat]?.map legalPart
        else none := by
  induction codes using List.reverseRecOn with
  | nil => simp [readCodes]
  | append_singleton codes code ih =>
      rw [readCodes] at ih
      rw [readCodes, List.zipIdx_append, List.foldl_append, List.zipIdx_singleton, List.foldl_cons,
        List.foldl_nil, Std.ExtTreeMap.getElem?_insert, ih, Nat.zero_add]
      split
      · next here =>
          rw [Std.compare_eq_iff_eq] at here
          rw [if_pos (by omega), ← here, Nat.add_sub_cancel_left, List.getElem?_concat_length]
          rfl
      · next other =>
          rw [Std.compare_eq_iff_eq] at other
          split
          · next custom =>
              have elsewhere : number - firstCustomFormat ≠ codes.length := by omega
              rcases Nat.lt_or_gt_of_ne elsewhere with before | behind
              · rw [List.getElem?_append_left before]
              · rw [List.getElem?_eq_none (Nat.le_of_lt behind), List.getElem?_eq_none]
                rw [List.length_append, List.length_singleton]
                omega
          · rfl

variable {lists : StyleLists} {style : Style} {numbers : StyleNumbers}

theorem format_known {format : NumberFormat} {number : Nat}
    (calls : lists.CallsFormat format number) (all : List StyleNumbers) (inSolid : Bool)
    : (known lists all inSolid).format number = format.asRead := by
  have codes : (known lists all inSolid).codes[number]? = _ :=
    getElem?_readCodes lists.codes.toList number
  rw [CellStyles.format, codes]
  rcases calls with builtIn | ⟨own, i, rfl, found⟩
  · obtain ⟨called, small, same⟩ := NumberFormat.of_builtIn? builtIn
    rw [if_neg (Nat.not_le.mpr small), called, same]
    rfl
  · cases format with
    | general => cases own
    | code text =>
        rw [if_pos (Nat.le_add_right _ i), Nat.add_sub_cancel_left, Array.getElem?_toList, found]
        rfl

/-- The numbers of a style call what can be told of it. -/
theorem style_known (calls : lists.Calls style numbers) (all : List StyleNumbers) (inSolid : Bool)
    : (known lists all inSolid).style (referenceOf numbers) = style.asRead := by
  have font : (known lists all inSolid).fonts[numbers.font]? = some style.font.reading := by
    simp [known, calls.font]
  have fill : (known lists all inSolid).fills[numbers.fill]? = some style.fill.asRead := by
    simp [known, calls.fill]
  simp only [CellStyles.style, referenceOf, format_known calls.format, font, fill, Option.map_some,
    Option.getD_some]
  rfl

theorem map_style_known {styles : List Style} {called : List StyleNumbers}
    (calls : List.Forall₂ lists.Calls styles called) (all : List StyleNumbers) (inSolid : Bool)
    : (called.map referenceOf).map (known lists all inSolid).style = styles.map Style.asRead := by
  induction calls with
  | nil => rfl
  | cons first _ ih =>
      rw [List.map_cons, List.map_cons, List.map_cons, style_known first, ih]

-----------------------------------------------------------------------------------------
-- Packages
-----------------------------------------------------------------------------------------

section Limits

variable {count : Nat} (grows : StyleLists.Grows count {} lists)

include grows

/-- The second fill of all lists is none. -/
theorem second_fill : ∀ entry ∈ lists.fills.toList.zipIdx, entry.2 = 1 → entry.1 = .none := by
  rintro ⟨fill, _⟩ member rfl
  have reserved : lists.fills[1]? = some .none := grows.fills 1 _ rfl
  have place := List.mk_mem_zipIdx_iff_getElem?.mp member
  rw [Array.getElem?_toList, reserved] at place
  exact (Option.some.inj place).symm

variable (few : count ≤ 2 ^ 31)

include few

/-- Lists of not too many styles have codes whose numbers can be read. -/
theorem codes_below
    : ∀ entry ∈ lists.codes.toList.zipIdx, firstCustomFormat + entry.2 < Number.wordLimit 32 := by
  intro entry member
  have place := List.snd_lt_of_mem_zipIdx member
  have codeCount : lists.codes.size ≤ 0 + count := grows.codeCount
  have word : Number.wordLimit 32 = 2 ^ 32 ∧ firstCustomFormat = 164 := by decide
  rw [Array.length_toList] at place
  omega

/-- Lists of not too many styles give numbers that can be read. -/
theorem readable_of_calls (calls : lists.Calls style numbers) : Readable numbers := by
  have word : Number.wordLimit 32 = 2 ^ 32 ∧ Number.wordLimit 64 = 2 ^ 64
      ∧ firstCustomFormat = 164 := by decide
  obtain ⟨font, -⟩ := Array.getElem?_eq_some_iff.mp calls.font
  obtain ⟨fill, -⟩ := Array.getElem?_eq_some_iff.mp calls.fill
  have fontCount : lists.fonts.size ≤ 1 + count := grows.fontCount
  have fillCount : lists.fills.size ≤ 2 + count := grows.fillCount
  have codeCount : lists.codes.size ≤ 0 + count := grows.codeCount
  refine ⟨?_, by omega, by omega⟩
  rcases calls.format with builtIn | ⟨-, i, number, found⟩
  · have small := (NumberFormat.of_builtIn? builtIn).2.1
    omega
  · obtain ⟨code, -⟩ := Array.getElem?_eq_some_iff.mp found
    omega

end Limits

/-- What is known at the end of a document of styles that was written. -/
def ofTable (t : StyleTable) : CellStyles := ({} : CellStyles).after (styleSheetNode t)

/-- The document of styles is read in every package with a workbook. -/
theorem ofPackage_eq (now : Time.DateTime) (w : Workbook)
    : CellStyles.ofPackage (ofWorkbook now w)
      = .ok ((ofTable (StyleTable.ofWorkbook w)).references.map
          (ofTable (StyleTable.ofWorkbook w)).style) := by
  have place := part?_styles now w
  generalize StyleTable.ofWorkbook w = t at place
  have read : foldEvents step {} (Part.ofRoot "xl/styles.xml" (styleSheetNode t)).content
      = .ok (ofTable t) := by
    rw [foldEvents_ofRoot _ (styleSheetNode_eachTag _), foldlM_step, foldl_joinTexts]
    rfl
  rw [ofPackage, foldPart?, place]
  dsimp only
  rw [read]
  rfl

/-- The styles of a package with a workbook are read as far as they can be told, if there are not
too many of them.
-/
theorem ofPackage_ofWorkbook (now : Time.DateTime) (w : Workbook)
    (few : (StyleTable.ofWorkbook w).styles.size ≤ 2 ^ 31)
    : CellStyles.ofPackage (ofWorkbook now w)
      = .ok ((StyleTable.ofWorkbook w).styles.map Style.asRead) := by
  rw [ofPackage_eq]
  generalize StyleTable.ofWorkbook w = t at few
  obtain ⟨called, grows⟩ := StyleLists.addAll_calls {} t.styles.toList
  generalize added : StyleLists.addAll {} t.styles.toList = result at called grows
  obtain ⟨numbers, lists⟩ := result
  rw [Array.length_toList] at grows
  obtain ⟨inSolid, read⟩ := exists_after_styleSheetNode added (codes_below grows few)
    (second_fill grows) (called.imp fun _ _ calls => readable_of_calls grows few calls)
  rw [ofTable, read]
  refine congrArg Except.ok (Array.toList_inj.mp ?_)
  rw [Array.toList_map, Array.toList_map]
  exact map_style_known called numbers inSolid

end CellStyles

end Spreadsheet.Package
