import Spreadsheet.Proofs.Package.StyleSlots
import Spreadsheet.Proofs.Workbook.Reachable

/-! The numbers that a document of styles and its sheets share. Cells, rules and slots have numbers
of their own, and each leads to what it was given for. Styles that are equal share a number, with
one exception: fonts of size zero with different signs are equal and still have two numbers.
-/

namespace Spreadsheet

open Spreadsheet.Style Spreadsheet.Xml

-----------------------------------------------------------------------------------------
-- Counting styles
-----------------------------------------------------------------------------------------

namespace Style

variable {a b : Style} {styles known : List Style} {limit : Nat}

/-- What equals a style has a size that is a number. -/
theorem isComparable_of_same (same : a.same b) : a.isComparable ∧ b.isComparable := by
  have sizes : a.font.size.numEq b.font.size := (Bool.and_eq_true_iff.mp same).1
  simp only [Number.Binary64.numEq, Bool.and_eq_true] at sizes
  exact ⟨sizes.1.1, sizes.1.2⟩

/-- Equal styles differ in the sign of a size at most. -/
theorem eq_or_isTwin_of_same (same : a.same b) : a = b ∨ a.IsTwin b :=
  (same_iff (isComparable_of_same same).1).mp same

/-- There are fewer different styles than the limit, equal ones counted once. A size that is not a
number equals none, so there is no style with one.
-/
def FewerThan (limit : Nat) (styles : List Style) : Prop :=
  ∃ known : List Style, known.length < limit ∧ ∀ style ∈ styles, ∃ other ∈ known, other.same style

theorem isComparable_of_covered (covered : ∀ style ∈ styles, ∃ other ∈ known, other.same style)
    : ∀ style ∈ styles, style.isComparable = true := by
  intro style member
  obtain ⟨other, -, same⟩ := covered style member
  exact (isComparable_of_same same).2

/-- A style and the one with the other sign of its size. -/
def withTwin (style : Style) : List Style :=
  [style, { style with font := { style.font with size := style.font.size.neg } }]

theorem mem_withTwin_of_same (same : a.same b) : b ∈ a.withTwin := by
  rcases eq_or_isTwin_of_same same with rfl | ⟨-, rfl⟩
  · exact List.mem_cons_self
  · exact List.mem_cons_of_mem _ List.mem_cons_self

/-- Of each style there are two with different bits at most. -/
theorem length_le_of_same (distinct : styles.Nodup)
    (covered : ∀ style ∈ styles, ∃ other ∈ known, other.same style)
    : styles.length ≤ 2 * known.length := by
  have among : styles ⊆ known.flatMap withTwin := by
    intro style member
    obtain ⟨other, listed, same⟩ := covered style member
    exact List.mem_flatMap.mpr ⟨other, listed, mem_withTwin_of_same same⟩
  have pairs : (known.flatMap withTwin).length = known.length * 2 := by
    simp [List.length_flatMap, withTwin]
  have few := (List.subperm_of_subset distinct among).length_le
  omega

end Style

namespace Package

-----------------------------------------------------------------------------------------
-- The lists in the document
-----------------------------------------------------------------------------------------

/-- The piece of a document is an element with the name. -/
def isNamed (name : String) : Node → Bool
  | .leaf other _ | .element other _ _ => other == name
  | .text _ | .plain _ => false

/-- The elements of a name right below an element. -/
def childrenNamed (name : String) : Node → List Node
  | .element _ _ content => content.filter (isNamed name)
  | .leaf .. | .text _ | .plain _ => []

/-- The line breaks between the items of a block have no name. -/
theorem childrenNamed_block (name : String) (step depth : Nat) (root : String)
    (attributes : List (String × String)) (items : List Node)
    : childrenNamed name (.block step depth root attributes items)
      = items.filter (isNamed name) := by
  have breaks (n : Nat) : isNamed name (Node.newLine n) = false := rfl
  rw [Node.block, childrenNamed, List.filter_append, List.filter_flatMap]
  simp only [List.filter_cons, List.filter_nil, breaks, Bool.false_eq_true, if_false,
    List.append_nil]
  induction items with
  | nil => rfl
  | cons item rest ih => rw [List.flatMap_cons, ih, List.filter_cons]; split <;> rfl

theorem isNamed_leaf (name other : String) (attributes : List (String × String))
    : isNamed name (.leaf other attributes) = (other == name) := rfl

theorem isNamed_listNode (name other : String) (items : List Node)
    : isNamed name (listNode other items) = (other == name) := rfl

theorem isNamed_listOrLeaf (name other : String) (items : List Node)
    : isNamed name (listOrLeaf other items) = (other == name) := by
  rw [listOrLeaf]
  split <;> rfl

theorem filter_nodeIf (p : Node → Bool) (wanted : Bool) (node : Node)
    : (nodeIf wanted node).filter p = nodeIf (wanted && p node) node := by
  cases wanted <;> cases fits : p node <;> simp [nodeIf, fits]

/-- The document lists styles with some numbers, and slots and codes for them. There is one list of
each kind, and none of codes if there is no code.
-/
structure Lists (document : Node) (t : StyleTable) (numbers : List StyleNumbers)
    (lists : StyleLists) : Prop where
  codes : childrenNamed "numFmts" document = nodeIf (!lists.codeEntries.isEmpty)
    (listNode "numFmts" (lists.codeEntries.map fun entry => formatNode entry.1 entry.2))
  fonts : childrenNamed "fonts" document = [listNode "fonts" (lists.fonts.toList.map fontNode)]
  fills : childrenNamed "fills" document = [listNode "fills" (fillNodes lists.fills.toList)]
  borders : childrenNamed "borders" document
    = [listNode "borders" (lists.borders.toList.map borderNode)]
  styles : childrenNamed "cellXfs" document
    = [listNode "cellXfs" (List.zipWith cellStyleNode t.styles.toList numbers)]
  ruleStyles : childrenNamed "dxfs" document
    = [listOrLeaf "dxfs" (t.ruleStyles.toList.map ruleStyleNode)]

theorem styleSheetNode_lists {t : StyleTable} {numbers : List StyleNumbers} {lists : StyleLists}
    (added : StyleLists.addAll {} t.styles.toList = (numbers, lists))
    : Lists (styleSheetNode t) t numbers lists := by
  rw [styleSheetNode, added]
  constructor
  case codes =>
    rw [childrenNamed_block, List.filter_append, filter_nodeIf, isNamed_listNode,
      StyleLists.codeEntries, List.map_map]
    simp [isNamed_listNode, isNamed_listOrLeaf, isNamed_leaf]
    rfl
  all_goals
    rw [childrenNamed_block, List.filter_append, filter_nodeIf, isNamed_listNode]
    simp [isNamed_listNode, isNamed_listOrLeaf, isNamed_leaf, nodeIf]

-----------------------------------------------------------------------------------------
-- Numbers that words hold
-----------------------------------------------------------------------------------------

/-- All four numbers fit words. -/
structure StyleNumbers.Fit (numbers : StyleNumbers) : Prop where
  format : numbers.format < Number.wordLimit 32
  font : numbers.font < Number.wordLimit 32
  fill : numbers.fill < Number.wordLimit 32
  border : numbers.border < Number.wordLimit 32

namespace StyleLists

variable {lists : StyleLists} {styles known : List Style} {numbers : StyleNumbers} {style : Style}

theorem reserves_empty : Reserves {} := ⟨rfl, rfl⟩

/-- The default style adds nothing to the lists. -/
theorem addAll_default (styles : List Style)
    : ({} : StyleLists).addAll ({} :: styles)
      = (⟨0, 0, 0, 0⟩ :: (({} : StyleLists).addAll styles).1,
          (({} : StyleLists).addAll styles).2) := by
  have first : ({} : StyleLists).add {} = (⟨0, 0, 0, 0⟩, {}) := by decide +kernel
  rw [addAll, first]

/-- There are no more codes than different styles. -/
theorem size_codes_le (adds : Adds styles {} lists)
    (covered : ∀ style ∈ styles, ∃ other ∈ known, other.same style)
    : lists.codes.size ≤ known.length := by
  have among : lists.codes.toList ⊆ known.map (·.format.text) := by
    intro code member
    rcases adds.members code (Array.mem_toList_iff.mp member) with none | ⟨style, added, -, rfl⟩
    · exact absurd none (Array.not_mem_empty code)
    · obtain ⟨other, listed, same⟩ := covered style added
      refine List.mem_map.mpr ⟨other, listed, ?_⟩
      rcases Style.eq_or_isTwin_of_same same with rfl | ⟨-, rfl⟩ <;> rfl
  have few := (List.subperm_of_subset (adds.distinct .nil) among).length_le
  simpa using few

theorem Resolves.fit (resolves : lists.Resolves style numbers) (adds : Adds styles {} lists)
    (distinct : styles.Nodup) (covered : ∀ style ∈ styles, ∃ other ∈ known, other.same style)
    (few : known.length < 2 ^ 31)
    : numbers.Fit := by
  have word : Number.wordLimit 32 = 2 ^ 32 ∧ firstCustomFormat = 164 := by decide
  have pairs := Style.length_le_of_same distinct covered
  have codeCount := size_codes_le adds covered
  obtain ⟨font, -⟩ := Array.getElem?_eq_some_iff.mp resolves.font
  obtain ⟨fill, -⟩ := Array.getElem?_eq_some_iff.mp resolves.fill
  obtain ⟨border, -⟩ := Array.getElem?_eq_some_iff.mp resolves.border
  have fontCount : lists.fonts.size ≤ 1 + styles.length := adds.fontCount
  have fillCount : lists.fills.size ≤ 2 + styles.length := adds.fillCount
  have borderCount : lists.borders.size ≤ 1 + styles.length := adds.borderCount
  refine ⟨?_, by omega, by omega, by omega⟩
  rcases resolves.format with builtIn | ⟨-, i, number, found⟩
  · have small := (NumberFormat.of_builtIn? builtIn).2.1
    omega
  · obtain ⟨code, -⟩ := Array.getElem?_eq_some_iff.mp found
    omega

/-- A format is numbered by its own number if it has one. If it has none, its code has one entry in
the list of codes, under a number behind all others, and nothing else has that number.
-/
structure NumbersFormat (lists : StyleLists) (style : Style) (numbers : StyleNumbers) : Prop where
  builtIn : ∀ i, style.format.builtIn? = some i → numbers.format = i
  code : style.format.builtIn? = none → firstCustomFormat ≤ numbers.format
    ∧ lists.codeEntries.filter
        (fun entry => entry.1 = numbers.format ∨ entry.2 = style.format.text)
      = [(numbers.format, style.format.text)]

theorem CallsFormat.numbersFormat (distinct : lists.codes.toList.Nodup)
    (calls : lists.CallsFormat style.format numbers.format)
    : lists.NumbersFormat style numbers where
  builtIn i builtIn := by
    rcases calls with called | ⟨own, -⟩
    · exact Option.some.inj (called.symm.trans builtIn)
    · exact absurd (own.symm.trans builtIn) nofun
  code own := by
    refine ⟨?_, calls.filter_codeEntries distinct own⟩
    rcases calls with called | ⟨-, i, number, -⟩
    · exact absurd (own.symm.trans called) nofun
    · exact number ▸ Nat.le_add_right _ i

end StyleLists

-----------------------------------------------------------------------------------------
-- Workbooks
-----------------------------------------------------------------------------------------

/-- All numbers around the styles of a workbook lead to what they were given for. The table starts
with the default style and has the style of each kept cell under the cell's number; only twins are
listed although they are equal. The document holds lists for the table, with the slots of each style
under the style's numbers, and formats are told apart by theirs. Rules have the numbers of the
styles that they show. Everything is small enough for words.
-/
structure Coherent (w : Workbook) (t : StyleTable) (numbers : List StyleNumbers)
    (lists : StyleLists) : Prop where
  default : t.styles[0]? = some ({} : Style)
  cells : ∀ (index : Nat) (s : Sheet), w.sheets[index]? = some s →
    ∀ row column e, s.cells.entry? row column = some e →
      t.styles[t.cellNumber index e.style]? = some (s.cells.pool.get e.style)
  distinct : t.styles.toList.Pairwise (fun a b => a.same b = false)
    ↔ ∀ a ∈ w.cellStyles, ∀ b ∈ w.cellStyles, ¬ a.IsTwin b
  document : Lists (styleSheetNode t) t numbers lists
  slots : List.Forall₂ lists.Resolves t.styles.toList numbers
  formats : List.Forall₂ lists.NumbersFormat t.styles.toList numbers
  formatNumbers : ∀ a m b n, (a, m) ∈ t.styles.toList.zip numbers →
    (b, n) ∈ t.styles.toList.zip numbers → (m.format = n.format ↔ a.format = b.format)
  rules : ∀ (index : Nat) (s : Sheet), w.sheets[index]? = some s →
    ∀ (place : Nat) (rule : Sheet.Rule), s.rules[place]? = some rule →
      StyleTable.CallsRule t.ruleStyles rule (t.ruleNumber? index place)
  sizes : t.styles.size < Number.wordLimit 32 ∧ t.ruleStyles.size < Number.wordLimit 32
  fits : List.Forall₂ (fun _ n => n.Fit) t.styles.toList numbers

section Workbooks

variable {w : Workbook} (pools : ∀ s ∈ w.sheets, s.cells.pool.get 0 = {})

include pools

/-- The table starts with the default style, and all that follow are styles of cells. -/
theorem StyleTable.exists_styles_eq_cons
    (comparable : ∀ style ∈ w.cellStyles, style.isComparable = true)
    : ∃ rest, (ofWorkbook w).styles.toList = {} :: rest ∧ rest.Nodup
      ∧ ∀ style ∈ rest, style ∈ w.cellStyles := by
  have covers := ofWorkbook_covers pools
  have distinct := covers.distinct comparable
  have first := covers.default
  have members := covers.members
  rw [← Array.getElem?_toList] at first
  simp only [← Array.mem_toList_iff] at members
  cases listed : (ofWorkbook w).styles.toList with
  | nil => rw [listed] at first; cases first
  | cons style rest =>
      rw [listed] at first distinct members
      cases first
      obtain ⟨fresh, distinct⟩ := List.nodup_cons.mp distinct
      refine ⟨rest, rfl, distinct, fun style member => ?_⟩
      rcases members style (List.mem_cons_of_mem _ member) with rfl | styled
      · exact absurd member fresh
      · exact styled

/-- The styles of the table are those of the cells and the default one. -/
theorem StyleTable.mem_styles {style : Style}
    : style ∈ (ofWorkbook w).styles ↔ style = {} ∨ style ∈ w.cellStyles := by
  have covers := ofWorkbook_covers pools
  refine ⟨covers.members style, ?_⟩
  rintro (rfl | styled)
  · exact Array.mem_of_getElem? covers.default
  · obtain ⟨s, member, shown⟩ := List.mem_flatMap.mp styled
    obtain ⟨⟨place, e⟩, listed, rfl⟩ := List.mem_map.mp shown
    obtain ⟨index, found⟩ := List.mem_iff_getElem?.mp member
    exact Array.mem_of_getElem?
      (getElem?_cellNumber pools found (Cell.Grid.mem_entries_iff.mp listed))

/-- Styles of the table can be equal only if they are twins and both were given to cells. -/
theorem StyleTable.distinct_iff (comparable : ∀ style ∈ w.cellStyles, style.isComparable = true)
    : (ofWorkbook w).styles.toList.Pairwise (fun a b => a.same b = false)
      ↔ ∀ a ∈ w.cellStyles, ∀ b ∈ w.cellStyles, ¬ a.IsTwin b := by
  have covers := ofWorkbook_covers pools
  have distinct := covers.distinct comparable
  have lawful : Pool.Lawful ⟨(ofWorkbook w).styles⟩ :=
    ⟨covers.default, fun i found => place_unique distinct found covers.default, fun _ => distinct⟩
  exact (lawful.interns fun style => mem_styles pools).distinct comparable

/-- The lists of a workbook are those that the styles behind the default one make. -/
theorem StyleTable.exists_addAll (comparable : ∀ style ∈ w.cellStyles, style.isComparable = true)
    : ∃ numbers lists rest, StyleLists.addAll {} (ofWorkbook w).styles.toList = (numbers, lists)
      ∧ List.Forall₂ lists.Resolves (ofWorkbook w).styles.toList numbers
      ∧ StyleLists.Adds rest {} lists ∧ rest.Nodup
      ∧ (ofWorkbook w).styles.size = rest.length + 1 ∧ ∀ style ∈ rest, style ∈ w.cellStyles := by
  obtain ⟨rest, listed, distinct, members⟩ := exists_styles_eq_cons pools comparable
  have added := StyleLists.addAll_default rest
  have resolved := (StyleLists.addAll_resolves StyleLists.reserves_empty ({} :: rest)).1
  have adds := (StyleLists.addAll_resolves StyleLists.reserves_empty rest).2
  have size := congrArg List.length listed
  rw [added] at resolved
  rw [listed]
  exact ⟨_, _, rest, added, resolved, adds, distinct, size, members⟩

/-- Cells, rules and slots have numbers that lead to what they were given for, and all fit words if
there are not too many styles. No two styles of the document are equal, unless two cells have styles
that differ only in the sign of a font size of zero.
-/
theorem ofWorkbook_coherent (few : Style.FewerThan (2 ^ 31) (w.cellStyles ++ w.ruleStyles))
    : ∃ numbers lists, Coherent w (StyleTable.ofWorkbook w) numbers lists := by
  obtain ⟨known, limit, covered⟩ := few
  obtain ⟨coveredCells, coveredRules⟩ := List.forall_mem_append.mp covered
  have comparable := Style.isComparable_of_covered coveredCells
  obtain ⟨numbers, lists, rest, added, resolved, adds, distinct, size, members⟩ :=
    StyleTable.exists_addAll pools comparable
  have coveredRest : ∀ style ∈ rest, ∃ other ∈ known, other.same style :=
    fun style member => coveredCells style (members style member)
  have rules := StyleTable.ofWorkbook_coversRules w
  have ruleSize := Style.length_le_of_same
    (rules.distinct (Style.isComparable_of_covered coveredRules))
    fun style member => coveredRules style (rules.members style (Array.mem_toList_iff.mp member))
  have restSize := Style.length_le_of_same distinct coveredRest
  have codes := adds.distinct .nil
  have word : Number.wordLimit 32 = 2 ^ 32 := by decide
  rw [Array.length_toList] at ruleSize
  refine ⟨numbers, lists, {
    default := (StyleTable.ofWorkbook_covers pools).default
    cells := fun index s found row column e kept => StyleTable.getElem?_cellNumber pools found kept
    distinct := StyleTable.distinct_iff pools comparable
    document := styleSheetNode_lists added
    slots := resolved
    formats := resolved.imp fun _ _ calls => calls.format.numbersFormat codes
    formatNumbers := fun a m b n first second => ?_
    rules := fun index s found place rule ruled => StyleTable.ruleNumber?_calls found ruled
    sizes := ⟨by omega, by omega⟩
    fits := resolved.imp fun _ _ calls => calls.fit adds distinct coveredRest limit }⟩
  have each := fun a m (member : (a, m) ∈ _) => (List.forall₂_iff_zip.mp resolved).2 member
  have callsA := (each a m first).format
  have callsB := (each b n second).format
  exact ⟨fun same => (same ▸ callsA).format_unique callsB,
    fun same => (same ▸ callsA).number_unique codes callsB⟩

end Workbooks

-----------------------------------------------------------------------------------------
-- Two sheets
-----------------------------------------------------------------------------------------

/-- A pattern in a frame, with a format code. -/
def framedStyle : Style where
  fill := .pattern .darkGrid .black .auto
  border := .box .thin .black
  format := .code "0.0 kg"

/-- Two sheets with styles that share a code, and rules of which one shows a style. -/
def styledWorkbook : Workbook where
  sheets := [
    Workbook.edited "A" [.setStyle 0 0 { font := { bold := true }, format := .code "0.0 kg" },
      .setStyle 1 1 { format := .code "0.00" },
      .addRule { condition := .dataBar {}, format := some { fill := .solid .black } },
      .addRule { condition := .expression "A1>0", format := some { fill := .solid .white } }],
    Workbook.edited "B" [.setStyle 3 0 framedStyle]]

/-- Cells of the second sheet go on with the numbers of the first one, and only the rule that shows
its style has a number.
-/
theorem styledWorkbook_coherent
    : (∀ s ∈ styledWorkbook.sheets, s.cells.pool.get 0 = {})
      ∧ Style.FewerThan (2 ^ 31) (styledWorkbook.cellStyles ++ styledWorkbook.ruleStyles)
      ∧ (StyleTable.ofWorkbook styledWorkbook).cellNumber 1 1 = 3
      ∧ (StyleTable.ofWorkbook styledWorkbook).ruleNumber? 0 0 = none
      ∧ (StyleTable.ofWorkbook styledWorkbook).ruleNumber? 0 1 = some 0
      ∧ ∃ numbers lists,
          Coherent styledWorkbook (StyleTable.ofWorkbook styledWorkbook) numbers lists := by
  have pools : ∀ s ∈ styledWorkbook.sheets, s.cells.pool.get 0 = {} := by decide +kernel
  have few : Style.FewerThan (2 ^ 31)
      (styledWorkbook.cellStyles ++ styledWorkbook.ruleStyles) :=
    ⟨styledWorkbook.cellStyles ++ styledWorkbook.ruleStyles, by decide +kernel, by decide +kernel⟩
  exact ⟨pools, few, by decide +kernel, by decide +kernel, by decide +kernel,
    ofWorkbook_coherent pools few⟩

-----------------------------------------------------------------------------------------
-- Zeros of both signs
-----------------------------------------------------------------------------------------

/-- Two cells have fonts of size zero with different signs. -/
def zeroSizes : Workbook where
  sheets := [Workbook.edited "S" [.setStyle 0 0 { font := { size := 0 } },
    .setStyle 0 1 { font := { size := Number.Binary64.neg 0 } }]]

/-- The document has two styles for them, although they are equal. -/
theorem zeroSizes_not_distinct
    : zeroSizes.Reachable
      ∧ Style.FewerThan (2 ^ 31) (zeroSizes.cellStyles ++ zeroSizes.ruleStyles)
      ∧ (StyleTable.ofWorkbook zeroSizes).styles.size = 3
      ∧ ¬ (StyleTable.ofWorkbook zeroSizes).styles.toList.Pairwise
          fun a b => a.same b = false := by
  have free : ({} : Workbook).checkNewName "S" = .ok () := by decide
  refine ⟨Workbook.reachable_edited free _, ?_, by decide +kernel, by decide +kernel⟩
  exact ⟨zeroSizes.cellStyles, by decide +kernel, by decide +kernel⟩

end Package

end Spreadsheet
