import Mathlib.Data.List.Dedup
import Mathlib.Data.List.Forall2
import Mathlib.Data.List.Induction
import Mathlib.Data.List.Perm.Subperm
import Spreadsheet.Package.StyleSheet
import Spreadsheet.Proofs.Cell.GridListing
import Spreadsheet.Proofs.Style.Interning

/-! What is found under the numbers that styles and their slots are given. The styles of cells share
one list, those that rules show another. Lists only grow, so that a number that is right once stays
right.
-/

namespace Spreadsheet

-----------------------------------------------------------------------------------------
-- Cells and rules
-----------------------------------------------------------------------------------------

/-- The styles of the kept cells, row by row. -/
def Cell.Grid.cellStyles (g : Cell.Grid) : List Style :=
  g.entries.map fun cell => g.pool.get cell.2.style

/-- The styles of the kept cells of all sheets. -/
def Workbook.cellStyles (w : Workbook) : List Style := w.sheets.flatMap (·.cells.cellStyles)

/-- The style that a rule shows, if rules of its kind show one and it has one. -/
def Sheet.Rule.shownStyle? (rule : Sheet.Rule) : Option Style :=
  if rule.condition.usesFormat then rule.format else none

/-- The styles that the rules of a sheet show. -/
def Sheet.ruleStyles (s : Sheet) : List Style := s.rules.filterMap Rule.shownStyle?

/-- The styles that the rules of all sheets show. -/
def Workbook.ruleStyles (w : Workbook) : List Style := w.sheets.flatMap Sheet.ruleStyles

namespace Package

open Spreadsheet.Cell Spreadsheet.Style

-----------------------------------------------------------------------------------------
-- The table of styles
-----------------------------------------------------------------------------------------

namespace StyleTable

variable {pool : Pool} {n n' n'' : Numbering}

/-- Each style of the pool that has a number is listed under it. -/
def Right (pool : Pool) (n : Numbering) : Prop :=
  ∀ local' i, n.2[local']? = some i → n.1[i]? = some (pool.get local')

/-- What giving numbers to some styles of a pool does. -/
structure Numbers (pool : Pool) (locals : List Nat) (n n' : Numbering) : Prop where
  extends' : Extends n.1 n'.1
  right : Right pool n → Right pool n'
  kept : ∀ local' ∈ n.2, local' ∈ n'.2
  given : ∀ local' ∈ locals, local' ∈ n'.2
  members : ∀ style ∈ n'.1, style ∈ n.1 ∨ style ∈ locals.map pool.get
  distinct : (∀ local' ∈ locals, (pool.get local').isComparable = true) → n.1.toList.Nodup
    → n'.1.toList.Nodup

theorem Numbers.refl (pool : Pool) (n : Numbering) : Numbers pool [] n n where
  extends' := .refl n.1
  right := id
  kept _ := id
  given _ member := absurd member List.not_mem_nil
  members _ := .inl
  distinct _ := id

theorem Numbers.trans {locals locals' : List Nat} (first : Numbers pool locals n n')
    (second : Numbers pool locals' n' n'')
    : Numbers pool (locals ++ locals') n n'' where
  extends' := first.extends'.trans second.extends'
  right := second.right ∘ first.right
  kept local' member := second.kept local' (first.kept local' member)
  given local' member := by
    rcases List.mem_append.mp member with member | member
    · exact second.kept local' (first.given local' member)
    · exact second.given local' member
  members style member := by
    rw [List.map_append, List.mem_append, ← or_assoc]
    rcases second.members style member with member | member
    · exact .inl (first.members style member)
    · exact .inr member
  distinct comparable distinct :=
    second.distinct (fun local' member => comparable local' (List.mem_append_right _ member))
      (first.distinct (fun local' member => comparable local' (List.mem_append_left _ member))
        distinct)

theorem numberCell_numbers (pool : Pool) (n : Numbering) (local' : Nat)
    : Numbers pool [local'] n (numberCell pool n local') := by
  rw [numberCell]
  split
  · next numbered =>
      refine { Numbers.refl pool n with
        given := fun other member => ?_, members := fun _ => .inl, distinct := fun _ => id }
      cases List.mem_singleton.mp member
      exact numbered
  · exact {
      extends' := extends_intern _ _ _
      right := fun right other i found => by
        rw [Std.ExtTreeMap.getElem?_insert] at found
        split at found
        · next here =>
            cases found
            rw [← Std.compare_eq_iff_eq.mp here]
            exact getElem?_intern _ _ _
        · exact extends_intern _ _ _ i _ (right other i found)
      kept := fun other member => Std.ExtTreeMap.mem_insert.mpr (.inr member)
      given := fun other member => by
        cases List.mem_singleton.mp member
        exact Std.ExtTreeMap.mem_insert_self
      members := fun style member => by
        rw [List.map_singleton, List.mem_singleton]
        exact mem_of_mem_intern member
      distinct := fun comparable distinct =>
        nodup_intern (comparable local' (List.mem_singleton_self local')) distinct }

/-- Numbers are given one after the other, by induction on the list. -/
theorem foldl_numberCell_numbers (pool : Pool) (locals : List Nat) (n : Numbering)
    : Numbers pool locals n (locals.foldl (numberCell pool) n) := by
  induction locals generalizing n with
  | nil => exact .refl pool n
  | cons local' rest ih => exact (numberCell_numbers pool n local').trans (ih _)

/-- The table lists the styles of all cells of some sheets under the numbers that it has for them,
and else none but the default one.
-/
structure Covers (t : StyleTable) (sheets : List Sheet) : Prop where
  default : t.styles[0]? = some ({} : Style)
  numbers : List.Forall₂ (fun s (numbers : Numbered Nat) => ∀ cell ∈ s.cells.entries,
    t.styles[numbers.getD cell.2.style 0]? = some (s.cells.pool.get cell.2.style))
      sheets t.cellNumbers
  members : ∀ style ∈ t.styles, style = {} ∨ style ∈ sheets.flatMap (·.cells.cellStyles)
  distinct : (∀ style ∈ sheets.flatMap (·.cells.cellStyles), style.isComparable = true)
    → t.styles.toList.Nodup

theorem covers_empty : Covers empty [] where
  default := rfl
  numbers := .nil
  members style member := .inl (by simpa [empty] using member)
  distinct _ := by simp [empty]

/-- Before a sheet is gone through, only the first style of its pool has a number. -/
theorem right_single {styles : Array Style} (default : styles[0]? = some (pool.get 0))
    : Right pool (styles, Numbered.single 0 0) := by
  intro local' i found
  rw [Numbered.single, Std.ExtTreeMap.getElem?_insert] at found
  split at found
  · next here =>
      cases found
      rw [← Std.compare_eq_iff_eq.mp here]
      exact default
  · rw [Std.ExtTreeMap.getElem?_empty] at found
    cases found

/-- One more sheet is covered if its pool starts with the default style. -/
theorem Covers.addSheet {t : StyleTable} {sheets : List Sheet} {s : Sheet}
    (covers : t.Covers sheets) (default : s.cells.pool.get 0 = {})
    : (t.addSheet s).Covers (sheets ++ [s]) := by
  have given : Numbers s.cells.pool (s.cells.entries.map (·.2.style))
      (t.styles, Numbered.single 0 0) (numberCells t.styles s) := foldl_numberCell_numbers _ _ _
  have right : Right s.cells.pool (t.styles, Numbered.single 0 0) :=
    right_single (default ▸ covers.default)
  have flat : (sheets ++ [s]).flatMap (·.cells.cellStyles)
      = sheets.flatMap (·.cells.cellStyles) ++ s.cells.cellStyles := by simp
  have locals : (s.cells.entries.map (·.2.style)).map s.cells.pool.get = s.cells.cellStyles := by
    rw [List.map_map]
    rfl
  change Covers ⟨(numberCells t.styles s).1, t.cellNumbers ++ [(numberCells t.styles s).2], _, _⟩ _
  generalize numberCells t.styles s = n at given
  refine ⟨given.extends' _ _ covers.default, ?_, fun style member => ?_, fun comparable => ?_⟩
  · refine List.rel_append (covers.numbers.imp fun s' numbers each cell member => ?_)
      (.cons (fun cell member => ?_) .nil)
    · exact given.extends' _ _ (each cell member)
    · have found := Std.ExtTreeMap.getElem?_eq_some_getElem
        (given.given _ (List.mem_map_of_mem member))
      rw [Std.ExtTreeMap.getD_eq_getD_getElem?, found, Option.getD_some]
      exact given.right right _ _ found
  · rw [flat, List.mem_append, ← or_assoc]
    rcases given.members style member with member | member
    · exact .inl (covers.members style member)
    · rw [locals] at member
      exact .inr member
  · rw [flat, List.forall_mem_append] at comparable
    refine given.distinct (fun local' member => ?_) (covers.distinct comparable.1)
    refine comparable.2 _ ?_
    rw [← locals]
    exact List.mem_map_of_mem member

/-- The table of a workbook covers all its sheets, by induction on them. -/
theorem ofWorkbook_covers {w : Workbook}
    (default : ∀ s ∈ w.sheets, s.cells.pool.get 0 = {})
    : (ofWorkbook w).Covers w.sheets := by
  rw [ofWorkbook]
  generalize w.sheets = sheets at default
  induction sheets using List.reverseRecOn with
  | nil => exact covers_empty
  | append_singleton sheets s ih =>
      rw [List.forall_mem_append] at default
      rw [List.foldl_append]
      exact (ih default.1).addSheet (default.2 s (List.mem_singleton_self s))

/-- Each kept cell has the number of its style in the table. -/
theorem getElem?_cellNumber {w : Workbook} (default : ∀ s ∈ w.sheets, s.cells.pool.get 0 = {})
    {index : Nat} {s : Sheet} (found : w.sheets[index]? = some s) {row column : Nat} {e : Entry}
    (kept : s.cells.entry? row column = some e)
    : (ofWorkbook w).styles[(ofWorkbook w).cellNumber index e.style]?
      = some (s.cells.pool.get e.style) := by
  obtain ⟨listed, rfl⟩ := List.getElem?_eq_some_iff.mp found
  obtain ⟨length, numbers⟩ := List.forall₂_iff_get.mp (ofWorkbook_covers default).numbers
  have numbered : index < (ofWorkbook w).cellNumbers.length := length ▸ listed
  rw [cellNumber, List.getElem?_eq_getElem numbered]
  exact numbers index listed numbered (⟨row, column⟩, e) (Grid.mem_entries_iff.mpr kept)

/-- The table lists each style once, if styles are told apart, and so not many more than cells have.
-/
theorem size_styles_le {w : Workbook} (default : ∀ s ∈ w.sheets, s.cells.pool.get 0 = {})
    (comparable : ∀ style ∈ w.cellStyles, style.isComparable = true)
    : (ofWorkbook w).styles.size ≤ w.cellStyles.dedup.length + 1 := by
  have covers := ofWorkbook_covers default
  have among : (ofWorkbook w).styles.toList ⊆ ({} : Style) :: w.cellStyles.dedup := by
    intro style member
    rw [List.mem_cons, List.mem_dedup]
    exact covers.members style (Array.mem_toList_iff.mp member)
  have few := (List.subperm_of_subset (covers.distinct comparable) among).length_le
  simpa using few

-----------------------------------------------------------------------------------------
-- The rules of a sheet
-----------------------------------------------------------------------------------------

/-- A rule that shows a style has the number of the style, and any other rule has none. -/
structure CallsRule (styles : Array Style) (rule : Sheet.Rule) (number : Option Nat) : Prop where
  shown : ∀ style, rule.shownStyle? = some style →
    ∃ i < styles.size, number = some i ∧ styles[i]? = some style
  hidden : rule.shownStyle? = none → number = none

theorem CallsRule.extends' {styles styles' : Array Style} {rule : Sheet.Rule} {number : Option Nat}
    (calls : CallsRule styles rule number) (longer : Extends styles styles')
    : CallsRule styles' rule number where
  shown style shown := by
    obtain ⟨i, -, numbered, found⟩ := calls.shown style shown
    have found' := longer i style found
    exact ⟨i, (Array.getElem?_eq_some_iff.mp found').1, numbered, found'⟩
  hidden := calls.hidden

/-- What numbering the styles of some rules does. -/
structure RuleNumbers (styles : Array Style) (rules : List Sheet.Rule)
    (result : Array Style × List (Option Nat)) : Prop where
  extends' : Extends styles result.1
  calls : List.Forall₂ (CallsRule result.1) rules result.2
  members : ∀ style ∈ result.1, style ∈ styles ∨ style ∈ rules.filterMap Sheet.Rule.shownStyle?
  distinct : (∀ style ∈ rules.filterMap Sheet.Rule.shownStyle?, style.isComparable = true)
    → styles.toList.Nodup → result.1.toList.Nodup

/-- Rules are numbered one after the other, by induction on them. -/
theorem numberRules_ruleNumbers (styles : Array Style) (rules : List Sheet.Rule)
    : RuleNumbers styles rules (numberRules styles rules) := by
  induction rules generalizing styles with
  | nil => exact ⟨.refl styles, .nil, fun _ => .inl, fun _ => id⟩
  | cons rule rules ih =>
      rw [numberRules, ← Sheet.Rule.shownStyle?]
      cases shown : rule.shownStyle? with
      | none =>
          have others := ih styles
          have hidden : CallsRule (numberRules styles rules).1 rule none :=
            ⟨fun style other => absurd (shown.symm.trans other) nofun, fun _ => rfl⟩
          have same : (rule :: rules).filterMap Sheet.Rule.shownStyle?
              = rules.filterMap Sheet.Rule.shownStyle? := List.filterMap_cons_none shown
          exact ⟨others.extends', .cons hidden others.calls, same ▸ others.members,
            same ▸ others.distinct⟩
      | some style =>
          have others := ih (intern Style.isComparable styles style).2
          have found := others.extends' _ _ (getElem?_intern Style.isComparable styles style)
          have same : (rule :: rules).filterMap Sheet.Rule.shownStyle?
              = style :: rules.filterMap Sheet.Rule.shownStyle? := List.filterMap_cons_some shown
          refine ⟨(extends_intern _ _ _).trans others.extends',
            .cons ⟨fun other shown' => ?_, fun hidden => ?_⟩ others.calls,
            fun other listed => ?_, fun comparable distinct => ?_⟩
          · cases shown.symm.trans shown'
            exact ⟨_, (Array.getElem?_eq_some_iff.mp found).1, rfl, found⟩
          · exact absurd (shown.symm.trans hidden) nofun
          · rw [same, List.mem_cons]
            rcases others.members other listed with listed | listed
            · exact (mem_of_mem_intern listed).imp_right .inl
            · exact .inr (.inr listed)
          · rw [same, List.forall_mem_cons] at comparable
            exact others.distinct comparable.2 (nodup_intern comparable.1 distinct)

-----------------------------------------------------------------------------------------
-- The rules of all sheets
-----------------------------------------------------------------------------------------

/-- The table lists the styles of the rules of some sheets under the numbers that it has for them,
and no others.
-/
structure CoversRules (t : StyleTable) (sheets : List Sheet) : Prop where
  calls : List.Forall₂ (fun s numbers => List.Forall₂ (CallsRule t.ruleStyles) s.rules numbers)
    sheets t.ruleNumbers
  members : ∀ style ∈ t.ruleStyles, style ∈ sheets.flatMap Sheet.ruleStyles
  distinct : (∀ style ∈ sheets.flatMap Sheet.ruleStyles, style.isComparable = true)
    → t.ruleStyles.toList.Nodup

theorem CoversRules.addSheet {t : StyleTable} {sheets : List Sheet} {s : Sheet}
    (covers : t.CoversRules sheets)
    : (t.addSheet s).CoversRules (sheets ++ [s]) := by
  have given := numberRules_ruleNumbers t.ruleStyles s.rules
  have flat : (sheets ++ [s]).flatMap Sheet.ruleStyles
      = sheets.flatMap Sheet.ruleStyles ++ s.ruleStyles := by simp
  change CoversRules ⟨_, _, (numberRules t.ruleStyles s.rules).1,
    t.ruleNumbers ++ [(numberRules t.ruleStyles s.rules).2]⟩ _
  generalize numberRules t.ruleStyles s.rules = numbered at given
  refine ⟨?_, fun style member => ?_, fun comparable => ?_⟩
  · refine List.rel_append (covers.calls.imp fun s' numbers each => ?_) (.cons given.calls .nil)
    exact each.imp fun rule number calls => calls.extends' given.extends'
  · rw [flat, List.mem_append]
    exact (given.members style member).imp_left (covers.members style)
  · rw [flat, List.forall_mem_append] at comparable
    exact given.distinct comparable.2 (covers.distinct comparable.1)

/-- The table of a workbook covers the rules of all its sheets, by induction on them. -/
theorem ofWorkbook_coversRules (w : Workbook) : (ofWorkbook w).CoversRules w.sheets := by
  rw [ofWorkbook]
  induction w.sheets using List.reverseRecOn with
  | nil => exact ⟨.nil, fun _ member => absurd member (Array.not_mem_empty _), fun _ => .nil⟩
  | append_singleton sheets s ih =>
      rw [List.foldl_append]
      exact ih.addSheet

/-- Each rule has the number of the style that it shows. -/
theorem ruleNumber?_calls {w : Workbook} {index place : Nat} {s : Sheet} {rule : Sheet.Rule}
    (found : w.sheets[index]? = some s) (ruled : s.rules[place]? = some rule)
    : CallsRule (ofWorkbook w).ruleStyles rule ((ofWorkbook w).ruleNumber? index place) := by
  obtain ⟨listed, rfl⟩ := List.getElem?_eq_some_iff.mp found
  obtain ⟨there, rfl⟩ := List.getElem?_eq_some_iff.mp ruled
  obtain ⟨length, each⟩ := List.forall₂_iff_get.mp (ofWorkbook_coversRules w).calls
  have numbered : index < (ofWorkbook w).ruleNumbers.length := length ▸ listed
  obtain ⟨length', each'⟩ := List.forall₂_iff_get.mp (each index listed numbered)
  simp only [List.get_eq_getElem] at length' each'
  have numbered' : place < ((ofWorkbook w).ruleNumbers[index]).length := length' ▸ there
  rw [ruleNumber?, List.getElem?_eq_getElem numbered, Option.getD_some,
    List.getElem?_eq_getElem numbered', Option.join_some]
  exact each' place there numbered'

end StyleTable

-----------------------------------------------------------------------------------------
-- The lists of slots
-----------------------------------------------------------------------------------------

namespace StyleLists

variable {lists lists' lists'' : StyleLists} {style : Style} {numbers : StyleNumbers}

/-- A format is called by its own number, or else by that of its code in the list. -/
def CallsFormat (lists : StyleLists) (format : NumberFormat) (number : Nat) : Prop :=
  format.builtIn? = some number
    ∨ (format.builtIn? = none
      ∧ ∃ i, number = firstCustomFormat + i ∧ lists.codes[i]? = some format.text)

/-- The numbers call the slots of a style. -/
structure Calls (lists : StyleLists) (style : Style) (numbers : StyleNumbers) : Prop where
  format : lists.CallsFormat style.format numbers.format
  font : lists.fonts[numbers.font]? = some style.font
  fill : lists.fills[numbers.fill]? = some style.fill

/-- The lists have grown by no more entries than were added. -/
structure Grows (count : Nat) (lists lists' : StyleLists) : Prop where
  fonts : Extends lists.fonts lists'.fonts
  fills : Extends lists.fills lists'.fills
  codes : Extends lists.codes lists'.codes
  fontCount : lists'.fonts.size ≤ lists.fonts.size + count
  fillCount : lists'.fills.size ≤ lists.fills.size + count
  codeCount : lists'.codes.size ≤ lists.codes.size + count

theorem Grows.refl (lists : StyleLists) : Grows 0 lists lists :=
  ⟨.refl _, .refl _, .refl _, Nat.le_refl _, Nat.le_refl _, Nat.le_refl _⟩

theorem Grows.trans {count count' : Nat} (first : Grows count lists lists')
    (second : Grows count' lists' lists'')
    : Grows (count + count') lists lists'' where
  fonts := first.fonts.trans second.fonts
  fills := first.fills.trans second.fills
  codes := first.codes.trans second.codes
  fontCount := by have := first.fontCount; have := second.fontCount; omega
  fillCount := by have := first.fillCount; have := second.fillCount; omega
  codeCount := by have := first.codeCount; have := second.codeCount; omega

theorem Calls.grows {count : Nat} (calls : lists.Calls style numbers)
    (grows : Grows count lists lists')
    : lists'.Calls style numbers where
  format := calls.format.imp_right fun ⟨own, i, number, found⟩ =>
    ⟨own, i, number, grows.codes i _ found⟩
  font := grows.fonts _ _ calls.font
  fill := grows.fills _ _ calls.fill

/-- A format gets a number that calls it, and only its code joins a list. -/
theorem number_calls (lists : StyleLists) (format : NumberFormat)
    : (lists.number format).2.CallsFormat format (lists.number format).1
      ∧ ∃ codes, (lists.number format).2 = { lists with codes }
        ∧ Extends lists.codes codes ∧ codes.size ≤ lists.codes.size + 1 := by
  rw [number]
  cases builtIn : format.builtIn? with
  | some i => exact ⟨.inl builtIn, lists.codes, rfl, .refl _, Nat.le_succ _⟩
  | none =>
      exact ⟨.inr ⟨builtIn, _, rfl, getElem?_intern _ lists.codes format.text⟩, _, rfl,
        extends_intern _ _ _, size_intern_le _ _ _⟩

/-- A style gets numbers that call its slots. -/
theorem add_calls (lists : StyleLists) (style : Style)
    : (lists.add style).2.Calls style (lists.add style).1 ∧ Grows 1 lists (lists.add style).2 := by
  obtain ⟨called, codes, same, codesExtend, codeCount⟩ := lists.number_calls style.format
  rw [add]
  generalize lists.number style.format = numbered at called same
  obtain ⟨number, lists'⟩ := numbered
  cases same
  refine ⟨⟨called, ?_, ?_⟩, extends_intern _ _ _, extends_intern _ _ _, codesExtend,
    size_intern_le _ _ _, size_intern_le _ _ _, codeCount⟩
  · exact getElem?_intern _ lists.fonts style.font
  · exact getElem?_intern _ lists.fills style.fill

/-- The numbers of styles that were added one after the other call them all at the end, by induction
on the styles.
-/
theorem addAll_calls (lists : StyleLists) (styles : List Style)
    : List.Forall₂ (lists.addAll styles).2.Calls styles (lists.addAll styles).1
      ∧ Grows styles.length lists (lists.addAll styles).2 := by
  induction styles generalizing lists with
  | nil => exact ⟨.nil, .refl lists⟩
  | cons style rest ih =>
      obtain ⟨first, grows⟩ := lists.add_calls style
      obtain ⟨others, further⟩ := ih (lists.add style).2
      rw [addAll, List.length_cons, Nat.add_comm]
      exact ⟨.cons (first.grows further) others, grows.trans further⟩

end StyleLists

end Package

end Spreadsheet
