import Spreadsheet.Proofs.Number.WholeNumbers
import Spreadsheet.Proofs.Package.LineReadBack
import Spreadsheet.Proofs.Sheet.Bounds
import Spreadsheet.Proofs.Sheet.MergedRanges

/-! A sheet that was written is read with all that can be told of it, unless ranges overlap that
were merged.
-/

namespace Spreadsheet

open Spreadsheet.Cell Spreadsheet.Sheet Spreadsheet.Xml

namespace Package

/-- What is read of a sheet at a position in the workbook, given the table of styles by which it was
written and what its numbers call.
-/
def readGoal (shared : Shared) (t : StyleTable) (index : Nat) (source : Sheet) : Goal
  | .value row column => (source.value row column).asRead
  | .style row column =>
    (source.cells.entry? row column).elim {} fun entry =>
      SheetReading.styleOf shared (SheetReading.numberAsRead (t.cellNumber index entry.style))
  | .line axis i => (Settings.get (source.lines axis) i).asRead
  | .freeze => source.freeze.filter fun f => ¬(f.rows = 0 ∧ f.columns = 0)
  | .filter => source.filter.map Range.normalized

namespace SheetReading

variable (shared : Shared) (t : StyleTable) (index : Nat) {goal : Goal} {source : Sheet}
  {s s' : Sheet}

-----------------------------------------------------------------------------------------
-- Cells, row by row
-----------------------------------------------------------------------------------------

/-- Items that each come to the goal do so together, by induction on their list. -/
theorem exists_takesAll_flatMap {items : List α} {nodes : α → List Node}
    {covers : α → Aspect → Prop}
    (each : ∀ item ∈ items, ∀ s, ∃ s', TakesAll shared (nodes item) s s'
      ∧ s.Brings goal (covers item) s')
    (s : Sheet)
    : ∃ s', TakesAll shared (items.flatMap nodes) s s'
      ∧ s.Brings goal (fun a => ∃ item ∈ items, covers item a) s' := by
  induction items generalizing s with
  | nil => exact ⟨s, .nil, (Brings.refl goal s).mono (by simp)⟩
  | cons first rest ih =>
      obtain ⟨s₁, taken, brings⟩ := each first List.mem_cons_self s
      obtain ⟨s₂, others, further⟩ :=
        ih (fun item member => each item (List.mem_cons_of_mem _ member)) s₁
      refine ⟨s₂, taken.append others, (brings.trans further).mono ?_⟩
      rintro a ⟨item, member, covered⟩
      rcases List.mem_cons.mp member with rfl | member
      · exact .inl covered
      · exact .inr ⟨item, member, covered⟩

theorem exists_takesAll_map {items : List α} {node : α → Node} {covers : α → Aspect → Prop}
    (each : ∀ item ∈ items, ∀ s, ∃ s', Takes shared (node item) s s'
      ∧ s.Brings goal (covers item) s')
    (s : Sheet)
    : ∃ s', TakesAll shared (items.map node) s s'
      ∧ s.Brings goal (fun a => ∃ item ∈ items, covers item a) s' := by
  rw [List.map_eq_flatMap]
  refine exists_takesAll_flatMap shared (fun item member s => ?_) s
  obtain ⟨s', taken, brings⟩ := each item member s
  exact ⟨s', .single taken, brings⟩

/-- Where no cell is kept, nothing is to be read. -/
theorem readGoal_of_entry? {row column : Nat} (none : source.cells.entry? row column = none)
    : readGoal shared t index source (.value row column) = .empty
      ∧ readGoal shared t index source (.style row column) = {} := by
  constructor
  · rw [readGoal, Sheet.value, Grid.value, none]
    rfl
  · rw [readGoal, none]
    rfl

/-- All cells of a written row are read at their positions. -/
theorem exists_takesAll_rowCells (inside : source.Placed) {row : Nat} (placed : row < maxRows)
    (s : Sheet)
    : ∃ s', TakesAll shared (rowCells t index source row) s s'
      ∧ s.Brings (readGoal shared t index source)
        (fun a => ∃ column, a = .value row column ∨ a = .style row column) s' := by
  have each : ∀ cell ∈ (source.cells.row row).toList, ∀ s, ∃ s',
      TakesAll shared (cellNode ⟨row, cell.1⟩ (t.cellNumber index cell.2.style) cell.2.value) s s'
      ∧ s.Brings (readGoal shared t index source)
        (fun a => a = .value row cell.1 ∨ a = .style row cell.1) s' := by
    intro cell member s
    have kept : source.cells.entry? row cell.1 = some cell.2 :=
      Std.ExtTreeMap.mem_toList_iff_getElem?_eq_some.mp member
    have onSheet : Address.OnSheet ⟨row, cell.1⟩ :=
      ⟨placed, inside.cells.row (Numbered.mem_of_getElem? kept)⟩
    refine exists_takesAll_cellNode onSheet ?_ ?_ s
    · rw [readGoal, Sheet.value, Grid.value, kept]
      rfl
    · rw [readGoal, kept]
      rfl
  obtain ⟨s', taken, brings⟩ := exists_takesAll_flatMap shared each s
  refine ⟨s', taken, ((Brings.refl _ s).trans brings).mono ?_⟩
  rintro a ⟨column, covered⟩
  cases kept : source.cells.entry? row column with
  | none =>
      have nothing := readGoal_of_entry? shared t index kept
      left
      rcases covered with rfl | rfl
      · exact nothing.1
      · exact nothing.2
  | some entry =>
      exact .inr ⟨(column, entry), Std.ExtTreeMap.mem_toList_iff_getElem?_eq_some.mpr kept, covered⟩

/-- A row covers its cells and its setting. -/
def OfRow (row : Nat) (a : Aspect) : Prop :=
  a = .line .rows row ∨ ∃ column, a = .value row column ∨ a = .style row column

/-- A written row is read with its setting and all its cells. -/
theorem exists_takes_rowNode (inside : source.Placed) (outlined : source.Outlined) {row : Nat}
    (placed : row < maxRows) (s : Sheet)
    : ∃ s', Takes shared (rowNode t index source row) s s'
      ∧ s.Brings (readGoal shared t index source) (OfRow row) s' := by
  have aimed : readGoal shared t index source (.line .rows row)
      = (Settings.get source.rows row).asRead := rfl
  obtain ⟨s₁, applied, first⟩ := exists_applyRow outlined placed aimed s
  obtain ⟨s₂, taken, second⟩ := exists_takesAll_rowCells shared t index inside placed s₁
  refine ⟨s₂, ?_, first.trans second⟩
  rw [rowNode]
  split
  · next none =>
      rw [List.isEmpty_iff.mp none] at taken
      cases taken
      exact .leaf (onSheet_of_ok applied)
  · exact .block (by decide) (onSheet_of_ok applied) taken

theorem mem_writtenRows_iff {row : Nat}
    : row ∈ writtenRows source
      ↔ row ∈ source.cells.rows ∨ row ∈ (ownSettings source.rows).map (·.1) := by
  rw [writtenRows, Std.ExtTreeMap.mem_keys, Std.ExtTreeMap.mem_ofList, List.map_map,
    List.contains_iff_mem]
  change row ∈ List.map id _ ↔ _
  rw [List.map_id, List.mem_append, Std.ExtTreeMap.mem_keys]

/-- A line without a setting of its own has the default one. -/
theorem get_eq_of_not_mem_ownSettings {m : Settings} {i : Nat}
    (unlisted : i ∉ (ownSettings m).map (·.1))
    : Settings.get m i = {} := by
  rw [Settings.get, Std.ExtTreeMap.getD_eq_getD_getElem?]
  cases found : m[i]? with
  | none => rfl
  | some setting =>
      by_contra own
      refine unlisted (List.mem_map.mpr ⟨(i, setting), List.mem_filter.mpr ⟨?_, ?_⟩, rfl⟩)
      · exact Std.ExtTreeMap.mem_toList_iff_getElem?_eq_some.mpr found
      · rw [Setting.isDefault, Bool.not_eq_true', beq_eq_false_iff_ne]
        exact own

/-- A row that is not written has nothing to read. -/
theorem readGoal_of_not_mem_writtenRows {row : Nat} (unwritten : row ∉ writtenRows source)
    {a : Aspect} (ofRow : OfRow row a)
    : readGoal shared t index source a = a.blank := by
  rw [mem_writtenRows_iff, not_or] at unwritten
  rcases ofRow with rfl | ⟨column, cell⟩
  · change (Settings.get source.rows row).asRead = _
    rw [get_eq_of_not_mem_ownSettings unwritten.2]
    rfl
  · have none : source.cells.entry? row column = none := by
      rw [Grid.entry?, Grid.row, Std.ExtTreeMap.getD_eq_fallback unwritten.1,
        Std.ExtTreeMap.getElem?_empty]
    have nothing := readGoal_of_entry? shared t index none
    rcases cell with rfl | rfl
    · exact nothing.1
    · exact nothing.2

theorem lt_of_mem_writtenRows (inside : source.Placed) {row : Nat}
    (member : row ∈ writtenRows source)
    : row < maxRows := by
  rcases mem_writtenRows_iff.mp member with member | member
  · exact (inside.cells row _ (Std.ExtTreeMap.getElem?_eq_some_getElem member)).1
  · obtain ⟨line, own, rfl⟩ := List.mem_map.mp member
    have kept := Std.ExtTreeMap.mem_toList_iff_getElem?_eq_some.mp (List.mem_filter.mp own).1
    exact inside.rows line.1 (Numbered.mem_of_getElem? kept)

/-- All rows of a written sheet are read. -/
theorem exists_takes_dataNode (inside : source.Placed) (outlined : source.Outlined) (s : Sheet)
    : ∃ s', Takes shared (dataNode t index source) s s'
      ∧ s.Brings (readGoal shared t index source) (fun a => ∃ row, OfRow row a) s' := by
  obtain ⟨s', taken, brings⟩ := exists_takesAll_map shared
    (fun row member => exists_takes_rowNode shared t index inside outlined
      (lt_of_mem_writtenRows inside member)) s
  refine ⟨s', ?_, ((Brings.refl _ s).trans brings).mono ?_⟩
  · rw [dataNode]
    split
    · next none =>
        rw [List.isEmpty_iff.mp none] at taken
        cases taken
        exact .leaf rfl
    · exact .block (by decide) rfl taken
  · rintro a ⟨row, ofRow⟩
    by_cases written : row ∈ writtenRows source
    · exact .inr ⟨row, written, ofRow⟩
    · exact .inl (readGoal_of_not_mem_writtenRows shared t index written ofRow)

-----------------------------------------------------------------------------------------
-- Columns, the view and the filter
-----------------------------------------------------------------------------------------

/-- The settings of all columns are read. -/
theorem exists_takesAll_columnNodes (outlined : source.Outlined) (s : Sheet)
    : ∃ s', TakesAll shared (columnNodes source) s s'
      ∧ s.Brings (readGoal shared t index source) (fun a => ∃ i, a = .line .columns i) s' := by
  have each : ∀ line ∈ ownSettings source.columns, ∀ s, ∃ s',
      Takes shared (columnNode line.1 line.2) s s'
      ∧ s.Brings (readGoal shared t index source) (· = .line .columns line.1) s' := by
    intro line own s
    have kept := Std.ExtTreeMap.mem_toList_iff_getElem?_eq_some.mp (List.mem_filter.mp own).1
    have aimed : readGoal shared t index source (.line .columns line.1) = line.2.asRead := by
      change (Settings.get source.columns line.1).asRead = _
      rw [Settings.get, Std.ExtTreeMap.getD_eq_getD_getElem?, kept]
      rfl
    exact exists_takes_columnNode
      ((outlined .columns).columns rfl line.1 (Numbered.mem_of_getElem? kept))
      ((outlined .columns).shallow line.1 line.2 kept) aimed s
  obtain ⟨s', taken, brings⟩ := exists_takesAll_map shared each s
  have covers : s.Brings (readGoal shared t index source) (fun a => ∃ i, a = .line .columns i)
      s' := by
    refine ((Brings.refl _ s).trans brings).mono ?_
    rintro a ⟨i, rfl⟩
    by_cases listed : i ∈ (ownSettings source.columns).map (·.1)
    · obtain ⟨line, own, rfl⟩ := List.mem_map.mp listed
      exact .inr ⟨line, own, rfl⟩
    · left
      change (Settings.get source.columns i).asRead = _
      rw [get_eq_of_not_mem_ownSettings listed]
      rfl
  refine ⟨s', ?_, covers⟩
  rw [columnNodes]
  cases none : (ownSettings source.columns).isEmpty with
  | true =>
      rw [List.isEmpty_iff.mp none] at taken
      cases taken
      exact .nil
  | false => exact .single (.block (by decide) rfl taken)

/-- What a pane says of frozen rows or columns. -/
theorem splitAt_readAttributes {attributes : List (String × String)} {name key : String}
    {n limit : Nat} (fits : n < limit) (small : n < 2 ^ 53)
    (said : attributes.lookup key = if 0 < n then some (Nat.repr n) else none)
    : splitAt ⟨name, readAttributes attributes⟩ key limit = n := by
  rw [splitAt, Tag.number?, attribute?_readAttributes, said]
  split
  · next positive =>
      rw [Option.map_some, legalPart_eq_self (legal_repr n)]
      change (Number.readBinary64? (Nat.repr n).toList).elim 0 _ = n
      rw [Number.readBinary64?_repr]
      exact (Number.Binary64.floorUpTo_ofNat _ positive small).trans (by omega)
  · next none => exact (Nat.eq_zero_of_not_pos none).symm

/-- A pane freezes the rows and columns that it says. -/
theorem applyPane_freezeNodes {rows columns : Nat} (fewRows : rows < rowNumberLimit)
    (fewColumns : columns < Number.wordLimit 16) (corner : String) (active : String) (s : Sheet)
    : applyPane ⟨"pane", readAttributes (attributeIf (0 < columns) "xSplit" (Nat.repr columns)
          ++ attributeIf (0 < rows) "ySplit" (Nat.repr rows)
          ++ [("topLeftCell", corner), ("activePane", active), ("state", "frozen")])⟩ s
      = s.setFreeze rows columns := by
  generalize tagged : (attributeIf (0 < columns) "xSplit" (Nat.repr columns)
    ++ attributeIf (0 < rows) "ySplit" (Nat.repr rows)
    ++ [("topLeftCell", corner), ("activePane", active), ("state", "frozen")]) = attributes
  have said : attributes.lookup "xSplit" = (if 0 < columns then some (Nat.repr columns) else none)
      ∧ attributes.lookup "ySplit" = (if 0 < rows then some (Nat.repr rows) else none)
      ∧ attributes.lookup "state" = some "frozen" := by
    rw [← tagged]
    cases rows <;> cases columns <;> exact ⟨rfl, rfl, rfl⟩
  have frozen : legalPart "frozen" = "frozen" := by decide
  have rowLimit : rowNumberLimit < 2 ^ 53 := by decide
  have columnLimit : Number.wordLimit 16 < 2 ^ 53 := by decide
  rw [applyPane, attribute?_readAttributes, said.2.2, Option.map_some, frozen, if_pos rfl,
    splitAt_readAttributes fewRows (fewRows.trans rowLimit) said.2.1,
    splitAt_readAttributes fewColumns (fewColumns.trans columnLimit) said.1]

/-- Frozen rows and columns are read, if there are any. -/
theorem exists_takes_viewNode (inside : source.Placed) (s : Sheet)
    : ∃ s', Takes shared (viewNode index source) s s'
      ∧ s.Brings (readGoal shared t index source) (· = .freeze) s' := by
  rw [viewNode]
  cases frozen : source.freeze with
  | none =>
      refine ⟨s, .element (by decide) rfl (.single (.leaf rfl)), (Brings.refl _ s).mono ?_⟩
      rintro a rfl
      rw [readGoal, frozen]
      rfl
  | some f =>
      obtain ⟨fewRows, fewColumns⟩ := inside.freeze f frozen
      have pane : Takes shared (.leaf "pane"
          (attributeIf (0 < f.columns) "xSplit" (Nat.repr f.columns)
            ++ attributeIf (0 < f.rows) "ySplit" (Nat.repr f.rows)
            ++ [("topLeftCell", f.topLeftCell.text), ("activePane", activePane f),
              ("state", "frozen")])) s (s.setFreeze f.rows f.columns) := by
        have frozen :=
          applyPane_freezeNodes fewRows fewColumns f.topLeftCell.text (activePane f) s
        exact .leaf (congrArg (fun sheet => Except.ok (mk sheet none none none none)) frozen)
      have taken : TakesAll shared (freezeNodes f) s (s.setFreeze f.rows f.columns) :=
        .cons pane (.single (.leaf rfl))
      refine ⟨s.setFreeze f.rows f.columns,
        .element (by decide) rfl (.single (.element (by decide) rfl taken)), ?_⟩
      refine .of_changes (fun _ => changes_setFreeze s f.rows f.columns) fun _ => ?_
      rw [readGoal, frozen, Option.filter_some]
      by_cases nothing : f.rows = 0 ∧ f.columns = 0
      · simp [nothing]
      · simp [nothing]

/-- A filter is read with its corners in order. -/
theorem exists_takesAll_filterNodes (inside : source.Placed) (s : Sheet)
    : ∃ s', TakesAll shared (filterNodes source) s s'
      ∧ s.Brings (readGoal shared t index source) (· = .filter) s' := by
  rw [filterNodes]
  cases filtered : source.filter with
  | none =>
      refine ⟨s, .nil, (Brings.refl _ s).mono ?_⟩
      rintro a rfl
      rw [readGoal, filtered]
      rfl
  | some range =>
      have parsed : applyFilter range.text s = .ok { s with filter := some range.normalized } := by
        rw [applyFilter, ModelError.parseRange, Range.parse_text (inside.filter range filtered)]
        rfl
      refine ⟨{ s with filter := some range.normalized }, .single (.leaf (onSheet_of_ok ?_)), ?_⟩
      · rw [attribute?_readAttributes]
        change applyFilter (legalPart range.text) s = _
        rw [legalPart_eq_self range.legal_text, parsed]
      · refine .of_changes (fun _ => changes_filter s _) fun _ => ?_
        rw [readGoal, filtered]
        rfl

-----------------------------------------------------------------------------------------
-- Merged ranges
-----------------------------------------------------------------------------------------

variable {shared}

/-- Merging a range that is read succeeds or fails as the merging of the range itself does. -/
theorem applyMerge_text {range : Range} (onSheet : range.OnSheet) (s : Sheet)
    : ifGiven ((⟨"mergeCell", readAttributes [("ref", range.text)]⟩ : Tag).attribute? "ref")
        applyMerge s = s.merge range.normalized := by
  rw [attribute?_readAttributes]
  change applyMerge (legalPart range.text) s = _
  rw [legalPart_eq_self range.legal_text, applyMerge, ModelError.parseRange,
    Range.parse_text onSheet]
  rfl

theorem takes_merge {range : Range} (onSheet : range.OnSheet)
    (clear : ∀ other ∈ s.merged, ¬ range.normalized.overlaps other)
    : Takes shared (.leaf "mergeCell" [("ref", range.text)]) s
        { s with merged := s.merged ++ [range.normalized] } :=
  .leaf (onSheet_of_ok ((applyMerge_text onSheet s).trans (merge_eq_ok.mpr ⟨clear, rfl⟩)))

theorem refuses_merge {range other : Range} (onSheet : range.OnSheet) (member : other ∈ s.merged)
    (overlap : range.normalized.overlaps other)
    : Refuses shared (.leaf "mergeCell" [("ref", range.text)]) s := by
  have conflict : s.merge range.normalized = .error _ :=
    if_pos (List.any_eq_true.mpr ⟨other, member, overlap⟩)
  exact .leaf (onSheet_of_error ((applyMerge_text onSheet s).trans conflict))

/-- Ranges that are clear of each other are all merged, by induction on their list. -/
theorem takesAll_merges {ranges : List Range} (onSheet : RangesOnSheet ranges)
    (apart : (s.merged ++ ranges.map Range.normalized).Pairwise fun a b => ¬ a.overlaps b)
    : TakesAll shared (ranges.map fun r => Node.leaf "mergeCell" [("ref", r.text)]) s
        { s with merged := s.merged ++ ranges.map Range.normalized } := by
  induction ranges generalizing s with
  | nil =>
      rw [List.map_nil, List.map_nil, List.append_nil]
      exact .nil
  | cons range rest ih =>
      have clear : ∀ other ∈ s.merged, ¬ range.normalized.overlaps other := by
        intro other member overlap
        rw [Range.overlaps_comm] at overlap
        exact (List.pairwise_append.mp apart).2.2 other member _ List.mem_cons_self overlap
      rw [List.map_cons, List.append_cons] at apart
      have others := ih (s := { s with merged := s.merged ++ [range.normalized] })
        (fun r member => onSheet r (List.mem_cons_of_mem _ member)) apart
      rw [List.map_cons, List.map_cons, List.append_cons]
      exact .cons (takes_merge (onSheet range List.mem_cons_self) clear) others

/-- Of ranges that are not, the first one fails that overlaps one before it. -/
theorem refusesOne_merges {ranges : List Range} (onSheet : RangesOnSheet ranges)
    (before : s.merged.Pairwise fun a b => ¬ a.overlaps b)
    (clash : ¬ (s.merged ++ ranges.map Range.normalized).Pairwise fun a b => ¬ a.overlaps b)
    : RefusesOne shared (ranges.map fun r => Node.leaf "mergeCell" [("ref", r.text)]) s := by
  induction ranges generalizing s with
  | nil =>
      rw [List.map_nil, List.append_nil] at clash
      exact absurd before clash
  | cons range rest ih =>
      have placed := onSheet range List.mem_cons_self
      by_cases clear : ∀ other ∈ s.merged, ¬ range.normalized.overlaps other
      · rw [List.map_cons, List.append_cons] at clash
        refine .later (takes_merge placed clear) (ih (fun r member =>
          onSheet r (List.mem_cons_of_mem _ member)) ?_ clash)
        refine List.pairwise_append.mpr ⟨before, List.pairwise_singleton _ _, ?_⟩
        intro other member r same overlap
        cases List.mem_singleton.mp same
        rw [Range.overlaps_comm] at overlap
        exact clear other member overlap
      · simp only [not_forall, not_not] at clear
        obtain ⟨other, member, overlap⟩ := clear
        exact .here (refuses_merge placed member overlap)

-----------------------------------------------------------------------------------------
-- Whole sheets
-----------------------------------------------------------------------------------------

theorem takesAll_quiet {nodes : List Node} (quiet : ∀ node ∈ nodes, node.EachTag IsQuiet)
    : TakesAll shared nodes s s := .quiet nodes (eachTagOf_iff.mpr quiet)

/-- What stands in front of the merged ranges tells all that is read of a sheet but them. -/
theorem exists_takesAll_frontNodes (shared : Shared) (inside : source.Placed)
    (outlined : source.Outlined) (t : StyleTable) (index : Nat) (s : Sheet)
    : ∃ s', TakesAll shared
        (sheetPropertyNodes source ++ dimensionNodes source
          ++ [viewNode index source, sheetFormatNode source] ++ columnNodes source
          ++ [dataNode t index source] ++ protectionNodes source ++ filterNodes source) s s'
      ∧ s.Brings (readGoal shared t index source) (fun _ => True) s' := by
  obtain ⟨s₁, viewed, first⟩ := exists_takes_viewNode shared t index inside s
  obtain ⟨s₂, columns, second⟩ := exists_takesAll_columnNodes shared t index outlined s₁
  obtain ⟨s₃, data, third⟩ := exists_takes_dataNode shared t index inside outlined s₂
  obtain ⟨s₄, filtered, fourth⟩ := exists_takesAll_filterNodes shared t index inside s₃
  have properties : TakesAll shared (sheetPropertyNodes source) s s :=
    takesAll_quiet fun _ => sheetPropertyNodes_quiet
  have dimension : TakesAll shared (dimensionNodes source) s s :=
    takesAll_quiet fun _ => dimensionNodes_quiet
  have locked : TakesAll shared (protectionNodes source) s₃ s₃ :=
    takesAll_quiet fun _ => protectionNodes_quiet
  have format : Takes shared (sheetFormatNode source) s₁ s₁ :=
    .quiet _ (sheetFormatNode_quiet source)
  have view := (properties.append dimension).append (.cons viewed (.single format))
  have cells := (view.append columns).append (.single data)
  refine ⟨s₄, (cells.append locked).append filtered,
    (((first.trans second).trans third).trans fourth).mono fun a _ => ?_⟩
  cases a with
  | value row column => exact .inl (.inr ⟨row, .inr ⟨column, .inl rfl⟩⟩)
  | style row column => exact .inl (.inr ⟨row, .inr ⟨column, .inr rfl⟩⟩)
  | line axis i =>
      cases axis with
      | rows => exact .inl (.inr ⟨i, .inl rfl⟩)
      | columns => exact .inl (.inl (.inr ⟨i, rfl⟩))
  | freeze => exact .inl (.inl (.inl rfl))
  | filter => exact .inr rfl

theorem takesAll_mergeNodes (shared : Shared) (inside : source.Placed)
    (apart : source.MergesApart) (fresh : s.merged = [])
    : TakesAll shared (mergeNodes source) s
        { s with merged := source.merged.map Range.normalized } := by
  have merged : TakesAll shared (source.merged.map _) s _ :=
    takesAll_merges inside.merged (by rw [fresh]; exact apart)
  rw [fresh, List.nil_append] at merged
  rw [mergeNodes]
  cases none : source.merged.isEmpty with
  | true =>
      rw [List.isEmpty_iff.mp none, List.map_nil] at merged
      rw [List.isEmpty_iff.mp none]
      exact merged
  | false => exact .single (.block (by decide) rfl merged)

theorem refusesOne_mergeNodes (shared : Shared) (inside : source.Placed)
    (clash : ¬ source.MergesApart) (fresh : s.merged = [])
    : RefusesOne shared (mergeNodes source) s := by
  have refused : RefusesOne shared (source.merged.map _) s :=
    refusesOne_merges inside.merged (by rw [fresh]; exact .nil) (by rw [fresh]; exact clash)
  rw [mergeNodes]
  cases none : source.merged.isEmpty with
  | true =>
      rw [MergesApart, List.isEmpty_iff.mp none] at clash
      exact absurd .nil clash
  | false => exact .here (.block rfl refused)

/-- What leads to the drawing is not read. -/
theorem takesAll_drawingNodes (shared : Shared) (source s : Sheet)
    : TakesAll shared (drawingNodes source) s s := by
  rw [drawingNodes]
  cases source.pictures.isEmpty with
  | true => exact .nil
  | false => exact .single (.leaf (empty_unread (by decide)))

theorem takesAll_backNodes (shared : Shared) (t : StyleTable) (index : Nat) (source s : Sheet)
    : TakesAll shared (ruleNodes t index source ++ validationNodes source ++ pageNodes source
        ++ drawingNodes source) s s :=
  (((takesAll_quiet fun _ => ruleNodes_quiet).append
    (takesAll_quiet fun _ => validationNodes_quiet)).append
    (takesAll_quiet fun _ => pageNodes_quiet)).append (takesAll_drawingNodes shared source s)

theorem Takes.foldEvents_eq {root : Node} (taken : Takes shared root s s')
    (formed : root.EachTag IsTag) (part : String)
    : foldEvents (step shared) { sheet := s } (Part.ofRoot part root).content
      = .ok { sheet := s' } := by
  rw [foldEvents_ofRoot part formed, (deaf s).foldlM_joinTexts, ← List.append_nil root.events,
    taken]
  rfl

theorem Refuses.exists_foldEvents_eq {root : Node} (refused : Refuses shared root s)
    (formed : root.EachTag IsTag) (part : String)
    : ∃ e, foldEvents (step shared) { sheet := s } (Part.ofRoot part root).content = .error e := by
  obtain ⟨e, refused⟩ := refused
  refine ⟨e, ?_⟩
  rw [foldEvents_ofRoot part formed, (deaf s).foldlM_joinTexts, ← List.append_nil root.events,
    refused]

/-- A written sheet is read with all that can be told of it, if its merged ranges are clear of each
other.
-/
theorem exists_read_sheetNode (shared : Shared) (inside : source.Placed)
    (outlined : source.Outlined) (apart : source.MergesApart) (t : StyleTable) (index : Nat)
    (part name : String)
    : ∃ s', foldEvents (step shared) { sheet := { name } }
          (Part.ofRoot part (sheetNode t index source)).content = .ok { sheet := s' }
      ∧ s'.merged = source.merged.map Range.normalized
      ∧ ∀ a, s'.view a = readGoal shared t index source a := by
  have start := Nears.start (readGoal shared t index source) name
  obtain ⟨s', front, brings⟩ :=
    exists_takesAll_frontNodes shared inside outlined t index { name }
  have merged := takesAll_mergeNodes shared inside apart (brings.merged start)
  have back := takesAll_backNodes shared t index source
    { s' with merged := source.merged.map Range.normalized }
  have nodes := (front.append merged).append back
  simp only [← List.append_assoc] at nodes
  have taken : Takes shared (sheetNode t index source) { name }
      { s' with merged := source.merged.map Range.normalized } := .block (by decide) rfl nodes
  refine ⟨_, taken.foldEvents_eq (sheetNode_eachTag t index source) part, rfl, fun a => ?_⟩
  have same : ({ s' with merged := source.merged.map Range.normalized } : Sheet).view a
      = s'.view a := by
    cases a with
    | line axis i => cases axis <;> rfl
    | value | style | freeze | filter => rfl
  exact same.trans (brings.comes start a trivial)

/-- A sheet whose merged ranges overlap cannot be read. -/
theorem exists_error_sheetNode (shared : Shared) (inside : source.Placed)
    (outlined : source.Outlined) (clash : ¬ source.MergesApart) (t : StyleTable) (index : Nat)
    (part name : String)
    : ∃ e, foldEvents (step shared) { sheet := { name } }
        (Part.ofRoot part (sheetNode t index source)).content = .error e := by
  have start := Nears.start (readGoal shared t index source) name
  obtain ⟨s', front, brings⟩ :=
    exists_takesAll_frontNodes shared inside outlined t index { name }
  have merged := refusesOne_mergeNodes shared inside clash (brings.merged start)
  have nodes := (RefusesOne.append_right front merged).append_left
    (ruleNodes t index source ++ validationNodes source ++ pageNodes source ++ drawingNodes source)
  simp only [← List.append_assoc] at nodes
  have refused : Refuses shared (sheetNode t index source) { name } := .block rfl nodes
  exact refused.exists_foldEvents_eq (sheetNode_eachTag t index source) part

end SheetReading

end Package

end Spreadsheet
