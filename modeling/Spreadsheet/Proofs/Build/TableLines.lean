import Mathlib.Data.List.Induction
import Spreadsheet.Proofs.Build.DeclaredLines
import Spreadsheet.Proofs.Request.IssuePlaces
import Spreadsheet.Request.Decode

/-! The settings of the rows and columns of a finished table. The header gives them first, then the
formatting; nothing else that builds a table touches them. What a row or column ends up with can be
read off the declarations, in whatever order these are given.
-/

namespace Spreadsheet

open Spreadsheet.Cell Spreadsheet.Number Spreadsheet.Sheet

namespace Request

/-- The formatting without what it declares for rows and columns. -/
def FormattingSpec.withoutLines (f : FormattingSpec) : FormattingSpec :=
  { f with rowHeights := [], hiddenRows := [], hiddenColumns := [], rowGroups := [],
           columnGroups := [] }

open Spreadsheet.Json Decoder

theorem keys_of_entries {α : Type} {d : Decoder α} {ms : Json.Members} {list : List (String × α)}
    (read : entries d (.object ms) = some list)
    : list.map Prod.fst = ms.map Prod.fst := by
  simp only [entries] at read
  induction ms generalizing list with
  | nil =>
      cases read
      rfl
  | cons m ms ih =>
      rw [List.mapM_cons] at read
      obtain ⟨first, here, read⟩ := Option.bind_eq_some_iff.mp read
      obtain ⟨rest, there, read⟩ := Option.bind_eq_some_iff.mp read
      cases read
      obtain ⟨a, -, rfl⟩ := Option.map_eq_some_iff.mp here
      rw [List.map_cons, List.map_cons, ih there]

/-- A formatting read from a document has its heights in the order of their keys. -/
theorem FormattingSpec.rowHeights_ordered {v : Json.Value} {f : FormattingSpec}
    (ordered : v.Ordered) (read : FormattingSpec.decode v = some f)
    : f.rowHeights.Pairwise fun a b => a.1 < b.1 := by
  obtain ⟨ms, object, read⟩ := Option.bind_eq_some_iff.mp read
  iterate 8 obtain ⟨_, -, read⟩ := Option.bind_eq_some_iff.mp read
  obtain ⟨heights, found, read⟩ := Option.bind_eq_some_iff.mp read
  iterate 4 obtain ⟨_, -, read⟩ := Option.bind_eq_some_iff.mp read
  cases read
  cases v with
  | object all =>
      cases object
      simp only [Members.withDefault] at found
      split at found
      · cases found
        exact .nil
      · next v member =>
          have inner :=
            (Value.ordered_object_iff.mp ordered).2 _ (Json.Members.mem_of_get?_eq_some member)
          cases v with
          | object entries =>
              have order := List.pairwise_map.mpr (Value.ordered_object_iff.mp inner).1
              rw [← keys_of_entries found] at order
              exact List.pairwise_map.mp order
          | _ => cases found
  | _ => cases object

end Request

namespace Build

open Spreadsheet.Request

-----------------------------------------------------------------------------------------
-- Steps that leave rows and columns alone
-----------------------------------------------------------------------------------------

variable {spec : SheetSpec} {f : FormattingSpec} {s s' : Sheet}

theorem lines_eq (rows : s'.rows = s.rows) (columns : s'.columns = s.columns)
    : s'.lines = s.lines := by
  funext axis
  cases axis
  · exact rows
  · exact columns

theorem setValue_lines {row column : Nat} {v : Value} (done : s.setValue row column v = .ok s')
    : s'.lines = s.lines := by
  obtain ⟨-, rfl⟩ := setValue_eq_ok.mp done
  exact lines_eq rfl rfl

theorem setStyle_lines {row column : Nat} {style : Style}
    (done : s.setStyle row column style = .ok s')
    : s'.lines = s.lines := by
  obtain ⟨-, rfl⟩ := setStyle_eq_ok.mp done
  exact lines_eq rfl rfl

/-- A step that may be left out. -/
theorem skippable_lines {p : Prop} [Decidable p] {result : Except BuildError Sheet}
    (each : result = .ok s' → s'.lines = s.lines)
    (done : (if p then .ok s else result) = .ok s')
    : s'.lines = s.lines := by
  split at done
  · cases done
    rfl
  · exact each done

theorem forEachFrom_lines {step : Nat → α → Sheet → Except BuildError Sheet} {list : List α}
    (each : ∀ i a s s', step i a s = .ok s' → s'.lines = s.lines)
    (done : forEachFrom step 0 list s = .ok s')
    : s'.lines = s.lines :=
  forEachFrom_preserves (motive := fun t => t.lines = s.lines)
    (fun i a t t' _ stepped same => (each i a t t' stepped).trans same) done rfl

theorem writeDataCell_lines {row i : Nat} {data : Json.Members} {column : ColumnSpec × Style}
    (done : writeDataCell row data i column s = .ok s')
    : s'.lines = s.lines := by
  obtain ⟨-, t, valuing, styling⟩ := writeDataCell_eq_ok.mp done
  have valued : t.lines = s.lines :=
    skippable_lines (fun done => setValue_lines (onModel_eq_ok.mp done)) valuing
  have styled : s'.lines = t.lines :=
    skippable_lines (fun done => setStyle_lines (onModel_eq_ok.mp done)) styling
  exact styled.trans valued

theorem writeRows_lines (done : writeRows spec s = .ok s') : s'.lines = s.lines := by
  obtain ⟨styles, -, rows⟩ := bind_eq_ok.mp done
  refine forEachFrom_lines (fun _ _ _ _ written => ?_) rows
  obtain ⟨row, -, cells⟩ := bind_eq_ok.mp written
  exact forEachFrom_lines (fun _ _ _ _ => writeDataCell_lines) cells

theorem attachValidations_lines (done : attachValidations spec s = .ok s')
    : s'.lines = s.lines := by
  refine skippable_lines (fun done => ?_) done
  obtain ⟨last, -, columns⟩ := bind_eq_ok.mp done
  refine forEachFrom_lines (fun i column t t' attached => ?_) columns
  rcases attachValidation_eq_ok.mp attached with ⟨-, rfl⟩ | ⟨_, -, -, v, -, rfl⟩
  · rfl
  · exact lines_eq rfl rfl

theorem applyFreeze_lines {cell : Option String} (done : applyFreeze cell s = .ok s')
    : s'.lines = s.lines := by
  rcases applyFreeze_eq_ok.mp done with ⟨-, rfl⟩ | ⟨_, -, a, -, rfl⟩
  · rfl
  · exact lines_eq rfl rfl

theorem applyFilter_lines {wanted : Option Bool} (done : applyFilter spec wanted s = .ok s')
    : s'.lines = s.lines := by
  rcases applyFilter_eq_ok.mp done with ⟨-, rfl⟩ | ⟨-, -, rfl⟩
  · rfl
  · exact lines_eq rfl rfl

theorem writeTotals_lines {totals : Option (List (String × String))}
    (done : writeTotals spec totals s = .ok s')
    : s'.lines = s.lines := by
  cases totals with
  | none =>
      cases done
      rfl
  | some totals =>
      obtain ⟨row, -, done⟩ := bind_eq_ok.mp done
      refine forEachFrom_lines (fun _ total t t' written => ?_) done
      rcases writeTotal_eq_ok.mp written with ⟨-, rfl⟩ | ⟨_, -, -, u, valued, styled⟩
      · rfl
      · exact (setStyle_lines styled).trans (setValue_lines valued)

theorem addRule_lines {i : Nat} {rule : RuleSpec} (done : addRule i rule s = .ok s')
    : s'.lines = s.lines := by
  obtain ⟨r, -, rfl⟩ := addRule_eq_ok.mp done
  exact lines_eq rfl rfl

theorem mergeCells_lines {text : String} (done : mergeCells text s = .ok s')
    : s'.lines = s.lines := by
  obtain ⟨range, -, merged⟩ := mergeCells_eq_ok.mp done
  obtain ⟨-, rfl⟩ := merge_eq_ok.mp merged
  exact lines_eq rfl rfl

/-- A formatting without rows and columns leaves these alone. -/
theorem applyFormatting_withoutLines_lines
    (done : applyFormatting spec f.withoutLines s = .ok s')
    : s'.lines = s.lines := by
  obtain ⟨frozen, freezing, done⟩ := bind_eq_ok.mp done
  obtain ⟨filtered, filtering, done⟩ := bind_eq_ok.mp done
  obtain ⟨totalled, totalling, done⟩ := bind_eq_ok.mp done
  obtain ⟨ruled, ruling, done⟩ := bind_eq_ok.mp done
  obtain ⟨merged, merging, done⟩ := bind_eq_ok.mp done
  have finished : s' = merged := (Except.ok.inj done).symm
  have laidOut (t : Sheet) : (applyLayout f.withoutLines t).lines = t.lines := lines_eq rfl rfl
  calc s'.lines = merged.lines := by rw [finished]
    _ = ruled.lines := forEachFrom_lines (fun _ _ _ _ => mergeCells_lines) merging
    _ = totalled.lines := forEachFrom_lines (fun _ _ _ _ => addRule_lines) ruling
    _ = filtered.lines := (writeTotals_lines totalling).trans (laidOut filtered)
    _ = frozen.lines := applyFilter_lines filtering
    _ = s.lines := applyFreeze_lines freezing

-----------------------------------------------------------------------------------------
-- The header
-----------------------------------------------------------------------------------------

/-- What the header declares: its own height and the widths of the columns. -/
def headerLines (spec : SheetSpec) : Declarations
  | .rows => { sizes := [(0, headerHeight)] }
  | .columns => { sizes := spec.columns.mapIdx fun i column => (i, column.width) }

theorem headerLines_shallow (spec : SheetSpec) : (headerLines spec).Shallow := fun axis i => by
  cases axis <;> exact Nat.zero_le _

theorem headerLines_append_shallow {d : Declarations}
    : (headerLines spec ++ d).Shallow ↔ d.Shallow := by
  refine forall_congr' fun axis => ?_
  have level (i : Nat)
      : (((headerLines spec ++ d) axis).setting i).outlineLevel
        = ((d axis).setting i).outlineLevel := by
    cases axis <;> rfl
  simp only [LineDeclarations.Shallow, level]

theorem writeHeaderCell_lines {i : Nat} {column : ColumnSpec}
    (done : writeHeaderCell i column s = .ok s')
    : i < maxColumns ∧ s'.lines = (s.withLines .columns (s.columns.insert i
        { Settings.get s.columns i with size := some column.width })).lines := by
  obtain ⟨inside, t, sized, u, valued, style, -, styled⟩ := writeHeaderCell_eq_ok.mp done
  obtain ⟨-, rfl⟩ := setSize_eq_ok.mp sized
  exact ⟨inside, (setStyle_lines styled).trans (setValue_lines valued)⟩

/-- The sheet shows the widths of the first columns, and nothing is declared for its rows. -/
structure HeaderTo (spec : SheetSpec) (i : Nat) (s : Sheet) : Prop where
  rows : Settings.Shows .rows {} s.rows
  columns
    : Settings.Shows .columns
        { sizes := (spec.columns.take i).mapIdx fun i column => (i, column.width) } s.columns

theorem HeaderTo.next {i : Nat} {column : ColumnSpec} (header : HeaderTo spec i s)
    (listed : spec.columns[i]? = some column) (done : writeHeaderCell i column s = .ok s')
    : HeaderTo spec (i + 1) s' := by
  obtain ⟨inside, lines⟩ := writeHeaderCell_lines done
  have rows : s'.rows = s.rows := congrFun lines .rows
  have columns : s'.columns = s.columns.insert i
      { Settings.get s.columns i with size := some column.width } :=
    congrFun lines .columns
  have here : i < spec.columns.length := (List.getElem?_eq_some_iff.mp listed).1
  have longer : (spec.columns.take (i + 1)).mapIdx (fun i column => (i, column.width))
      = (spec.columns.take i).mapIdx (fun i column => (i, column.width))
        ++ [(i, column.width)] := by
    rw [List.take_add_one, listed, List.mapIdx_append, List.length_take,
      Nat.min_eq_left (Nat.le_of_lt here)]
    simp
  constructor
  · rw [rows]
    exact header.rows
  · rw [columns, longer]
    exact header.columns.size inside column.width

theorem writeHeader_shows (done : writeHeader spec { name := spec.name } = .ok s) (axis : Axis)
    : Settings.Shows axis (headerLines spec axis) (s.lines axis) := by
  obtain ⟨t, cells, sized⟩ := bind_eq_ok.mp done
  obtain ⟨inside, rfl⟩ := setSize_eq_ok.mp (onModel_eq_ok.mp sized)
  have start : HeaderTo spec 0 { name := spec.name } := ⟨.empty .rows, .empty .columns⟩
  have header : HeaderTo spec spec.columns.length t :=
    forEachFrom_invariant (fun _ _ _ _ listed done header => header.next listed done) cells start
  cases axis with
  | rows => exact header.rows.size inside headerHeight
  | columns =>
      have all := header.columns
      rwa [List.take_length] at all

/-- The settings of rows and columns are those of the header. -/
def HeaderSet (spec : SheetSpec) (s : Sheet) : Prop :=
  ∃ header, writeHeader spec { name := spec.name } = .ok header ∧ s.lines = header.lines

/-- A table is formatted when its header is set, its rows written and its validations attached. -/
theorem exists_headerSet_of_tableCells (formatted : spec.formatting = some f)
    (done : tableCells spec = .ok s)
    : ∃ start, HeaderSet spec start ∧ applyFormatting spec f start = .ok s := by
  obtain ⟨header, written, done⟩ := bind_eq_ok.mp done
  obtain ⟨filled, filling, done⟩ := bind_eq_ok.mp done
  obtain ⟨start, attaching, done⟩ := bind_eq_ok.mp done
  rw [formatted] at done
  have same : start.lines = header.lines :=
    (attachValidations_lines attaching).trans (writeRows_lines filling)
  exact ⟨start, ⟨header, written, same⟩, done⟩

-----------------------------------------------------------------------------------------
-- Formatting rows and columns
-----------------------------------------------------------------------------------------

/-- Rows and columns come last. -/
theorem applyFormatting_eq (spec : SheetSpec) (f : FormattingSpec) (s : Sheet)
    : applyFormatting spec f s = applyFormatting spec f.withoutLines s >>= applyLines f := by
  have nothing {α : Type} (step : α → Sheet → Except BuildError Sheet) (s : Sheet)
      : forEach step [] s = .ok s := rfl
  have settled (s : Sheet) (next : Sheet → Except BuildError Sheet) : (.ok s >>= next) = next s :=
    rfl
  simp only [applyFormatting, applyLines, bind_assoc, FormattingSpec.withoutLines, nothing, settled,
    applyLayout]

/-- Before rows and columns are formatted, they are as the header sets them. -/
theorem HeaderSet.lined {start base : Sheet} (set : HeaderSet spec start)
    (done : applyFormatting spec f.withoutLines start = .ok base)
    : Lined base (headerLines spec) base := by
  obtain ⟨header, written, same⟩ := set
  refine ⟨rfl, ?_⟩
  rw [applyFormatting_withoutLines_lines done, same]
  exact writeHeader_shows written

/-- A formatting succeeds if the rest of it does, its texts name lines of the sheet and it nests no
line too deep; then the sheet shows its declarations over those of the header.
-/
theorem applyFormatting_eq_ok {start : Sheet} (set : HeaderSet spec start)
    : applyFormatting spec f start = .ok s
      ↔ ∃ base d, applyFormatting spec f.withoutLines start = .ok base
        ∧ declaredLines f = .ok d ∧ d.Shallow ∧ Lined base (headerLines spec ++ d) s := by
  rw [applyFormatting_eq, bind_eq_ok]
  constructor
  · rintro ⟨base, done, final⟩
    obtain ⟨d, read, deeper, shown⟩ :=
      (applyLines_declares f).lined (set.lined done) (headerLines_shallow spec) final
    exact ⟨base, d, done, read, headerLines_append_shallow.mp deeper, shown⟩
  · rintro ⟨base, d, done, read, deeper, shown⟩
    obtain ⟨t, final, shown'⟩ :=
      (applyLines_declares f).shown (set.lined done) (headerLines_shallow spec) read
        (headerLines_append_shallow.mpr deeper)
    exact ⟨base, done, by rw [final, shown.eq shown' fun _ _ => rfl]⟩

/-- Formatting with readable texts fails just if it nests some line too deep. -/
theorem applyFormatting_fails_iff {start base : Sheet} {d : Declarations}
    (set : HeaderSet spec start) (done : applyFormatting spec f.withoutLines start = .ok base)
    (read : declaredLines f = .ok d)
    : (applyFormatting spec f start).isOk = false ↔ ¬ d.Shallow := by
  constructor
  · intro failed shallow
    obtain ⟨s, final, -⟩ :=
      (applyLines_declares f).shown (set.lined done) (headerLines_shallow spec) read
        (headerLines_append_shallow.mpr shallow)
    rw [applyFormatting_eq, done] at failed
    have succeeded : (applyLines f base).isOk = false := failed
    rw [final] at succeeded
    cases succeeded
  · intro deep
    cases result : applyFormatting spec f start with
    | error e => rfl
    | ok s =>
        obtain ⟨_, d', _, read', shallow, -⟩ := (applyFormatting_eq_ok set).mp result
        cases read.symm.trans read'
        exact absurd shallow deep

-----------------------------------------------------------------------------------------
-- The order of declarations
-----------------------------------------------------------------------------------------

/-- The items of a list read in another order give the same results in another order. -/
theorem mapM_perm {read : α → Except BuildError β} {list list' : List α} {results : List β}
    (order : list.Perm list') (done : list.mapM read = .ok results)
    : ∃ results', list'.mapM read = .ok results' ∧ results.Perm results' := by
  induction order generalizing results with
  | nil => exact ⟨results, done, .refl results⟩
  | cons a _ ih =>
      rw [List.mapM_cons] at done
      obtain ⟨b, first, done⟩ := bind_eq_ok.mp done
      obtain ⟨bs, rest, done⟩ := bind_eq_ok.mp done
      cases done
      obtain ⟨bs', rest', same⟩ := ih rest
      exact ⟨b :: bs', by rw [List.mapM_cons, first, rest']; rfl, same.cons b⟩
  | swap a a' list =>
      rw [List.mapM_cons] at done
      obtain ⟨b', first', done⟩ := bind_eq_ok.mp done
      obtain ⟨others, done', done⟩ := bind_eq_ok.mp done
      cases done
      rw [List.mapM_cons] at done'
      obtain ⟨b, first, done'⟩ := bind_eq_ok.mp done'
      obtain ⟨bs, rest, done'⟩ := bind_eq_ok.mp done'
      cases done'
      exact ⟨b :: b' :: bs, by rw [List.mapM_cons, List.mapM_cons, first, first', rest]; rfl,
        .swap b b' bs⟩
  | trans _ _ first second =>
      obtain ⟨middle, done, same⟩ := first done
      obtain ⟨results', done, same'⟩ := second done
      exact ⟨results', done, same.trans same'⟩

/-- Two formattings that differ only in the order of hidden lines and of groups. -/
structure Reordered (f f' : FormattingSpec) : Prop where
  rest : f'.withoutLines = f.withoutLines
  rowHeights : f'.rowHeights = f.rowHeights
  hiddenRows : f.hiddenRows.Perm f'.hiddenRows
  hiddenColumns : f.hiddenColumns.Perm f'.hiddenColumns
  rowGroups : f.rowGroups.Perm f'.rowGroups
  columnGroups : f.columnGroups.Perm f'.columnGroups

theorem Reordered.symm {f' : FormattingSpec} (order : Reordered f f') : Reordered f' f where
  rest := order.rest.symm
  rowHeights := order.rowHeights.symm
  hiddenRows := order.hiddenRows.symm
  hiddenColumns := order.hiddenColumns.symm
  rowGroups := order.rowGroups.symm
  columnGroups := order.columnGroups.symm

/-- Settings do not depend on the order of hidden lines and of groups. -/
theorem setting_perm (sizes : List (Nat × Binary64)) {hidden hidden' : List Nat}
    {groups groups' : List OutlineGroup} (sameHidden : hidden.Perm hidden')
    (sameGroups : groups.Perm groups') (i : Nat)
    : LineDeclarations.setting ⟨sizes, hidden, groups⟩ i
      = LineDeclarations.setting ⟨sizes, hidden', groups'⟩ i := by
  simp only [LineDeclarations.setting, sameHidden.contains_eq, sameGroups.any_eq,
    sameGroups.countP_eq]

theorem Reordered.declaredLines {f' : FormattingSpec} (order : Reordered f f') {d : Declarations}
    (read : declaredLines f = .ok d)
    : ∃ d', declaredLines f' = .ok d' ∧ ∀ axis i, (d axis).setting i = (d' axis).setting i := by
  obtain ⟨heights, sized, hiddenRows, rowsHidden, hiddenColumns, columnsHidden, rowGroups,
    rowsGrouped, columnGroups, columnsGrouped, rfl⟩ := declaredLines_eq_ok.mp read
  obtain ⟨hiddenRows', rowsHidden, sameRows⟩ := mapM_perm order.hiddenRows rowsHidden
  obtain ⟨hiddenColumns', columnsHidden, sameColumns⟩ :=
    mapM_perm order.hiddenColumns columnsHidden
  obtain ⟨rowGroups', rowsGrouped, sameRowGroups⟩ := mapM_perm order.rowGroups rowsGrouped
  obtain ⟨columnGroups', columnsGrouped, sameColumnGroups⟩ :=
    mapM_perm order.columnGroups columnsGrouped
  rw [← order.rowHeights] at sized
  refine ⟨_, declaredLines_eq_ok.mpr ⟨heights, sized, hiddenRows', rowsHidden, hiddenColumns',
    columnsHidden, rowGroups', rowsGrouped, columnGroups', columnsGrouped, rfl⟩, fun axis i => ?_⟩
  cases axis with
  | rows => exact setting_perm heights sameRows sameRowGroups i
  | columns => exact setting_perm [] sameColumns sameColumnGroups i

/-- Formattings that differ only in the order of declarations have the same results. -/
theorem Reordered.applyFormatting {f' : FormattingSpec} (order : Reordered f f') {start : Sheet}
    (set : HeaderSet spec start) (done : applyFormatting spec f start = .ok s)
    : applyFormatting spec f' start = .ok s := by
  obtain ⟨base, d, plain, read, shallow, shown⟩ := (applyFormatting_eq_ok set).mp done
  obtain ⟨d', read', same⟩ := order.declaredLines read
  refine (applyFormatting_eq_ok set).mpr ⟨base, d', ?_, read', fun axis i => ?_, shown.congr ?_⟩
  · rw [order.rest]
    exact plain
  · rw [← same axis i]
    exact shallow axis i
  · intro axis i
    simp only [Declarations.append_apply, LineDeclarations.setting_append, same axis i]

-----------------------------------------------------------------------------------------
-- Rows and columns of a table
-----------------------------------------------------------------------------------------

/-- A line has the depth, is hidden and is marked as hidden lines and groups declare it. -/
structure InOutline (d : LineDeclarations) (i : Nat) (shown : Sheet.Setting) : Prop where
  level : shown.outlineLevel = d.groups.countP (·.holds i)
  hidden : shown.hidden ↔ i ∈ d.hidden ∨ ∃ g ∈ d.groups, g.collapsed ∧ g.holds i
  collapsed : shown.collapsed ↔ ∃ g ∈ d.groups, g.collapsed ∧ g.last + 1 = i

/-- Sizes have no part in the outline. -/
theorem InOutline.of_setting (sizes : List (Nat × Binary64)) (d : LineDeclarations) (i : Nat)
    : InOutline d i (LineDeclarations.setting ⟨sizes, d.hidden, d.groups⟩ i) where
  level := rfl
  hidden := by simp [LineDeclarations.setting]
  collapsed := by simp [LineDeclarations.setting]

/-- A row has the height of the entry with the greatest key among those that name it. -/
structure HeightDeclared (f : FormattingSpec) (row : Nat) (height : Option Binary64) : Prop where
  named
    : ∀ entry ∈ f.rowHeights, rowOfText entry.1 = .ok row
        → (∀ other ∈ f.rowHeights, rowOfText other.1 = .ok row → other.1 ≤ entry.1)
        → height = some entry.2
  unnamed
    : (∀ entry ∈ f.rowHeights, rowOfText entry.1 ≠ .ok row)
        → height = if row = 0 then some headerHeight else none

theorem lookup_eq_none_of_unnamed {entries : List (String × Binary64)}
    {heights : List (Nat × Binary64)} {row : Nat} (read : entries.mapM rowHeight = .ok heights)
    (unnamed : ∀ entry ∈ entries, rowOfText entry.1 ≠ .ok row)
    : heights.reverse.lookup row = none := by
  rw [List.lookup_eq_none_iff]
  intro height member
  obtain ⟨entry, listed, made⟩ := exists_of_mem_mapM read (List.mem_reverse.mp member)
  obtain ⟨i, named, made⟩ := bind_eq_ok.mp made
  cases made
  have other : row ≠ i := by
    rintro rfl
    exact unnamed entry listed named
  simpa using other

theorem lookup_eq_some_of_last {entries : List (String × Binary64)}
    {heights : List (Nat × Binary64)} {row : Nat} (read : entries.mapM rowHeight = .ok heights)
    (ordered : entries.Pairwise fun a b => a.1 < b.1) {entry : String × Binary64}
    (listed : entry ∈ entries) (named : rowOfText entry.1 = .ok row)
    (last : ∀ other ∈ entries, rowOfText other.1 = .ok row → other.1 ≤ entry.1)
    : heights.reverse.lookup row = some entry.2 := by
  obtain ⟨before, after, rfl⟩ := List.append_of_mem listed
  rw [List.mapM_append, List.mapM_cons] at read
  obtain ⟨earlier, _, read⟩ := bind_eq_ok.mp read
  obtain ⟨rest, readRest, read⟩ := bind_eq_ok.mp read
  cases read
  obtain ⟨height, readHere, readRest⟩ := bind_eq_ok.mp readRest
  obtain ⟨later, readLater, readRest⟩ := bind_eq_ok.mp readRest
  cases readRest
  have here : height = (row, entry.2) := by
    rw [rowHeight, named] at readHere
    exact (Except.ok.inj readHere).symm
  have none : later.reverse.lookup row = none := by
    refine lookup_eq_none_of_unnamed readLater fun other behind same => ?_
    have greater : entry.1 < other.1 :=
      (List.pairwise_cons.mp (List.pairwise_append.mp ordered).2.1).1 other behind
    have member : other ∈ before ++ entry :: after :=
      List.mem_append_right before (List.mem_cons_of_mem entry behind)
    exact absurd greater (String.not_lt.mpr (last other member same))
  rw [List.reverse_append, List.reverse_cons, List.lookup_append, List.lookup_append, none, here]
  simp

theorem HeightDeclared.of_lookup {heights : List (Nat × Binary64)}
    (read : f.rowHeights.mapM rowHeight = .ok heights)
    (ordered : f.rowHeights.Pairwise fun a b => a.1 < b.1) (row : Nat)
    : HeightDeclared f row (((0, headerHeight) :: heights).reverse.lookup row) where
  named entry listed names last := by
    rw [List.reverse_cons, List.lookup_append,
      lookup_eq_some_of_last read ordered listed names last]
    rfl
  unnamed none := by
    rw [List.reverse_cons, List.lookup_append, lookup_eq_none_of_unnamed read none]
    by_cases top : row = 0
    · simp [top]
    · simp [List.lookup_cons, beq_false_of_ne top, top]

/-- Each column has its own width. -/
theorem lookup_widths (columns : List ColumnSpec) (i : Nat)
    : (columns.mapIdx fun i column => (i, column.width)).reverse.lookup i
      = columns[i]?.map (·.width) := by
  induction columns using List.reverseRecOn with
  | nil => rfl
  | append_singleton columns column ih =>
      rw [List.mapIdx_append, List.reverse_append, List.lookup_append, ih]
      by_cases here : i = columns.length
      · simp [here]
      · have other : (i == columns.length) = false := beq_false_of_ne here
        have same : (columns ++ [column])[i]? = columns[i]? := by
          rcases Nat.lt_or_gt_of_ne here with inside | outside
          · exact List.getElem?_append_left inside
          · have length : (columns ++ [column]).length = columns.length + 1 := by simp
            rw [List.getElem?_eq_none (by omega), List.getElem?_eq_none (by omega)]
        simp [List.lookup_cons, same, other]

/-- Rows and columns of a formatted table are set as they are declared, in whatever order that is
done. A row is as high as the last entry that names it says, and a column as wide as declared; a
line is nested in as many groups as hold it, hidden by its own declaration or by a collapsed group
and marked behind one. If all texts name lines of the sheet, only more than seven groups around a
line are refused.
-/
theorem applyFormatting_lines {start : Sheet} (set : HeaderSet spec start)
    (ordered : f.rowHeights.Pairwise fun a b => a.1 < b.1)
    : (∀ s, applyFormatting spec f start = .ok s → ∃ d, declaredLines f = .ok d
        ∧ (∀ axis, ∀ i < axis.limit, InOutline (d axis) i (Settings.get (s.lines axis) i))
        ∧ (∀ i < maxRows, HeightDeclared f i (Settings.get s.rows i).size)
        ∧ ∀ i < maxColumns, (Settings.get s.columns i).size = spec.columns[i]?.map (·.width))
      ∧ (∀ f', Reordered f f'
        → ∀ s, applyFormatting spec f' start = .ok s ↔ applyFormatting spec f start = .ok s)
      ∧ ∀ base d, applyFormatting spec f.withoutLines start = .ok base → declaredLines f = .ok d
        → ((applyFormatting spec f start).isOk = false
          ↔ ∃ axis i, 7 < (d axis).groups.countP (·.holds i)) := by
  refine ⟨fun s done => ?_, fun f' order s => ?_, fun base d plain read => ?_⟩
  · obtain ⟨base, d, plain, read, shallow, shown⟩ := (applyFormatting_eq_ok set).mp done
    have shows (axis : Axis) {i : Nat} (inside : i < axis.limit)
        : Settings.get (s.lines axis) i = ((headerLines spec ++ d) axis).setting i :=
      (shown.shows axis).get_eq inside
    refine ⟨d, read, fun axis i inside => ?_, fun i inside => ?_, fun i inside => ?_⟩
    · rw [shows axis inside]
      cases axis <;> exact .of_setting _ (d _) i
    · obtain ⟨heights, sized, _, _, _, _, _, _, _, _, rfl⟩ := declaredLines_eq_ok.mp read
      have size := congrArg Sheet.Setting.size (shows .rows inside)
      rw [lines] at size
      rw [size]
      exact .of_lookup sized ordered i
    · obtain ⟨_, _, _, _, _, _, _, _, _, _, rfl⟩ := declaredLines_eq_ok.mp read
      have size := congrArg Sheet.Setting.size (shows .columns inside)
      rw [lines] at size
      rw [size, ← lookup_widths]
      exact congrArg (fun sizes => List.lookup i (List.reverse sizes)) (List.append_nil _)
  · exact ⟨order.symm.applyFormatting set, order.applyFormatting set⟩
  · rw [applyFormatting_fails_iff set plain read]
    simp only [Declarations.Shallow, LineDeclarations.Shallow, not_forall, Nat.not_le,
      LineDeclarations.setting, maxOutlineLevel]

/-- Two columns, rows in a group inside another one, and a row with two keys for its height. -/
def outlinedTable : SheetSpec where
  name := "Plan"
  columns := [{ header := "Step", key := "step" }, { header := "Days", key := "days" }]
  data := []

def outline : FormattingSpec where
  rowHeights := [("03", 15), ("3", 30)]
  hiddenRows := [9]
  rowGroups := [{ first := 6, last := 2 }, { first := 4, last := 4, collapsed := some true }]
  columnGroups := [{ first := "B", last := "A" }]

theorem applyFormatting_lines_outline
    : ∃ start s, HeaderSet outlinedTable start
        ∧ applyFormatting outlinedTable outline start = .ok s
        ∧ (∃ d, declaredLines outline = .ok d
          ∧ InOutline (d .rows) 3 (Settings.get s.rows 3)
          ∧ InOutline (d .columns) 1 (Settings.get s.columns 1))
        ∧ (Settings.get s.rows 2).size = some 30 := by
  have formatted
      : (writeHeader outlinedTable { name := outlinedTable.name }
          >>= applyFormatting outlinedTable outline).isOk = true := by
    decide +kernel
  obtain ⟨s, both⟩ := exists_of_isOk formatted
  obtain ⟨start, header, done⟩ := bind_eq_ok.mp both
  have set : HeaderSet outlinedTable start := ⟨start, header, rfl⟩
  have ordered : outline.rowHeights.Pairwise fun a b => a.1 < b.1 := by decide +kernel
  obtain ⟨d, read, inOutline, heights, -⟩ := (applyFormatting_lines set ordered).1 s done
  refine ⟨start, s, set, done, ⟨d, read, inOutline .rows 3 (by decide),
    inOutline .columns 1 (by decide)⟩, ?_⟩
  refine (heights 2 (by decide)).named ("3", 30) (by decide +kernel) (by decide +kernel) ?_
  intro other listed _
  have keys : ∀ other ∈ outline.rowHeights, other.1 ≤ "3" := by decide +kernel
  exact keys other listed

end Build

end Spreadsheet
