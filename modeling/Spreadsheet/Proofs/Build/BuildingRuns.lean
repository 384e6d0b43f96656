import Spreadsheet.Proofs.Build.ReportBounds
import Spreadsheet.Proofs.Workbook.Reachable

/-! Building a sheet is a run of operations on it. A table never puts rows in, and it freezes,
filters and merges within its limits; a report puts in the rows of its title once, between two
such runs.
-/

namespace Spreadsheet

open Spreadsheet.Cell Spreadsheet.Sheet

namespace Build

open Spreadsheet.Request

/-- An operation that building a table comes to. -/
def OfTable : Edit → Prop
  | .insertRows .. => False
  | .merge range => range.normalized = range
  | .setFreeze rows columns => Address.OnSheet ⟨rows, columns⟩
  | .setFilter range => ∃ last < maxColumns, range = .ofCorners ⟨0, 0⟩ ⟨0, last⟩
  | _ => True

/-- An operation that building a table comes to, other than adding rules, charts and pictures. -/
def OfPlainTable : Edit → Prop
  | .addRule _ | .addChart _ | .addPicture _ => False
  | edit => OfTable edit

variable {spec : SheetSpec} {s s' : Sheet}

theorem ofTable_of_run (run : Run OfPlainTable s s') : Run OfTable s s' :=
  run.mono fun edit plain => by
    cases edit with
    | addRule | addChart | addPicture => trivial
    | _ => exact plain

-----------------------------------------------------------------------------------------
-- Tables
-----------------------------------------------------------------------------------------

theorem forEachFrom_run {kind : Edit → Prop} {step : Nat → α → Sheet → Except BuildError Sheet}
    {list : List α} (each : ∀ i a s s', step i a s = .ok s' → Run kind s s')
    (done : forEachFrom step 0 list s = .ok s')
    : Run kind s s' :=
  forEachFrom_preserves (motive := Run kind s)
    (fun i a t t' _ stepped reached => reached.trans (each i a t t' stepped)) done .refl

theorem writeHeaderCell_run {i : Nat} {column : ColumnSpec}
    (done : writeHeaderCell i column s = .ok s')
    : Run OfPlainTable s s' := by
  obtain ⟨-, t, sized, u, valued, style, -, styled⟩ := writeHeaderCell_eq_ok.mp done
  have sized : Run OfPlainTable s t :=
    .of_ok (.setSize .columns i column.width) sized trivial rfl
  have valued : Run OfPlainTable t u :=
    .of_ok (.setValue 0 i (.text column.header)) valued trivial rfl
  have styled : Run OfPlainTable u s' := .of_ok (.setStyle 0 i style) styled trivial rfl
  exact (sized.trans valued).trans styled

theorem writeHeader_run (done : writeHeader spec s = .ok s') : Run OfPlainTable s s' := by
  obtain ⟨t, cells, sized⟩ := bind_eq_ok.mp done
  have sized : Run OfPlainTable t s' :=
    .of_ok (.setSize .rows 0 headerHeight) (onModel_eq_ok.mp sized) trivial rfl
  exact (forEachFrom_run (fun _ _ _ _ => writeHeaderCell_run) cells).trans sized

/-- A step that may be left out is a run if the step is. -/
theorem ite_run {p : Prop} [Decidable p] {result : Except BuildError Sheet}
    (each : result = .ok s' → Run OfPlainTable s s')
    (done : (if p then .ok s else result) = .ok s')
    : Run OfPlainTable s s' := by
  split at done
  · cases done
    exact .refl
  · exact each done

theorem writeDataCell_run {row i : Nat} {data : Json.Members} {column : ColumnSpec × Style}
    (done : writeDataCell row data i column s = .ok s')
    : Run OfPlainTable s s' := by
  obtain ⟨-, t, valuing, styling⟩ := writeDataCell_eq_ok.mp done
  have valued : Run OfPlainTable s t :=
    ite_run (fun done => .of_ok (.setValue row i _) (onModel_eq_ok.mp done) trivial rfl)
      valuing
  have styled : Run OfPlainTable t s' :=
    ite_run (fun done => .of_ok (.setStyle row i _) (onModel_eq_ok.mp done) trivial rfl)
      styling
  exact valued.trans styled

theorem writeRows_run (done : writeRows spec s = .ok s') : Run OfPlainTable s s' := by
  obtain ⟨styles, _, rows⟩ := bind_eq_ok.mp done
  refine forEachFrom_run (fun _ _ _ _ written => ?_) rows
  obtain ⟨row, _, cells⟩ := bind_eq_ok.mp written
  exact forEachFrom_run (fun _ _ _ _ => writeDataCell_run) cells

theorem attachValidations_run (done : attachValidations spec s = .ok s')
    : Run OfPlainTable s s' := by
  refine ite_run (fun done => ?_) done
  obtain ⟨last, _, columns⟩ := bind_eq_ok.mp done
  refine forEachFrom_run (fun i column t t' attached => ?_) columns
  rcases attachValidation_eq_ok.mp attached with ⟨-, rfl⟩ | ⟨_, -, -, v, -, rfl⟩
  · exact .refl
  · exact .single (.addValidation v) trivial rfl

theorem applyFreeze_run {cell : Option String} (done : applyFreeze cell s = .ok s')
    : Run OfPlainTable s s' := by
  rcases applyFreeze_eq_ok.mp done with ⟨-, rfl⟩ | ⟨_, -, a, parsed, rfl⟩
  · exact .refl
  · exact .single (.setFreeze a.row a.column) (ModelError.parseAddress_onSheet parsed) rfl

theorem applyFilter_run {wanted : Option Bool} (done : applyFilter spec wanted s = .ok s')
    : Run OfPlainTable s s' := by
  rcases applyFilter_eq_ok.mp done with ⟨-, rfl⟩ | ⟨-, inside, rfl⟩
  · exact .refl
  · exact .single (.setFilter _) ⟨_, inside, rfl⟩ rfl

/-- Page, header and footer, and protection are set one after the other. -/
theorem applyLayout_run (f : FormattingSpec) (s : Sheet)
    : Run OfPlainTable s (applyLayout f s) := by
  have page : Run OfPlainTable s { s with page := (f.page.map pageSetup).or s.page } := by
    cases f.page with
    | none => exact .refl
    | some page => exact .single (.setPage (pageSetup page)) trivial rfl
  have headed (t : Sheet)
      : Run OfPlainTable t { t with headerFooter := f.headerFooter.or t.headerFooter } := by
    cases f.headerFooter with
    | none => exact .refl
    | some headerFooter => exact .single (.setHeaderFooter headerFooter) trivial rfl
  have locked (t : Sheet)
      : Run OfPlainTable t
          { t with protection := (f.protection.bind protection?).or t.protection } := by
    cases f.protection.bind protection? with
    | none => exact .refl
    | some protection => exact .single (.protect protection) trivial rfl
  exact (page.trans (headed _)).trans (locked _)

theorem writeTotals_run {totals : Option (List (String × String))}
    (done : writeTotals spec totals s = .ok s')
    : Run OfPlainTable s s' := by
  simp only [writeTotals] at done
  split at done
  · cases done
    exact .refl
  · obtain ⟨row, _, done⟩ := bind_eq_ok.mp done
    refine forEachFrom_run (fun _ total t t' written => ?_) done
    rcases writeTotal_eq_ok.mp written with ⟨-, rfl⟩ | ⟨i, -, -, u, formula, bold⟩
    · exact .refl
    · have formula : Run OfPlainTable t u := .of_ok (.setFormula row i total.2) formula trivial rfl
      exact formula.trans (.of_ok (.updateStyle row i _) bold trivial rfl)

theorem addRule_run {i : Nat} {spec : RuleSpec} (done : addRule i spec s = .ok s')
    : Run OfTable s s' := by
  obtain ⟨r, -, rfl⟩ := addRule_eq_ok.mp done
  exact .single (.addRule r) trivial rfl

/-- Rules are added in their order, with priorities from the number of the first one on. -/
theorem addRules_eq_ok {i : Nat} {specs : List RuleSpec}
    (done : forEachFrom addRule i specs s = .ok s')
    : ∃ rules, s' = { s with rules := s.rules ++ rules }
        ∧ List.Forall₂ (fun declared r => rule (declared.2 + 1) declared.1 = .ok r)
            (specs.zipIdx i) rules := by
  induction specs generalizing i s with
  | nil =>
      cases done
      exact ⟨[], by rw [List.append_nil], .nil⟩
  | cons spec rest ih =>
      obtain ⟨t, added, done⟩ := bind_eq_ok.mp done
      obtain ⟨r, made, rfl⟩ := addRule_eq_ok.mp added
      obtain ⟨rules, rfl, others⟩ := ih done
      have joined : s.rules ++ r :: rules = (s.addRule r).rules ++ rules := List.append_cons _ _ _
      exact ⟨r :: rules, by rw [joined]; rfl, .cons made others⟩

theorem mergeCells_run {text : String} (done : mergeCells text s = .ok s')
    : Run OfPlainTable s s' := by
  obtain ⟨range, parsed, merged⟩ := mergeCells_eq_ok.mp done
  exact .of_ok (.merge range) merged (Range.normalized_of_parse (mapError_eq_ok.mp parsed)) rfl

theorem setRowHeight_run {entry : String × Number.Binary64} (done : setRowHeight entry s = .ok s')
    : Run OfPlainTable s s' := by
  obtain ⟨_, -, row, -, sized⟩ := setRowHeight_eq_ok.mp done
  exact .of_ok (.setSize .rows row entry.2) sized trivial rfl

theorem hideRow_run {number : Nat} (done : hideRow number s = .ok s') : Run OfPlainTable s s' := by
  obtain ⟨row, -, hidden⟩ := hideRow_eq_ok.mp done
  exact .of_ok (.setHidden .rows row true) hidden trivial rfl

theorem hideColumn_run {letters : String} (done : hideColumn letters s = .ok s')
    : Run OfPlainTable s s' := by
  obtain ⟨column, -, hidden⟩ := hideColumn_eq_ok.mp done
  exact .of_ok (.setHidden .columns column true) hidden trivial rfl

theorem groupLines_run {axis : Axis} {g : OutlineGroup} (done : groupLines axis g s = .ok s')
    : Run OfPlainTable s s' :=
  .single (.group axis g) trivial (congrArg Prod.fst (groupLines_eq_ok.mp done))

theorem groupRows_run {g : RowGroupSpec} (done : groupRows g s = .ok s')
    : Run OfPlainTable s s' := by
  obtain ⟨_, -, _, -, grouped⟩ := groupRows_eq_ok.mp done
  exact groupLines_run grouped

theorem groupColumns_run {g : ColumnGroupSpec} (done : groupColumns g s = .ok s')
    : Run OfPlainTable s s' := by
  obtain ⟨_, -, _, -, grouped⟩ := groupColumns_eq_ok.mp done
  exact groupLines_run grouped

/-- Rules are added between two runs that do not. -/
theorem applyFormatting_parts {f : FormattingSpec} (done : applyFormatting spec f s = .ok s')
    : ∃ t u, Run OfPlainTable s t ∧ forEachFrom addRule 0 f.rules t = .ok u
        ∧ Run OfPlainTable u s' := by
  obtain ⟨s₁, frozen, done⟩ := bind_eq_ok.mp done
  obtain ⟨s₂, filtered, done⟩ := bind_eq_ok.mp done
  obtain ⟨s₃, totaled, done⟩ := bind_eq_ok.mp done
  obtain ⟨s₄, ruled, done⟩ := bind_eq_ok.mp done
  obtain ⟨s₅, merged, done⟩ := bind_eq_ok.mp done
  obtain ⟨s₆, heights, done⟩ := bind_eq_ok.mp done
  obtain ⟨s₇, rows, done⟩ := bind_eq_ok.mp done
  obtain ⟨s₈, columns, done⟩ := bind_eq_ok.mp done
  obtain ⟨s₉, rowGroups, columnGroups⟩ := bind_eq_ok.mp done
  refine ⟨s₃, s₄, ?_, ruled, ?_⟩
  · calc
      Run OfPlainTable s s₁ := applyFreeze_run frozen
      Run OfPlainTable s₁ s₂ := applyFilter_run filtered
      Run OfPlainTable s₂ _ := applyLayout_run f s₂
      Run OfPlainTable _ s₃ := writeTotals_run totaled
  · calc
      Run OfPlainTable s₄ s₅ := forEachFrom_run (fun _ _ _ _ => mergeCells_run) merged
      Run OfPlainTable s₅ s₆ := forEachFrom_run (fun _ _ _ _ => setRowHeight_run) heights
      Run OfPlainTable s₆ s₇ := forEachFrom_run (fun _ _ _ _ => hideRow_run) rows
      Run OfPlainTable s₇ s₈ := forEachFrom_run (fun _ _ _ _ => hideColumn_run) columns
      Run OfPlainTable s₈ s₉ := forEachFrom_run (fun _ _ _ _ => groupRows_run) rowGroups
      Run OfPlainTable s₉ s' := forEachFrom_run (fun _ _ _ _ => groupColumns_run) columnGroups

/-- The rules that a sheet declares. -/
def declaredRules (spec : SheetSpec) : List RuleSpec := (spec.formatting.map (·.rules)).getD []

/-- The declared rules are added between two runs that add none. -/
theorem tableCells_parts (done : tableCells spec = .ok s)
    : ∃ t u, Run OfPlainTable { name := spec.name } t
        ∧ forEachFrom addRule 0 (declaredRules spec) t = .ok u ∧ Run OfPlainTable u s := by
  obtain ⟨s₁, header, done⟩ := bind_eq_ok.mp done
  obtain ⟨s₂, rows, done⟩ := bind_eq_ok.mp done
  obtain ⟨s₃, validated, formatted⟩ := bind_eq_ok.mp done
  have cells : Run OfPlainTable { name := spec.name } s₃ :=
    ((writeHeader_run header).trans (writeRows_run rows)).trans (attachValidations_run validated)
  rw [declaredRules]
  split at formatted
  · next unformatted =>
      cases formatted
      rw [unformatted]
      exact ⟨s, s, cells, rfl, .refl⟩
  · next f declared =>
      obtain ⟨t, u, before, ruled, behind⟩ := applyFormatting_parts formatted
      rw [declared]
      exact ⟨t, u, cells.trans before, ruled, behind⟩

theorem tableCells_run (done : tableCells spec = .ok s) : Run OfTable { name := spec.name } s := by
  obtain ⟨t, u, before, ruled, behind⟩ := tableCells_parts done
  calc
    Run OfTable { name := spec.name } t := ofTable_of_run before
    Run OfTable t u := forEachFrom_run (fun _ _ _ _ => addRule_run) ruled
    Run OfTable u s := ofTable_of_run behind

/-- Charts are added one by one, by list induction. -/
theorem addedCharts_run (charts : List Chart) (s : Sheet)
    : Run OfTable s { s with charts := s.charts ++ charts } := by
  rw [← foldl_addChart]
  induction charts generalizing s with
  | nil => exact .refl
  | cons c rest ih => exact .trans (.single (.addChart c) trivial rfl) (ih _)

theorem addCharts_run {can : Capabilities} {specs : List ChartSpec}
    (done : (addCharts can specs s).result = .ok s')
    : Run OfTable s s' := by
  obtain ⟨charts, -, rfl⟩ := addCharts_eq_ok.mp done
  split
  · exact addedCharts_run charts s
  · exact .refl

theorem addPicture_run {can : Capabilities} {index : Nat} {spec : PictureSpec}
    (done : (addPicture can index spec s).result = .ok s')
    : Run OfTable s s' := by
  rcases addPicture_eq_ok.mp done with ⟨-, rfl⟩ | ⟨_, -, p, -, rfl⟩
  · exact .refl
  · split
    · exact .single (.addPicture p) trivial rfl
    · exact .refl

theorem addPictures_run {can : Capabilities} {index : Nat} {specs : List PictureSpec}
    (done : (addPictures can index specs s).result = .ok s')
    : Run OfTable s s' := by
  induction specs generalizing index s with
  | nil =>
      cases done
      exact .refl
  | cons spec rest ih =>
      obtain ⟨t, first, done⟩ := Logged.bind_result_eq_ok.mp done
      exact (addPicture_run first).trans (ih done)

/-- A table is built by a run of operations on a blank sheet with its name. -/
theorem tableSheet_run {can : Capabilities} (done : (tableSheet can spec).result = .ok s)
    : Run OfTable { name := spec.name } s := by
  obtain ⟨t, cells, done⟩ := Logged.bind_result_eq_ok.mp done
  have table : Run OfTable { name := spec.name } t := tableCells_run cells
  split at done
  · exact table.trans (addPictures_run done)
  · obtain ⟨u, charts, pictures⟩ := Logged.bind_result_eq_ok.mp done
    exact (table.trans (addCharts_run charts)).trans (addPictures_run pictures)

-----------------------------------------------------------------------------------------
-- Reports
-----------------------------------------------------------------------------------------

theorem stripeRows_run (done : stripeRows spec s = .ok s') : Run OfTable s s' := by
  refine forEachFrom_run (fun _ i t t' striped => ?_) done
  simp only [stripeRow] at striped
  split at striped
  · obtain ⟨row, _, cells⟩ := bind_eq_ok.mp striped
    refine forEachFrom_run (fun _ j u u' done => ?_) cells
    obtain ⟨-, stepped⟩ := stripeCell_eq_ok.mp done
    split at stepped
    · exact .of_ok (.updateStyle row j _) stepped trivial rfl
    · subst stepped
      exact .refl
  · cases striped
    exact .refl

/-- The title is written on the sheet with the rows for it put in. -/
theorem writeTitle_run {today : Time.Date} {title : String}
    (done : writeTitle today spec title s = .ok s')
    : Run OfTable (s.shiftRows 0 titleRows) s' := by
  obtain ⟨-, s₁, titled, s₂, styled, s₃, dated, merges⟩ := exists_of_writeTitle done
  have top : Run OfTable (s.shiftRows 0 titleRows) s₃ := by
    calc
      Run OfTable _ s₁ := .of_ok (.setValue 0 0 (.text title)) titled trivial rfl
      Run OfTable s₁ s₂ := .of_ok (.setStyle 0 0 titleStyle) styled trivial rfl
      Run OfTable s₂ s₃ := .of_ok (.setValue 1 0 _) dated trivial rfl
  simp only [MergesTitle] at merges
  split at merges
  · subst merges
    exact top
  · obtain ⟨-, s₄, first, second⟩ := merges
    calc
      Run OfTable _ s₃ := top
      Run OfTable s₃ s₄ := .of_ok (.merge _) first (Range.normalized_ofCorners _ _) rfl
      Run OfTable s₄ s' := .of_ok (.merge _) second (Range.normalized_ofCorners _ _) rfl

/-- A finished table gets stripes, and then perhaps a title on rows that are put in for it. -/
theorem decorate_runs {today : Time.Date} (done : decorate today spec s = .ok s')
    : ∃ t, stripeRows spec s = .ok t ∧ Run OfTable s t
        ∧ (s' = t ∨ t.insertRows 0 titleRows = .ok (t.shiftRows 0 titleRows)
            ∧ Run OfTable (t.shiftRows 0 titleRows) s') := by
  obtain ⟨t, striped, titling⟩ := bind_eq_ok.mp done
  refine ⟨t, striped, stripeRows_run striped, ?_⟩
  split at titling
  · cases titling
    exact .inl rfl
  · exact .inr ⟨(exists_of_writeTitle titling).1, writeTitle_run titling⟩

/-- The number of rows above the table of a sheet: those of the title in a report. -/
def rowsAboveIn (generator : Generator) (spec : SheetSpec) : Nat :=
  match generator with
  | .table => 0
  | .report => rowsAbove spec

/-- Whatever is built of a sheet, everything but the cells and merged ranges of its table has moved
down below the title.
-/
theorem sheet_restDown {setting : Setting} {generator : Generator}
    (built : (sheet setting generator spec).result = .ok s)
    : ∃ table, (tableSheet setting.can spec).result = .ok table
        ∧ RestDown (rowsAboveIn generator spec) table s := by
  cases generator with
  | table => exact ⟨s, built, .zero s⟩
  | report =>
      obtain ⟨table, finished, decorated⟩ := Logged.bind_result_eq_ok.mp built
      have whole := tableSheet_builtTable finished
      exact ⟨table, finished, (decorate_isReport whole.sound decorated).toRestDown⟩

/-- Whatever is built of a sheet, its rows keep their numbers. -/
theorem sheet_isNumbered {setting : Setting} {generator : Generator}
    (built : (sheet setting generator spec).result = .ok s)
    : s.IsNumbered := by
  obtain ⟨table, finished, down⟩ := sheet_restDown built
  have few : rowsAboveIn generator spec < maxRows := by
    cases generator with
    | table => exact Nat.zero_lt_succ _
    | report => exact rowsAbove_lt spec
  exact down.isNumbered (tableSheet_builtTable finished).inBounds few
    (sheet_staysOnSheet built).content

-----------------------------------------------------------------------------------------
-- What the runs keep
-----------------------------------------------------------------------------------------

/-- The filter stands on the header row and the split on the sheet, both moved down by no more
than some rows.
-/
structure OnTop (k : Nat) (s : Sheet) : Prop where
  freeze : ∀ f, s.freeze = some f → f.rows < maxRows + k ∧ f.columns < maxColumns
  filter : ∀ range, s.filter = some range →
    ∃ last row, last < maxColumns ∧ row ≤ k ∧ range = ⟨⟨row, 0⟩, ⟨row, last⟩⟩

theorem OnTop.congr {k : Nat} (top : OnTop k s) (freeze : s'.freeze = s.freeze)
    (filter : s'.filter = s.filter)
    : OnTop k s' :=
  ⟨by rw [freeze]; exact top.freeze, by rw [filter]; exact top.filter⟩

/-- Only three operations touch the split or the filter. -/
theorem OnTop.apply {k : Nat} (top : OnTop k s) {edit : Edit} (ofTable : OfTable edit)
    : OnTop k (s.apply edit) := by
  have ofCells (ofCells : edit.OfCells) : OnTop k (s.apply edit) := by
    rw [apply_sameAround ofCells]
    exact top.congr rfl rfl
  cases edit with
  | setFreeze rows columns =>
      refine ⟨fun f frozen => ?_, top.filter⟩
      simp only [Sheet.apply, setFreeze] at frozen
      split at frozen
      · cases frozen
      · cases frozen
        exact ⟨Nat.lt_add_right k ofTable.row, ofTable.column⟩
  | setFilter range =>
      obtain ⟨last, inside, rfl⟩ := ofTable
      refine ⟨top.freeze, fun range filtered => ?_⟩
      cases filtered
      exact ⟨last, 0, inside, Nat.zero_le k, by simp [Range.ofCorners]⟩
  | insertRows => exact ofTable.elim
  | merge range =>
      refine orSame_cases top fun s' done => ?_
      obtain ⟨-, rfl⟩ := merge_eq_ok.mp done
      exact top.congr rfl rfl
  | setPage | setHeaderFooter | protect | addRule | addValidation | addChart | addPicture =>
      exact top.congr rfl rfl
  | _ => exact ofCells trivial

/-- The sheets have the same rules, charts and pictures. -/
structure SameLists (s s' : Sheet) : Prop where
  rules : s'.rules = s.rules
  charts : s'.charts = s.charts
  pictures : s'.pictures = s.pictures

/-- Only the operations that add to them touch the lists of rules, charts and pictures. -/
theorem apply_sameLists {edit : Edit} (plain : OfPlainTable edit)
    : SameLists s (s.apply edit) := by
  have ofCells (ofCells : edit.OfCells) : SameLists s (s.apply edit) := by
    rw [apply_sameAround ofCells]
    exact ⟨rfl, rfl, rfl⟩
  cases edit with
  | setFreeze | setFilter | setPage | setHeaderFooter | protect | addValidation =>
      exact ⟨rfl, rfl, rfl⟩
  | merge range =>
      refine orSame_cases ⟨rfl, rfl, rfl⟩ fun s' done => ?_
      obtain ⟨-, rfl⟩ := merge_eq_ok.mp done
      exact ⟨rfl, rfl, rfl⟩
  | addRule | addChart | addPicture | insertRows => exact plain.elim
  | _ => exact ofCells trivial

theorem sameLists_of_run (run : Run OfPlainTable s s') : SameLists s s' := by
  refine run.preserves (motive := SameLists s) (fun t edit plain same => ?_) ⟨rfl, rfl, rfl⟩
  have next := apply_sameLists (s := t) plain
  exact ⟨next.rules.trans same.rules, next.charts.trans same.charts,
    next.pictures.trans same.pictures⟩

/-- A sheet that is being built can be written and read again: outlines, merged ranges, the split
and the filter are in order.
-/
structure Tidy (k : Nat) (s : Sheet) : Prop where
  outlined : s.Outlined
  merges : s.OrderlyMerges
  top : OnTop k s

theorem Tidy.blank (name : String) : Tidy 0 { name } where
  outlined := .blank name
  merges := .blank name
  top := ⟨nofun, nofun⟩

theorem Tidy.run {k : Nat} (tidy : Tidy k s) (run : Run OfTable s s') : Tidy k s' := by
  refine run.preserves (fun t edit ofTable tidy => ?_) tidy
  refine ⟨(apply_keeps tidy.outlined edit).outlined, tidy.merges.apply ?_, tidy.top.apply ofTable⟩
  cases edit with
  | merge => exact ofTable
  | insertRows => exact ofTable.elim
  | _ => trivial

theorem Tidy.mono {k k' : Nat} (tidy : Tidy k s) (more : k ≤ k') : Tidy k' s := by
  refine { tidy with top := ⟨fun f frozen => ?_, fun range filtered => ?_⟩ }
  · have few := tidy.top.freeze f frozen
    exact ⟨by omega, few.2⟩
  · obtain ⟨last, row, inside, low, same⟩ := tidy.top.filter range filtered
    exact ⟨last, row, inside, Nat.le_trans low more, same⟩

/-- The rows for a title leave a table tidy. -/
theorem Tidy.shiftRows (tidy : Tidy 0 s) : Tidy titleRows (s.shiftRows 0 titleRows) := by
  refine ⟨tidy.outlined.shiftRows 0 titleRows, tidy.merges.shiftRows 0 titleRows, ?_, ?_⟩
  · intro f frozen
    obtain ⟨before, split, rfl⟩ := Option.map_eq_some_iff.mp frozen
    have place := tidy.top.freeze before split
    refine ⟨?_, place.2⟩
    have low := place.1
    simp only [Freeze.shiftRows]
    split <;> omega
  · intro range filtered
    obtain ⟨before, header, rfl⟩ := Option.map_eq_some_iff.mp filtered
    obtain ⟨last, row, within, top, rfl⟩ := tidy.top.filter before header
    obtain rfl : row = 0 := Nat.le_zero.mp top
    exact ⟨last, titleRows, within, Nat.le_refl _, rfl⟩

/-- Whatever is built of a sheet is tidy, with or without a title. -/
theorem sheet_tidy {setting : Setting} {generator : Generator}
    (built : (sheet setting generator spec).result = .ok s)
    : Tidy titleRows s := by
  cases generator with
  | table => exact ((Tidy.blank spec.name).run (tableSheet_run built)).mono (Nat.zero_le _)
  | report =>
      obtain ⟨table, finished, decorated⟩ := Logged.bind_result_eq_ok.mp built
      obtain ⟨t, -, striped, rest⟩ := decorate_runs decorated
      have tidy := ((Tidy.blank spec.name).run (tableSheet_run finished)).run striped
      rcases rest with rfl | ⟨-, titled⟩
      · exact tidy.mono (Nat.zero_le _)
      · exact tidy.shiftRows.run titled

/-- A sheet of any layout is built by a run of operations on a blank one with its name. -/
theorem sheet_run {setting : Setting} {generator : Generator}
    (built : (sheet setting generator spec).result = .ok s)
    : Run (fun _ => True) { name := spec.name } s := by
  have anyKind {s t : Sheet} (run : Run OfTable s t) : Run (fun _ => True) s t :=
    run.mono fun _ _ => trivial
  cases generator with
  | table => exact anyKind (tableSheet_run built)
  | report =>
      obtain ⟨table, finished, decorated⟩ := Logged.bind_result_eq_ok.mp built
      obtain ⟨t, -, striped, rest⟩ := decorate_runs decorated
      have front := anyKind ((tableSheet_run finished).trans striped)
      rcases rest with rfl | ⟨inserted, titled⟩
      · exact front
      · have rows : Run (fun _ => True) t (t.shiftRows 0 titleRows) :=
          .of_ok (.insertRows 0 titleRows) inserted trivial rfl
        exact (front.trans rows).trans (anyKind titled)

/-- Whatever is built of a sheet can be written and read again. -/
theorem sheet_placed {setting : Setting} {generator : Generator}
    (built : (sheet setting generator spec).result = .ok s)
    : s.Placed := by
  have top := (sheet_tidy built).top
  have content : s.ContentInBounds := by
    have stays := sheet_staysOnSheet built
    cases generator with
    | table => exact AllInBounds.content stays
    | report =>
        obtain ⟨_, _, _, content, _⟩ := stays
        exact content
  have limits : maxRows + titleRows ≤ rowNumberLimit ∧ maxColumns ≤ Number.wordLimit 16
      ∧ titleRows < maxRows ∧ 0 < maxColumns := by decide
  refine ⟨content.cells, content.rows, content.merged, fun f frozen => ?_, fun range filtered => ?_⟩
  · obtain ⟨rows, columns⟩ := top.freeze f frozen
    exact ⟨Nat.lt_of_lt_of_le rows limits.1, Nat.lt_of_lt_of_le columns limits.2.1⟩
  · obtain ⟨last, row, inside, low, rfl⟩ := top.filter range filtered
    have onSheet := Nat.lt_of_le_of_lt low limits.2.2.1
    exact ⟨⟨onSheet, limits.2.2.2⟩, ⟨onSheet, inside⟩⟩

end Build

-----------------------------------------------------------------------------------------
-- Workbooks
-----------------------------------------------------------------------------------------

namespace Workbook

theorem modify_concat (sheets : List Sheet) (s : Sheet) (f : Sheet → Sheet)
    : (sheets ++ [s]).modify sheets.length f = sheets ++ [f s] := by
  induction sheets with
  | nil => rfl
  | cons first rest ih => simp only [List.cons_append, List.length_cons, List.modify_succ_cons, ih]

/-- A sheet joins a workbook under a free name and is then changed, by induction on the run. -/
theorem Reachable.append_run {w : Workbook} {name : String} {s : Sheet} {kind : Edit → Prop}
    (reached : w.Reachable) (free : w.checkNewName name = .ok ()) (run : Run kind { name } s)
    : Reachable { w with sheets := w.sheets ++ [s] } := by
  induction run with
  | refl => exact .add reached (add_eq_ok.mpr ⟨free, rfl⟩)
  | step _ edit _ ih =>
      have changed := ih.edit w.sheets.length edit
      rwa [modify_concat] at changed

end Workbook

namespace Build

open Spreadsheet.Request

/-- Sheets that are built join one after the other, by induction on their declarations. -/
theorem addSheets_reachable {setting : Setting} {generator : Generator} {specs : List SheetSpec}
    {w w' : Workbook} (reached : w.Reachable)
    (done : (addSheets setting generator specs w).result = .ok w')
    : w'.Reachable := by
  induction specs generalizing w with
  | nil =>
      cases done
      exact reached
  | cons spec rest ih =>
      obtain ⟨w₁, added, done⟩ := Logged.bind_result_eq_ok.mp done
      obtain ⟨_, free, added⟩ := Logged.bind_result_eq_ok.mp added
      obtain ⟨s, built, added⟩ := Logged.bind_result_eq_ok.mp added
      cases added
      exact ih (reached.append_run (onModel_eq_ok.mp free) (sheet_run built)) done

/-- A workbook that is built from a request can be built by operations on its sheets. -/
theorem workbook_reachable {setting : Setting} {r : Request} {w : Workbook}
    (built : (workbook setting r).result = .ok w)
    : w.Reachable := by
  obtain ⟨_, _, built⟩ := Logged.bind_result_eq_ok.mp built
  obtain ⟨w₁, added, built⟩ := Logged.bind_result_eq_ok.mp built
  cases built
  exact (addSheets_reachable .empty added).describe _

end Build

end Spreadsheet
