import Spreadsheet.Build.Workbook
import Spreadsheet.Proofs.Build.TableFilling

/-! The table layout builds the declared table: the totals take their places below the data, and
nothing else that is declared for a sheet touches its cells.
-/

namespace Spreadsheet.Build

open Spreadsheet.Cell Spreadsheet.Request Spreadsheet.Sheet

variable {spec : SheetSpec} {s s' base : Sheet}

-----------------------------------------------------------------------------------------
-- Totals
-----------------------------------------------------------------------------------------

/-- The first column with a key is a column with that key. -/
theorem columnPosition?_eq_some {key : String} {i : Nat} (found : spec.columnPosition? key = some i)
    : ∃ column, spec.columns[i]? = some column ∧ column.key = key := by
  obtain ⟨inside, same, -⟩ := List.findIdx?_eq_some_iff_getElem.mp found
  exact ⟨spec.columns[i], List.getElem?_eq_getElem inside, by simpa using same⟩

/-- A further total goes below the first column with its key. -/
theorem totalBelow?_append (spec : SheetSpec) (totals : List (String × String))
    (total : String × String) (i : Nat)
    : totalBelow? spec (totals ++ [total]) i
      = if spec.columnPosition? total.1 = some i then some total.2
        else totalBelow? spec totals i := by
  obtain ⟨key, formula⟩ := total
  by_cases first : spec.columnPosition? key = some i
  · obtain ⟨column, listed, same⟩ := columnPosition?_eq_some first
    simp [totalBelow?, listed, same, first]
  · rw [if_neg first]
    simp only [totalBelow?]
    cases listed : spec.columns[i]? with
    | none => rfl
    | some column =>
        by_cases same : column.key = key
        · simp [same, first]
        · simp [List.lookup_cons, beq_false_of_ne same]

/-- The second sheet is the first with some totals in the row below the data. -/
structure TotalsOver (spec : SheetSpec) (totals : List (String × String)) (base s : Sheet)
    : Prop where
  rest : s = { base with cells := s.cells }
  sound : s.cells.Sound
  inBounds : base.AllInBounds → s.AllInBounds
  elsewhere
    : ∀ r c, r ≠ spec.data.length + 1 → s.value r c = base.value r c ∧ s.style r c = base.style r c
  value
    : ∀ c, s.value (spec.data.length + 1) c
        = ((totalBelow? spec totals c).map .ofFormula).getD .empty
  style
    : ∀ c, s.style (spec.data.length + 1) c
        = if (totalBelow? spec totals c).isSome then totalStyle else {}

theorem totalBelow?_nil (spec : SheetSpec) (i : Nat) : totalBelow? spec [] i = none := by
  simp only [totalBelow?]
  split
  · split <;> rfl
  · rfl

theorem TotalsOver.start (sound : s.cells.Sound)
    (nothing : ∀ c, ShowsNothing s (spec.data.length + 1) c)
    : TotalsOver spec [] s s where
  rest := rfl
  sound := sound
  inBounds := id
  elsewhere _ _ _ := ⟨rfl, rfl⟩
  value c := by
    rw [totalBelow?_nil]
    exact (nothing c).value
  style c := by
    rw [totalBelow?_nil]
    exact (nothing c).style

/-- A total that is written takes the place of earlier ones in its column. -/
theorem TotalsOver.write {totals : List (String × String)} {total : String × String} {i : Nat}
    {style : Style} (totalled : TotalsOver spec totals base s)
    (first : spec.columnPosition? total.1 = some i)
    (w : Writes (spec.data.length + 1) i (.ofFormula total.2) style s s')
    (bold : style = totalStyle)
    : TotalsOver spec (totals ++ [total]) base s' := by
  have below (c : Nat)
      : totalBelow? spec (totals ++ [total]) c
        = if i = c then some total.2 else totalBelow? spec totals c := by
    rw [totalBelow?_append, first]
    simp
  have elsewhere (r c : Nat) (h : ¬ (spec.data.length + 1 = r ∧ i = c))
      : s'.value r c = s.value r c ∧ s'.style r c = s.style r c := by
    rw [w.value, w.style, if_neg h, if_neg h]
    exact ⟨rfl, rfl⟩
  exact {
    rest := by rw [w.rest, totalled.rest]
    sound := w.sound
    inBounds := fun inside => w.allInBounds (totalled.inBounds inside)
    elsewhere := fun r c other => by
      obtain ⟨value, style⟩ := elsewhere r c fun h => other h.1.symm
      rw [value, style]
      exact totalled.elsewhere r c other
    value := fun c => by
      rw [below]
      split
      · next here =>
          subst here
          exact w.value_self
      · next other =>
          rw [(elsewhere _ c fun h => other h.2).1]
          exact totalled.value c
    style := fun c => by
      rw [below]
      split
      · next here =>
          subst here
          exact w.style_self.trans bold
      · next other =>
          rw [(elsewhere _ c fun h => other h.2).2]
          exact totalled.style c
  }

/-- A total is bold on the default style, and stays so if a later one takes its place. -/
theorem writeTotal_totalsOver {totals : List (String × String)} {total : String × String}
    (done : writeTotal spec (spec.data.length + 1) total s = .ok s')
    (totalled : TotalsOver spec totals base s)
    : TotalsOver spec (totals ++ [total]) base s' := by
  rcases writeTotal_eq_ok.mp done with ⟨missing, rfl⟩ | ⟨i, first, -, t, valuing, styling⟩
  · have same (c : Nat) : totalBelow? spec (totals ++ [total]) c = totalBelow? spec totals c := by
      rw [totalBelow?_append, missing, if_neg nofun]
    exact {
      totalled with
      value := fun c => by rw [same, totalled.value]
      style := fun c => by rw [same, totalled.style]
    }
  · have valued := Writes.of_setValue totalled.sound valuing
    have w := valued.trans (.of_setStyle valued.sound styling)
    rw [valued.value_self, valued.style_self, totalled.style] at w
    refine totalled.write first w ?_
    split <;> rfl

theorem writeTotals_totalsOver {totals : Option (List (String × String))}
    (done : writeTotals spec totals s = .ok s') (sound : s.cells.Sound)
    (nothing : ∀ c, ShowsNothing s (spec.data.length + 1) c)
    : TotalsOver spec (totals.getD []) s s' := by
  cases totals with
  | none =>
      cases done
      exact .start sound nothing
  | some totals =>
      obtain ⟨row, found, looped⟩ := bind_eq_ok.mp done
      obtain ⟨-, rfl⟩ := dataRowAt_eq_ok.mp found
      rw [Option.getD_some, ← List.take_length (l := totals)]
      refine forEachFrom_invariant
        (motive := fun i => TotalsOver spec (totals.take i) s) ?_ looped (.start sound nothing)
      intro i total t t' listed written reached
      obtain ⟨inside, item⟩ := List.getElem?_eq_some_iff.mp listed
      rw [List.take_succ_eq_append_getElem inside, item]
      exact writeTotal_totalsOver written reached

-----------------------------------------------------------------------------------------
-- Finished sheets
-----------------------------------------------------------------------------------------

/-- The sheet is the declared table: under the declared name it shows at every position what is
declared for it, its columns have the declared widths, and it has the declared validations.
-/
structure IsTable (spec : SheetSpec) (s : Sheet) : Prop where
  name : s.name = spec.name
  value : ∀ row i, s.value row i = declaredValue spec row i
  style : ∀ row i, DeclaredStyle spec row i (s.style row i)
  widths
    : ∀ i column, spec.columns[i]? = some column
        → (Settings.get s.columns i).size = some column.width
  validations : declaredValidations spec = .ok s.validations

/-- A finished table, with what later steps rely on. -/
structure BuiltTable (spec : SheetSpec) (s : Sheet) : Prop where
  isTable : IsTable spec s
  sound : s.cells.Sound
  inBounds : s.AllInBounds

theorem BuiltTable.retouch (built : BuiltTable spec s) (touch : Retouch s s')
    : BuiltTable spec s' where
  isTable := {
    name := touch.name.trans built.isTable.name
    value := fun row i => by
      rw [Sheet.value, touch.cells]
      exact built.isTable.value row i
    style := fun row i => by
      rw [Sheet.style, touch.cells]
      exact built.isTable.style row i
    widths := fun i column listed => (touch.widths i).trans (built.isTable.widths i column listed)
    validations := by
      rw [touch.validations]
      exact built.isTable.validations
  }
  sound := by
    rw [touch.cells]
    exact built.sound
  inBounds := touch.inBounds built.inBounds

/-- The totals row of the declared table. -/
theorem declared_total (spec : SheetSpec) (i : Nat)
    : declaredValue spec (spec.data.length + 1) i
        = ((totalBelow? spec (declaredTotals spec) i).map .ofFormula).getD .empty
      ∧ DeclaredStyle spec (spec.data.length + 1) i
          (if (totalBelow? spec (declaredTotals spec) i).isSome then totalStyle else {}) := by
  cases listed : spec.columns[i]? with
  | none =>
      have none : totalBelow? spec (declaredTotals spec) i = none := by simp [totalBelow?, listed]
      simp [declaredValue, DeclaredStyle, listed, none]
  | some column =>
      have notData : ¬ spec.data.length + 1 ≤ spec.data.length := Nat.not_succ_le_self _
      simp only [declaredValue, DeclaredStyle, listed]
      cases totalBelow? spec (declaredTotals spec) i <;> simp [notData]

/-- Beside the declared columns and below the totals row nothing is declared. -/
theorem declared_nothing {row i : Nat} (outside : ¬ Before spec (spec.data.length + 1) 0 row i)
    (other : row ≠ spec.data.length + 1)
    : declaredValue spec row i = .empty ∧ DeclaredStyle spec row i {} := by
  cases listed : spec.columns[i]? with
  | none => simp [declaredValue, DeclaredStyle, listed]
  | some column =>
      have inside : i < spec.columns.length := (List.getElem?_eq_some_iff.mp listed).1
      have below : spec.data.length + 1 < row := by
        simp only [Before] at outside
        omega
      have noData : spec.data[row - 1]? = none := by
        rw [List.getElem?_eq_none_iff]
        omega
      have top : row ≠ 0 := by omega
      have notData : ¬ row ≤ spec.data.length := by omega
      simp [declaredValue, DeclaredStyle, listed, noData, top, notData, other]

/-- With its totals below it, a table that is filled to the end of its data is complete. The rows
are taken one kind after the other: the totals, those above them, and those below.
-/
theorem BuiltTable.of_totals {vs : List Validation} (declared : declaredValidations spec = .ok vs)
    (filled : FilledTo spec vs (spec.data.length + 1) 0 base)
    (totalled : TotalsOver spec (declaredTotals spec) base s)
    : BuiltTable spec s := by
  have shows (row i : Nat) : Shows spec s row i := by
    by_cases totals : row = spec.data.length + 1
    · subst totals
      obtain ⟨value, style⟩ := declared_total spec i
      exact ⟨(totalled.value i).trans value.symm, by rw [totalled.style]; exact style⟩
    obtain ⟨sameValue, sameStyle⟩ := totalled.elsewhere row i totals
    by_cases above : Before spec (spec.data.length + 1) 0 row i
    · have shown := filled.before row i above
      exact ⟨sameValue.trans shown.value, by rw [sameStyle]; exact shown.style⟩
    · have nothing := filled.after row i above
      obtain ⟨value, style⟩ := declared_nothing above totals
      refine ⟨sameValue.trans (nothing.value.trans value.symm), ?_⟩
      rw [sameStyle, nothing.style]
      exact style
  refine {
    isTable := {
      name := ?_
      value := fun row i => (shows row i).value
      style := fun row i => (shows row i).style
      widths := fun i column listed => ?_
      validations := ?_
    }
    sound := totalled.sound
    inBounds := totalled.inBounds filled.inBounds
  }
  · rw [totalled.rest]
    exact filled.name
  · rw [totalled.rest]
    have inside : i < spec.columns.length := (List.getElem?_eq_some_iff.mp listed).1
    exact filled.widths i column listed ⟨inside, Or.inl (Nat.succ_pos _)⟩
  · rw [totalled.rest, declared, ← filled.validations]

/-- Only the totals touch the cells; what is declared before them and behind them retouches. -/
theorem applyFormatting_builtTable {f : FormattingSpec} {vs : List Validation}
    (formatted : spec.formatting = some f) (declared : declaredValidations spec = .ok vs)
    (done : applyFormatting spec f s = .ok s')
    (filled : FilledTo spec vs (spec.data.length + 1) 0 s)
    : BuiltTable spec s' := by
  obtain ⟨s₁, freeze, done⟩ := bind_eq_ok.mp done
  obtain ⟨s₂, filter, done⟩ := bind_eq_ok.mp done
  obtain ⟨s₃, totals, done⟩ := bind_eq_ok.mp done
  obtain ⟨s₄, rules, done⟩ := bind_eq_ok.mp done
  obtain ⟨s₅, merges, done⟩ := bind_eq_ok.mp done
  obtain ⟨s₆, heights, done⟩ := bind_eq_ok.mp done
  obtain ⟨s₇, rows, done⟩ := bind_eq_ok.mp done
  obtain ⟨s₈, columns, done⟩ := bind_eq_ok.mp done
  obtain ⟨s₉, rowGroups, columnGroups⟩ := bind_eq_ok.mp done
  have before : Retouch s (applyLayout f s₂) :=
    ((applyFreeze_retouch freeze).trans (applyFilter_retouch filter)).trans
      (applyLayout_retouch f s₂)
  have filled := filled.retouch before
  have totalled := writeTotals_totalsOver totals filled.sound fun c =>
    filled.after _ c fun h => by
      simp only [Before] at h
      omega
  have same : declaredTotals spec = f.totals.getD [] := by rw [declaredTotals, formatted]; rfl
  rw [← same] at totalled
  exact (BuiltTable.of_totals declared filled totalled)
    |>.retouch (forEachFrom_retouch (fun _ _ _ _ => addRule_retouch) rules)
    |>.retouch (forEachFrom_retouch (fun _ _ _ _ => mergeCells_retouch) merges)
    |>.retouch (forEachFrom_retouch (fun _ _ _ _ => setRowHeight_retouch) heights)
    |>.retouch (forEachFrom_retouch (fun _ _ _ _ => hideRow_retouch) rows)
    |>.retouch (forEachFrom_retouch (fun _ _ _ _ => hideColumn_retouch) columns)
    |>.retouch (forEachFrom_retouch (fun _ _ _ _ => groupRows_retouch) rowGroups)
    |>.retouch (forEachFrom_retouch (fun _ _ _ _ => groupColumns_retouch) columnGroups)

theorem tableCells_builtTable (done : tableCells spec = .ok s) : BuiltTable spec s := by
  obtain ⟨s₁, header, done⟩ := bind_eq_ok.mp done
  obtain ⟨s₂, rows, done⟩ := bind_eq_ok.mp done
  obtain ⟨s₃, validations, done⟩ := bind_eq_ok.mp done
  obtain ⟨vs, declared, filled⟩ := attachValidations_filledTo validations
    (writeRows_filledTo rows (writeHeader_filledTo header))
  split at done
  · next unformatted =>
      cases done
      refine .of_totals declared filled ?_
      rw [show declaredTotals spec = [] by rw [declaredTotals, unformatted]; rfl]
      refine .start filled.sound fun c => filled.after _ c fun h => ?_
      simp only [Before] at h
      omega
  · next f formatted => exact applyFormatting_builtTable formatted declared done filled

theorem tableSheet_builtTable {can : Capabilities}
    (done : (tableSheet can spec).result = .ok s)
    : BuiltTable spec s := by
  obtain ⟨s₁, cells, done⟩ := Logged.bind_result_eq_ok.mp done
  have built : BuiltTable spec s₁ := tableCells_builtTable cells
  split at done
  · exact built.retouch (addPictures_retouch done)
  · obtain ⟨s₂, charts, pictures⟩ := Logged.bind_result_eq_ok.mp done
    exact (built.retouch (addCharts_retouch charts)).retouch (addPictures_retouch pictures)

-----------------------------------------------------------------------------------------
-- Workbooks
-----------------------------------------------------------------------------------------

/-- Sheets are built and added in the order of their declarations, by list induction. -/
theorem addSheets_built {setting : Setting} {generator : Generator} {specs : List SheetSpec}
    {w w' : Workbook} (done : (addSheets setting generator specs w).result = .ok w')
    : ∃ sheets, w'.sheets = w.sheets ++ sheets
        ∧ List.Forall₂ (fun spec s => (sheet setting generator spec).result = .ok s) specs
            sheets := by
  induction specs generalizing w with
  | nil =>
      cases done
      exact ⟨[], (List.append_nil _).symm, .nil⟩
  | cons spec rest ih =>
      obtain ⟨w₁, added, done⟩ := Logged.bind_result_eq_ok.mp done
      obtain ⟨_, _, added⟩ := Logged.bind_result_eq_ok.mp added
      obtain ⟨s, built, added⟩ := Logged.bind_result_eq_ok.mp added
      cases added
      obtain ⟨sheets, same, others⟩ := ih done
      refine ⟨s :: sheets, ?_, .cons built others⟩
      rw [same]
      simp

/-- A workbook has one sheet for each declared sheet, built of it. -/
theorem workbookIn_sheets {setting : Setting} {generator : Generator} {r : Request} {w : Workbook}
    (done : (workbookIn setting generator r).result = .ok w)
    : List.Forall₂ (fun spec s => (sheet setting generator spec).result = .ok s)
        r.sheets w.sheets := by
  obtain ⟨w₁, added, done⟩ := Logged.bind_result_eq_ok.mp done
  cases done
  obtain ⟨sheets, same, built⟩ := addSheets_built added
  rwa [same]

theorem addSheets_isTable {setting : Setting} {specs : List SheetSpec} {w w' : Workbook}
    (done : (addSheets setting .table specs w).result = .ok w')
    : ∃ sheets, w'.sheets = w.sheets ++ sheets ∧ List.Forall₂ IsTable specs sheets := by
  obtain ⟨sheets, same, built⟩ := addSheets_built done
  exact ⟨sheets, same, built.imp fun _ _ built => (tableSheet_builtTable built).isTable⟩

/-- A workbook in table layout has one sheet for each declared sheet, in their order, and each is
the declared table.
-/
theorem workbookIn_table_isTable {setting : Setting} {r : Request} {w : Workbook}
    (done : (workbookIn setting .table r).result = .ok w)
    : List.Forall₂ IsTable r.sheets w.sheets := by
  obtain ⟨w₁, added, done⟩ := Logged.bind_result_eq_ok.mp done
  cases done
  obtain ⟨sheets, same, tables⟩ := addSheets_isTable added
  rwa [same]

/-- A table of one row whose two columns share a key, with a total of that key. -/
def sampleTable : SheetSpec where
  name := "Sales"
  columns := [{ header := "Sum", key := "sum", kind := some .number },
    { header := "Again", key := "sum" }]
  data := [[("sum", .int 7)]]
  formatting := some { freezePanes := some "A2", totals := some [("sum", "=SUM(A2:A2)")] }

/-- The circumstances in which the sample is built. -/
def sampleSetting : Setting := ⟨⟨true, true⟩, ⟨2024, 3, 7⟩, ⟨⟨2024, 3, 7⟩, 0, 0⟩⟩

/-- The sample is built; its total stands below the first of the two columns. -/
theorem workbookIn_table_sampleTable
    : ∃ w,
        (workbookIn sampleSetting .table ⟨"sales.xlsx", [sampleTable], none, none⟩).result = .ok w
        ∧ List.Forall₂ IsTable [sampleTable] w.sheets
        ∧ declaredValue sampleTable 2 0 = .formula "SUM(A2:A2)"
        ∧ declaredValue sampleTable 2 1 = .empty := by
  have succeeds
      : (workbookIn sampleSetting .table
          ⟨"sales.xlsx", [sampleTable], none, none⟩).result.isOk = true := by
    decide +kernel
  obtain ⟨w, done⟩ := exists_of_isOk succeeds
  exact ⟨w, done, workbookIn_table_isTable done, by decide +kernel, by decide +kernel⟩

end Spreadsheet.Build
