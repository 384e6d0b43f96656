import Spreadsheet.Proofs.Build.DeclaredTable
import Spreadsheet.Proofs.Build.Retouching
import Spreadsheet.Proofs.Sheet.Writing

/-! The header, the data rows and the validations of a declared table, built cell by cell. What is
there after each cell is the declared table up to that cell and nothing from there on.
-/

namespace Spreadsheet.Build

open Spreadsheet.Cell Spreadsheet.Request Spreadsheet.Sheet Spreadsheet.Style

-----------------------------------------------------------------------------------------
-- Filling the table in reading order
-----------------------------------------------------------------------------------------

/-- The sheet shows at a position what the table declares for it. -/
structure Shows (spec : SheetSpec) (s : Sheet) (row i : Nat) : Prop where
  value : s.value row i = declaredValue spec row i
  style : DeclaredStyle spec row i (s.style row i)

/-- The sheet shows nothing at a position. -/
structure ShowsNothing (s : Sheet) (row i : Nat) : Prop where
  value : s.value row i = .empty
  style : s.style row i = {}

/-- In reading order of the declared columns, `(r, c)` comes before `(row, i)`. -/
def Before (spec : SheetSpec) (row i r c : Nat) : Prop :=
  c < spec.columns.length ∧ (r < row ∨ r = row ∧ c < i)

/-- The table is there up to a position with some validations, and nothing is there from the
position on.
-/
structure FilledTo (spec : SheetSpec) (validations : List Validation) (row i : Nat) (s : Sheet)
    : Prop where
  name : s.name = spec.name
  sound : s.cells.Sound
  inBounds : s.AllInBounds
  before : ∀ r c, Before spec row i r c → Shows spec s r c
  after : ∀ r c, ¬ Before spec row i r c → ShowsNothing s r c
  widths
    : ∀ c column, spec.columns[c]? = some column → Before spec row i 0 c
        → (Settings.get s.columns c).size = some column.width
  validations : s.validations = validations

namespace FilledTo

variable {spec : SheetSpec} {vs : List Validation} {row i : Nat} {s s' : Sheet}

theorem start (spec : SheetSpec) : FilledTo spec [] 0 0 { name := spec.name } where
  name := rfl
  sound := Grid.Sound.empty
  inBounds := .blank spec.name
  before r c h := by
    simp only [Before] at h
    omega
  after r c _ := ⟨Grid.value_empty r c, Grid.style_empty r c⟩
  widths c column _ h := by
    simp only [Before] at h
    omega
  validations := rfl

/-- The end of a row is the beginning of the next one. -/
theorem nextRow (filled : FilledTo spec vs row spec.columns.length s)
    : FilledTo spec vs (row + 1) 0 s := by
  have same (r c : Nat)
      : Before spec (row + 1) 0 r c ↔ Before spec row spec.columns.length r c := by
    simp only [Before]
    omega
  exact {
    filled with
    before := fun r c h => filled.before r c ((same r c).mp h)
    after := fun r c h => filled.after r c (h ∘ (same r c).mpr)
    widths := fun c column listed h => filled.widths c column listed ((same 0 c).mp h)
  }

/-- Retouching a sheet leaves its table as it is. -/
theorem retouch (filled : FilledTo spec vs row i s) (touch : Retouch s s')
    : FilledTo spec vs row i s' := by
  have value (r c : Nat) : s'.value r c = s.value r c := by rw [value, value, touch.cells]
  have style (r c : Nat) : s'.style r c = s.style r c := by rw [style, style, touch.cells]
  exact {
    name := touch.name.trans filled.name
    sound := by
      rw [touch.cells]
      exact filled.sound
    inBounds := touch.inBounds filled.inBounds
    before := fun r c h => by
      have shown := filled.before r c h
      exact ⟨(value r c).trans shown.value, by rw [style]; exact shown.style⟩
    after := fun r c h => by
      have nothing := filled.after r c h
      exact ⟨(value r c).trans nothing.value, (style r c).trans nothing.style⟩
    widths := fun c column listed h => (touch.widths c).trans (filled.widths c column listed h)
    validations := touch.validations.trans filled.validations
  }

/-- The column that comes next in the header gets its width. -/
theorem widen (filled : FilledTo spec vs 0 i s) (width : Number.Binary64) (inside : i < maxColumns)
    : FilledTo spec vs 0 i (s.withLines .columns
        (s.columns.insert i { Settings.get s.columns i with size := some width })) where
  name := filled.name
  sound := filled.sound
  inBounds := filled.inBounds.insertLine .columns inside _
  before r c h := ⟨(filled.before r c h).value, (filled.before r c h).style⟩
  after r c h := ⟨(filled.after r c h).value, (filled.after r c h).style⟩
  widths c column listed h := by
    have other : i ≠ c := by
      simp only [Before] at h
      omega
    simp only [withLines, Settings.get, Std.ExtTreeMap.getD_insert, Std.compare_eq_iff_eq, other,
      if_false]
    exact filled.widths c column listed h
  validations := filled.validations

/-- Writing what is declared for a position fills the table up to the next one. -/
theorem write (filled : FilledTo spec vs row i s) {v : Value} {style : Style}
    (w : Writes row i v style s s') {column : ColumnSpec}
    (listed : spec.columns[i]? = some column) (value : v = declaredValue spec row i)
    (styled : DeclaredStyle spec row i style)
    (width : row = 0 → (Settings.get s.columns i).size = some column.width)
    : FilledTo spec vs row (i + 1) s' := by
  have inside : i < spec.columns.length := (List.getElem?_eq_some_iff.mp listed).1
  have next (r c : Nat)
      : Before spec row (i + 1) r c ↔ Before spec row i r c ∨ (row = r ∧ i = c) := by
    simp only [Before]
    omega
  have others {r c : Nat} (h : ¬ (row = r ∧ i = c))
      : s'.value r c = s.value r c ∧ s'.style r c = s.style r c := by
    rw [w.value, w.style, if_neg h, if_neg h]
    exact ⟨rfl, rfl⟩
  have columns : s'.columns = s.columns := by rw [w.rest]
  exact {
    name := by
      rw [w.rest]
      exact filled.name
    sound := w.sound
    inBounds := w.allInBounds filled.inBounds
    before := fun r c h => by
      by_cases here : row = r ∧ i = c
      · obtain ⟨rfl, rfl⟩ := here
        exact ⟨w.value_self.trans value, by rw [w.style_self]; exact styled⟩
      · have shown := filled.before r c (((next r c).mp h).resolve_right here)
        obtain ⟨sameValue, sameStyle⟩ := others here
        exact ⟨sameValue.trans shown.value, by rw [sameStyle]; exact shown.style⟩
    after := fun r c h => by
      rw [next, not_or] at h
      obtain ⟨sameValue, sameStyle⟩ := others h.2
      have nothing := filled.after r c h.1
      exact ⟨sameValue.trans nothing.value, sameStyle.trans nothing.style⟩
    widths := fun c column' listed' h => by
      rw [columns]
      rcases (next 0 c).mp h with h | ⟨top, rfl⟩
      · exact filled.widths c column' listed' h
      · cases listed.symm.trans listed'
        exact width top
    validations := by
      rw [w.rest]
      exact filled.validations
  }

end FilledTo

-----------------------------------------------------------------------------------------
-- The header and the data rows
-----------------------------------------------------------------------------------------

section Rows

variable {spec : SheetSpec} {vs : List Validation} {row i : Nat} {s s' : Sheet}

/-- A header cell comes after the width of its column. -/
theorem writeHeaderCell_filledTo {column : ColumnSpec} (listed : spec.columns[i]? = some column)
    (done : writeHeaderCell i column s = .ok s') (filled : FilledTo spec vs 0 i s)
    : FilledTo spec vs 0 (i + 1) s' := by
  obtain ⟨inside, sized, sizing, valued, valuing, style, overlaying, styling⟩ :=
    writeHeaderCell_eq_ok.mp done
  obtain ⟨-, rfl⟩ := setSize_eq_ok.mp sizing
  have wide := filled.widen column.width inside
  have w := Writes.of_setValue wide.sound valuing
  refine wide.write (w.trans (.of_setStyle w.sound styling)) listed ?_ ?_ ?_
  · rw [w.value_self]
    simp [declaredValue, listed]
  · simp only [DeclaredStyle, listed, if_true]
    exact withOverlay_laidOver overlaying
  · simp [withLines, Settings.get]

theorem writeHeader_filledTo (done : writeHeader spec { name := spec.name } = .ok s')
    : FilledTo spec [] 1 0 s' := by
  obtain ⟨t, looped, done⟩ := bind_eq_ok.mp done
  have header : FilledTo spec [] 0 spec.columns.length t :=
    forEachFrom_invariant (motive := FilledTo spec [] 0)
      (fun _ _ _ _ => writeHeaderCell_filledTo) looped (.start spec)
  obtain ⟨inside, rfl⟩ := setSize_eq_ok.mp (onModel_eq_ok.mp done)
  exact header.nextRow.retouch (withRow_retouch inside)

/-- The columns stand beside the styles of their data cells. -/
theorem columnStyle_of_zip {styles : List Style}
    (built : spec.columns.mapM columnStyle = .ok styles) {column : ColumnSpec} {style : Style}
    (item : (spec.columns.zip styles)[i]? = some (column, style))
    : spec.columns[i]? = some column ∧ columnStyle column = .ok style :=
  ⟨(List.getElem?_zip_eq_some.mp item).1,
    List.forall₂_zip (mapM_eq_ok.mp built) (List.mem_of_getElem? item)⟩

theorem columnStyle_declared {column : ColumnSpec} {style : Style} {j : Nat}
    (listed : spec.columns[i]? = some column) (inside : j < spec.data.length)
    (styled : columnStyle column = .ok style)
    : DeclaredStyle spec (j + 1) i style := by
  have laid := withOverlay_laidOver styled
  rw [columnFormat_eq] at laid
  simp only [DeclaredStyle, listed]
  rw [if_neg (Nat.succ_ne_zero j), if_pos (Nat.succ_le_of_lt inside)]
  exact laid

/-- An empty value need not be written where nothing is shown. -/
theorem setValueUnlessEmpty_writes {v : Value} (sound : s.cells.Sound)
    (empty : s.value row i = .empty)
    (done : (if v.isEmpty then .ok s else onModel (s.setValue row i v)) = .ok s')
    : Writes row i v (s.style row i) s s' := by
  split at done
  · next nothing =>
      cases done
      have same : v = s.value row i := by
        rw [empty]
        cases v <;> first | rfl | cases nothing
      rw [same]
      exact .refl sound row i
  · exact .of_setValue sound (onModel_eq_ok.mp done)

/-- The default style need not be given to a cell that has it. -/
theorem setStyleUnlessDefault_writes {style : Style} (sound : s.cells.Sound)
    (plain : s.style row i = {})
    (done : (if style = {} then .ok s else onModel (s.setStyle row i style)) = .ok s')
    : Writes row i (s.value row i) style s s' := by
  split at done
  · next default =>
      cases done
      rw [default, ← plain]
      exact .refl sound row i
  · exact .of_setStyle sound (onModel_eq_ok.mp done)

theorem writeDataCell_writes {data : Json.Members} {column : ColumnSpec × Style}
    (sound : s.cells.Sound) (nothing : ShowsNothing s row i)
    (done : writeDataCell row data i column s = .ok s')
    : Writes row i (cellValue column.1.kind (data.get? column.1.key)) column.2 s s' := by
  obtain ⟨-, t, valuing, styling⟩ := writeDataCell_eq_ok.mp done
  have valued := setValueUnlessEmpty_writes sound nothing.value valuing
  have plain : t.style row i = {} := valued.style_self.trans nothing.style
  have styled := setStyleUnlessDefault_writes valued.sound plain styling
  rw [valued.value_self] at styled
  exact valued.trans styled

theorem writeDataCell_filledTo {data : Json.Members} {column : ColumnSpec} {style : Style}
    {j : Nat} (declared : spec.data[j]? = some data) (listed : spec.columns[i]? = some column)
    (styled : columnStyle column = .ok style)
    (done : writeDataCell (j + 1) data i (column, style) s = .ok s')
    (filled : FilledTo spec vs (j + 1) i s)
    : FilledTo spec vs (j + 1) (i + 1) s' := by
  have inside : j < spec.data.length := (List.getElem?_eq_some_iff.mp declared).1
  have nothing := filled.after (j + 1) i (by simp only [Before]; omega)
  have w := writeDataCell_writes filled.sound nothing done
  refine filled.write w listed ?_ (columnStyle_declared listed inside styled) nofun
  simp [declaredValue, listed, declared]

theorem writeRow_filledTo {data : Json.Members} {styles : List Style} {j : Nat}
    (built : spec.columns.mapM columnStyle = .ok styles) (declared : spec.data[j]? = some data)
    (done : writeRow (spec.columns.zip styles) j data s = .ok s')
    (filled : FilledTo spec vs (j + 1) 0 s)
    : FilledTo spec vs (j + 1 + 1) 0 s' := by
  obtain ⟨row, found, looped⟩ := bind_eq_ok.mp done
  obtain ⟨-, rfl⟩ := dataRowAt_eq_ok.mp found
  have width : (spec.columns.zip styles).length = spec.columns.length := by
    rw [List.length_zip, ← (mapM_eq_ok.mp built).length_eq, Nat.min_self]
  apply FilledTo.nextRow
  rw [← width]
  refine forEachFrom_invariant (motive := FilledTo spec vs (j + 1)) ?_ looped filled
  intro i item t t' here written reached
  obtain ⟨listed, styled⟩ := columnStyle_of_zip built here
  exact writeDataCell_filledTo declared listed styled written reached

theorem writeRows_filledTo (done : writeRows spec s = .ok s') (filled : FilledTo spec vs 1 0 s)
    : FilledTo spec vs (spec.data.length + 1) 0 s' := by
  obtain ⟨styles, built, looped⟩ := bind_eq_ok.mp done
  exact forEachFrom_invariant (motive := fun j => FilledTo spec vs (j + 1) 0)
    (fun _ _ _ _ declared => writeRow_filledTo built declared) looped filled

-----------------------------------------------------------------------------------------
-- Validations
-----------------------------------------------------------------------------------------

theorem validated_take_succ {column : ColumnSpec} (listed : spec.columns[i]? = some column)
    : validated (spec.columns.take (i + 1))
      = validated (spec.columns.take i) ++ (column.validation.map (·, i)).toList := by
  obtain ⟨inside, item⟩ := List.getElem?_eq_some_iff.mp listed
  rw [List.take_succ_eq_append_getElem inside, item, validated, List.zipIdx_append,
    List.filterMap_append, List.length_take, Nat.min_eq_left (Nat.le_of_lt inside)]
  cases v : column.validation <;> simp [validated, v]

/-- A further validation takes its place behind the others. -/
theorem FilledTo.addValidation {vs : List Validation} {v : Validation}
    (filled : FilledTo spec vs row i s) (onSheet : RangesOnSheet v.ranges)
    : FilledTo spec (vs ++ [v]) row i (s.addValidation v) where
  name := filled.name
  sound := filled.sound
  inBounds := {
    filled.inBounds with
    validations := fun other member => by
      rcases List.mem_append.mp member with old | new
      · exact filled.inBounds.validations other old
      · rw [List.mem_singleton.mp new]
        exact onSheet
  }
  before r c h := ⟨(filled.before r c h).value, (filled.before r c h).style⟩
  after r c h := ⟨(filled.after r c h).value, (filled.after r c h).style⟩
  widths := filled.widths
  validations := by
    rw [← filled.validations]
    rfl

/-- A validation is on the one range that it is made for. -/
theorem validation_ranges {v : ValidationSpec} {range : Range} {made : Validation}
    (built : validation v range = .ok made)
    : made.ranges = [range] := by
  obtain ⟨comparison, _, built⟩ := bind_eq_ok.mp built
  cases built
  rfl

theorem attachValidation_filledTo {column : ColumnSpec} {vs : List Validation}
    (rows : spec.data.length < maxRows) (listed : spec.columns[i]? = some column)
    (done : attachValidation spec.data.length i column s = .ok s')
    (built : (validated (spec.columns.take i)).mapM (dataValidation spec) = .ok vs)
    (filled : FilledTo spec vs row 0 s)
    : ∃ vs', (validated (spec.columns.take (i + 1))).mapM (dataValidation spec) = .ok vs'
        ∧ FilledTo spec vs' row 0 s' := by
  rw [validated_take_succ listed]
  rcases attachValidation_eq_ok.mp done with
    ⟨unvalidated, rfl⟩ | ⟨v, validated, inside, made, making, rfl⟩
  · rw [unvalidated]
    exact ⟨vs, by simpa using built, filled⟩
  · rw [validated]
    refine ⟨vs ++ [made], ?_, filled.addValidation ?_⟩
    · have making : dataValidation spec (v, i) = .ok made := making
      simp [built, making]
      rfl
    · rw [validation_ranges making]
      intro range member
      rw [List.mem_singleton.mp member]
      have top : 1 < maxRows := by decide
      exact Range.ofCorners_onSheet ⟨top, inside⟩ ⟨rows, inside⟩

theorem attachValidations_filledTo (done : attachValidations spec s = .ok s')
    (filled : FilledTo spec [] row 0 s)
    : ∃ vs, declaredValidations spec = .ok vs ∧ FilledTo spec vs row 0 s' := by
  simp only [attachValidations, declaredValidations] at done ⊢
  split at done
  · next noData =>
      cases done
      exact ⟨[], if_pos noData, filled⟩
  · next someData =>
      obtain ⟨last, found, looped⟩ := bind_eq_ok.mp done
      obtain ⟨rows, rfl⟩ := dataRowAt_eq_ok.mp found
      have count : spec.data.length - 1 + 1 = spec.data.length := by
        have : spec.data ≠ [] := fun none => someData (by simp [none])
        have := List.length_pos_iff.mpr this
        omega
      rw [count] at looped rows
      rw [if_neg someData, ← List.take_length (l := spec.columns)]
      refine forEachFrom_invariant (motive := fun i t => ∃ vs,
        (validated (spec.columns.take i)).mapM (dataValidation spec) = .ok vs
          ∧ FilledTo spec vs row 0 t) ?_ looped ⟨[], rfl, filled⟩
      rintro i column t t' listed attached ⟨vs, built, reached⟩
      exact attachValidation_filledTo rows listed attached built reached

end Rows

end Spreadsheet.Build
