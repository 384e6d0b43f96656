import Spreadsheet.Build.Table

/-! The table that a sheet declares, position by position: what the header, the data rows and the
totals show, and that nothing is shown elsewhere.
-/

namespace Spreadsheet.Build

open Spreadsheet.Cell Spreadsheet.Request Spreadsheet.Sheet Spreadsheet.Style

-----------------------------------------------------------------------------------------
-- Declared styles
-----------------------------------------------------------------------------------------

/-- A declared slot takes the place of the slot below it. -/
def Slot (declared : Option α) (convert : α → Except BuildError β) (below slot : β) : Prop :=
  match declared with
  | none => slot = below
  | some a => convert a = .ok slot

/-- The style is the one below with each declared slot in the place of its own. -/
structure LaidOver (spec : Option StyleSpec) (below style : Style) : Prop where
  font : Slot (spec.bind (·.font)) font below.font style.font
  alignment
    : Slot (spec.bind (·.alignment)) (fun a => .ok (alignment a)) below.alignment
        style.alignment
  fill : Slot (spec.bind (·.fill)) fill below.fill style.fill
  border : Slot (spec.bind (·.border)) border below.border style.border
  format : style.format = below.format

/-- A layer that succeeds sets its slot on the style that the earlier layers left. -/
theorem layer_eq_ok {slot : Option α} {convert : α → Except BuildError β}
    {set : Style → β → Style} (get : Style → β) (own : ∀ s, set s (get s) = s) {x : Layered}
    {t : Style} (done : layer slot convert set x = (t, .ok ()))
    : ∃ s b, x = (s, .ok ()) ∧ Slot slot convert (get s) b ∧ t = set s b := by
  obtain ⟨s, result⟩ := x
  cases result with
  | error e => simp [layer] at done
  | ok u =>
      cases slot with
      | none =>
          cases done
          exact ⟨_, _, rfl, rfl, (own _).symm⟩
      | some a =>
          simp only [layer] at done
          split at done
          · next b converted =>
              cases done
              exact ⟨s, b, rfl, converted, rfl⟩
          · cases done

theorem overlaid_laidOver {spec : StyleSpec} {below style : Style}
    (done : overlaid spec below = .ok style)
    : LaidOver (some spec) below style := by
  simp only [overlaid] at done
  split at done
  · next laid =>
      cases done
      -- The layers are undone from the last to the first.
      obtain ⟨_, _, three, border, rfl⟩ := layer_eq_ok Style.border (fun _ => rfl) laid
      obtain ⟨_, _, two, fill, rfl⟩ := layer_eq_ok Style.fill (fun _ => rfl) three
      obtain ⟨_, _, one, alignment, rfl⟩ := layer_eq_ok Style.alignment (fun _ => rfl) two
      obtain ⟨_, _, none, font, rfl⟩ := layer_eq_ok Style.font (fun _ => rfl) one
      cases none
      exact ⟨font, alignment, fill, border, rfl⟩
  · cases done

theorem withOverlay_laidOver {spec : Option StyleSpec} {below style : Style}
    (done : withOverlay spec below = .ok style)
    : LaidOver spec below style := by
  cases spec with
  | none =>
      cases done
      exact ⟨rfl, rfl, rfl, rfl, rfl⟩
  | some spec => exact overlaid_laidOver done

-----------------------------------------------------------------------------------------
-- The declared table
-----------------------------------------------------------------------------------------

/-- The format of a column's data cells: the one it names, or else that of its kind, or else
the general one.
-/
def declaredFormat (column : ColumnSpec) : NumberFormat :=
  match column.format.filter (!·.isEmpty), column.kind with
  | some code, _ => .ofCode code
  | none, some kind => .ofCode (defaultFormat kind)
  | none, none => .general

theorem columnFormat_eq (column : ColumnSpec) : columnFormat column = declaredFormat column := by
  unfold columnFormat columnFormat.kindFormat declaredFormat
  cases format : column.format with
  | none => cases column.kind <;> rfl
  | some code =>
      by_cases noCode : code.isEmpty
      · cases column.kind <;> simp [Option.filter, noCode]
      · simp [Option.filter, noCode]

/-- The style of totals: the default one made bold. -/
def totalStyle : Style := { font := { bold := true } }

/-- The totals that a sheet declares, by column key. -/
def declaredTotals (spec : SheetSpec) : List (String × String) :=
  (spec.formatting.bind (·.totals)).getD []

/-- The total below a column, among some totals: that of its key, if it is the first column with
the key. Of several totals with one key the last one counts.
-/
def totalBelow? (spec : SheetSpec) (totals : List (String × String)) (i : Nat) : Option String :=
  match spec.columns[i]? with
  | some column =>
    if spec.columnPosition? column.key = some i then totals.reverse.lookup column.key else none
  | none => none

/-- The value that a table declares for a position. -/
def declaredValue (spec : SheetSpec) (row i : Nat) : Value :=
  match spec.columns[i]? with
  | none => .empty
  | some column =>
    if row = 0 then .text column.header
    else
      match spec.data[row - 1]? with
      | some data => cellValue column.kind (data.get? column.key)
      | none =>
        if row = spec.data.length + 1 then
          ((totalBelow? spec (declaredTotals spec) i).map .ofFormula).getD .empty
        else .empty

/-- The style is the one that a table declares for a position. -/
def DeclaredStyle (spec : SheetSpec) (row i : Nat) (style : Style) : Prop :=
  match spec.columns[i]? with
  | none => style = {}
  | some column =>
    if row = 0 then LaidOver column.style headerStyle style
    else if row ≤ spec.data.length then
      LaidOver column.style { format := declaredFormat column } style
    else if row = spec.data.length + 1 ∧ (totalBelow? spec (declaredTotals spec) i).isSome then
      style = totalStyle
    else style = {}

/-- The validations of some columns with the positions of the columns. -/
def validated (columns : List ColumnSpec) : List (ValidationSpec × Nat) :=
  columns.zipIdx.filterMap fun (column, i) => column.validation.map (·, i)

/-- The validation of the data cells in one column. -/
def dataValidation (spec : SheetSpec) (v : ValidationSpec × Nat) : Except BuildError Validation :=
  validation v.1 (.ofCorners ⟨1, v.2⟩ ⟨spec.data.length, v.2⟩)

/-- The validations that a table declares; there are none without data. -/
def declaredValidations (spec : SheetSpec) : Except BuildError (List Validation) :=
  if spec.data.isEmpty then .ok [] else (validated spec.columns).mapM (dataValidation spec)

end Spreadsheet.Build
