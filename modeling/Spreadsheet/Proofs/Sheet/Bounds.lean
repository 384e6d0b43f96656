import Spreadsheet.Proofs.Sheet.Operations

/-! Sheets on which everything has its place within the limits for rows and columns.
-/

namespace Spreadsheet

open Spreadsheet.Cell

-----------------------------------------------------------------------------------------
-- Kept cells
-----------------------------------------------------------------------------------------

namespace Cell.Grid

/-- Cells are kept at positions of a sheet only. -/
def InBounds (g : Grid) : Prop :=
  ∀ row cells, g.rows[row]? = some cells → row < maxRows ∧ ∀ column ∈ cells, column < maxColumns

theorem InBounds.empty : ({} : Grid).InBounds := by
  intro row cells kept
  rw [Std.ExtTreeMap.getElem?_empty] at kept
  cases kept

/-- The kept cells of a row lie on the sheet, whether the row itself is kept or not. -/
theorem InBounds.row {g : Grid} (inside : g.InBounds) {row column : Nat}
    (member : column ∈ g.row row)
    : column < maxColumns := by
  rw [Grid.row, Std.ExtTreeMap.getD_eq_getD_getElem?] at member
  cases kept : g.rows[row]? with
  | none =>
      rw [kept] at member
      exact absurd member Std.ExtTreeMap.not_mem_empty
  | some cells =>
      rw [kept] at member
      exact (inside row cells kept).2 column member

theorem InBounds.update {g : Grid} (inside : g.InBounds) {row column : Nat}
    (place : Address.OnSheet ⟨row, column⟩) (f : Entry → Entry)
    : (g.update row column f).InBounds := by
  intro r cells kept
  have written : ∀ e : Entry, ∀ c ∈ (if e.isBlank then (g.row row).erase column
      else (g.row row).insert column e), c < maxColumns := by
    intro e c member
    split at member
    · exact inside.row (Std.ExtTreeMap.mem_erase.mp member).2
    · rw [Std.ExtTreeMap.mem_insert, Std.compare_eq_iff_eq] at member
      rcases member with rfl | member
      · exact place.column
      · exact inside.row member
  have read := getElem?_keepUnlessEmpty kept
  rcases read with ⟨rfl, rfl⟩ | kept
  · exact ⟨place.row, written _⟩
  · exact inside r cells kept

theorem InBounds.setStyle {g : Grid} (inside : g.InBounds) {row column : Nat}
    (place : Address.OnSheet ⟨row, column⟩) (style : Style)
    : (g.setStyle row column style).InBounds :=
  InBounds.update (g := { g with pool := (g.pool.insert style).2 }) inside place _

end Cell.Grid

-----------------------------------------------------------------------------------------
-- Whole sheets
-----------------------------------------------------------------------------------------

namespace Sheet

/-- All ranges of a rule or a validation lie on a sheet. -/
def RangesOnSheet (ranges : List Range) : Prop := ∀ range ∈ ranges, range.OnSheet

structure Anchor.OnSheet (a : Anchor) : Prop where
  topLeft : a.topLeft.OnSheet
  bottomRight : a.bottomRight.OnSheet

/-- Cells, row settings, merged ranges, the split and the filter lie within the limits. -/
structure InBounds (s : Sheet) : Prop where
  cells : s.cells.InBounds
  rows : ∀ i ∈ s.rows, i < maxRows
  merged : RangesOnSheet s.merged
  freeze : ∀ f, s.freeze = some f → f.topLeftCell.OnSheet
  filter : ∀ range, s.filter = some range → range.OnSheet

/-- The ranges of rules and validations. -/
def markedRanges (s : Sheet) : List Range :=
  s.rules.flatMap (·.ranges) ++ s.validations.flatMap (·.ranges)

theorem ranges_eq (s : Sheet) : s.ranges = s.merged ++ s.filter.toList ++ s.markedRanges :=
  List.append_assoc _ _ _

/-- Of a sheet within its limits nothing but a rule or a validation can be on a row whose number
does not fit in its word.
-/
theorem InBounds.isNumbered_iff {s : Sheet} (inside : s.InBounds)
    : s.IsNumbered ↔ ∀ r ∈ s.markedRanges, r.IsNumbered := by
  rw [IsNumbered, ranges_eq, List.forall_mem_append, List.forall_mem_append]
  constructor
  · exact fun numbered => numbered.1.2
  · refine fun marked => ⟨⟨⟨fun r member => ?_, fun r member => ?_⟩, marked⟩, fun f frozen => ?_⟩
    · exact (inside.merged r member).isNumbered
    · exact (inside.filter r (Option.mem_toList.mp member)).isNumbered
    · exact (inside.freeze f frozen).isNumbered

/-- All row numbers fit in their words if rules and validations are within the limits as well. -/
theorem InBounds.isNumbered {s : Sheet} (inside : s.InBounds)
    (marked : RangesOnSheet s.markedRanges)
    : s.IsNumbered :=
  inside.isNumbered_iff.mpr fun r member => (marked r member).isNumbered

/-- Cells, row settings, merged ranges and the filter lie within the limits, and the split is one
that a pane can name.
-/
structure Placed (s : Sheet) : Prop where
  cells : s.cells.InBounds
  rows : ∀ i ∈ s.rows, i < maxRows
  merged : RangesOnSheet s.merged
  freeze : ∀ f, s.freeze = some f → f.rows < rowNumberLimit ∧ f.columns < Number.wordLimit 16
  filter : ∀ range, s.filter = some range → range.OnSheet

/-- A pane can name every split within the limits. -/
theorem InBounds.placed {s : Sheet} (inside : s.InBounds) : s.Placed where
  cells := inside.cells
  rows := inside.rows
  merged := inside.merged
  freeze f frozen := by
    have corner := inside.freeze f frozen
    exact ⟨Nat.lt_trans corner.row (by decide), Nat.lt_trans corner.column (by decide)⟩
  filter := inside.filter

/-- Everything that has a place on the sheet lies within the limits, and no merged range ends above
its first row.
-/
structure AllInBounds (s : Sheet) : Prop extends s.InBounds where
  columns : ∀ i ∈ s.columns, i < maxColumns
  descending : ∀ range ∈ s.merged, range.topLeft.row ≤ range.bottomRight.row
  rules : ∀ rule ∈ s.rules, RangesOnSheet rule.ranges
  validations : ∀ v ∈ s.validations, RangesOnSheet v.ranges
  charts : ∀ chart ∈ s.charts, chart.anchor.OnSheet
  pictures : ∀ picture ∈ s.pictures, picture.anchor.OnSheet

theorem AllInBounds.blank (name : String) : ({ name } : Sheet).AllInBounds where
  cells := Grid.InBounds.empty
  rows i member := absurd member Std.ExtTreeMap.not_mem_empty
  merged _ member := absurd member List.not_mem_nil
  freeze _ split := by cases split
  filter _ filtered := by cases filtered
  columns i member := absurd member Std.ExtTreeMap.not_mem_empty
  descending _ member := absurd member List.not_mem_nil
  rules _ member := absurd member List.not_mem_nil
  validations _ member := absurd member List.not_mem_nil
  charts _ member := absurd member List.not_mem_nil
  pictures _ member := absurd member List.not_mem_nil

/-- Settings along an axis belong to lines of the sheet. -/
theorem AllInBounds.lines {s : Sheet} (inside : s.AllInBounds) (axis : Axis)
    : ∀ i ∈ s.lines axis, i < axis.limit := by
  cases axis with
  | rows => exact inside.rows
  | columns => exact inside.columns

theorem AllInBounds.withLines {s : Sheet} (inside : s.AllInBounds) {axis : Axis} {m : Settings}
    (lines : ∀ i ∈ m, i < axis.limit)
    : (s.withLines axis m).AllInBounds := by
  cases axis with
  | rows => exact { inside with rows := lines }
  | columns => exact { inside with columns := lines }

theorem Settings.lt_limit_insert {m : Settings} {axis : Axis} (lines : ∀ i ∈ m, i < axis.limit)
    {i : Nat} (inside : i < axis.limit) (setting : Setting)
    : ∀ j ∈ m.insert i setting, j < axis.limit := by
  intro j member
  rw [Std.ExtTreeMap.mem_insert, Std.compare_eq_iff_eq] at member
  rcases member with rfl | member
  · exact inside
  · exact lines j member

/-- A setting of a line of the sheet keeps all settings on the sheet. -/
theorem AllInBounds.insertLine {s : Sheet} (inside : s.AllInBounds) (axis : Axis) {i : Nat}
    (line : i < axis.limit) (setting : Setting)
    : (s.withLines axis ((s.lines axis).insert i setting)).AllInBounds :=
  inside.withLines (Settings.lt_limit_insert (inside.lines axis) line setting)

end Sheet

end Spreadsheet
