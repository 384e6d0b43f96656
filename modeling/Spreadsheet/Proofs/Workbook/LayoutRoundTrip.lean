import Spreadsheet.Proofs.Package.WorkbookReadBack

/-! Workbooks that were built, written and read again: what is kept of merged ranges, splits,
filters and the settings of rows and columns.
-/

namespace Spreadsheet

open Spreadsheet.Cell Spreadsheet.Xml

namespace Sheet

-----------------------------------------------------------------------------------------
-- Layouts
-----------------------------------------------------------------------------------------

/-- Two settings show the same, whether a group is collapsed there or not. -/
structure Setting.Alike (a b : Setting) : Prop where
  size : b.size = a.size
  hidden : b.hidden = a.hidden
  outlineLevel : b.outlineLevel = a.outlineLevel

/-- The sheets have the same merged ranges, split, filter and settings. -/
structure SameLayout (s s' : Sheet) : Prop where
  merged : s'.merged = s.merged
  freeze : s'.freeze = s.freeze
  filter : s'.filter = s.filter
  line : ∀ axis i, (Settings.get (s.lines axis) i).Alike (Settings.get (s'.lines axis) i)

/-- The sheet with the corners of its ranges in order, and without a split that keeps nothing in
view.
-/
def ordered (s : Sheet) : Sheet :=
  { s with
    merged := s.merged.map Range.normalized
    freeze := s.freeze.filter fun f => ¬(f.rows = 0 ∧ f.columns = 0)
    filter := s.filter.map Range.normalized }

/-- The sizes of all rows and columns are finite. -/
def FiniteSizes (s : Sheet) : Prop :=
  ∀ axis i x, (Settings.get (s.lines axis) i).size = some x → x.isFinite = true

variable {s s' : Sheet}

/-- A setting with a finite size is read as it is, but for a collapsed group. -/
theorem Setting.alike_asRead {setting : Setting}
    (finite : ∀ x, setting.size = some x → x.isFinite = true)
    : setting.Alike setting.asRead where
  size := by
    rw [asRead]
    cases size : setting.size with
    | none => rfl
    | some x =>
        rw [Option.map_some, Number.Binary64.readBinary64?_text_of_isFinite (finite x size),
          Option.getD_some]
  hidden := rfl
  outlineLevel := rfl

/-- A sheet that was read has the layout of the other with everything in order. -/
theorem ReadsAs.sameLayout (read : s.ReadsAs s') (finite : s.FiniteSizes)
    : s.ordered.SameLayout s' where
  merged := read.merged
  freeze := read.freeze
  filter := read.filter
  line axis i := by
    have lines : s.ordered.lines axis = s.lines axis := by cases axis <;> rfl
    rw [read.line, lines]
    exact Setting.alike_asRead (finite axis i)

/-- With corners in order and a split that keeps something in view, all is in order. -/
theorem InOrder.ordered_eq (inOrder : s.InOrder) (holds : s.HoldsSplit) : s.ordered = s := by
  have inPlace {r : Range} (member : r ∈ s.ranges) : r.normalized = r :=
    Range.normalized_eq_self_iff.mpr (inOrder r member)
  have merged : s.merged.map Range.normalized = s.merged :=
    (List.map_congr_left fun r member => inPlace (mem_ranges_of_merged member)).trans
      (List.map_id _)
  have filter : s.filter.map Range.normalized = s.filter := by
    cases filtered : s.filter with
    | none => rfl
    | some r => rw [Option.map_some, inPlace (mem_ranges_of_filter filtered)]
  have freeze : s.freeze.filter (fun f => ¬(f.rows = 0 ∧ f.columns = 0)) = s.freeze := by
    cases frozen : s.freeze with
    | none => rfl
    | some f => rw [Option.filter_some, if_pos (decide_eq_true (holds f frozen))]
  rw [ordered, merged, filter, freeze]

end Sheet

namespace Workbook

/-- A height below a frozen row, a hidden column, a merged range and a filter. -/
def layoutEdits : List Sheet.Edit :=
  [.setSize .rows 4 18, .setHidden .columns 2 true, .merge ⟨⟨0, 0⟩, ⟨0, 3⟩⟩, .setFreeze 1 0,
    .setFilter ⟨⟨1, 0⟩, ⟨9, 3⟩⟩]

/-- What these operations make. -/
def layoutSample : Sheet where
  name := "Data"
  rows := (∅ : Sheet.Settings).insert 4 { size := some 18 }
  columns := (∅ : Sheet.Settings).insert 2 { hidden := true }
  merged := [⟨⟨0, 0⟩, ⟨0, 3⟩⟩]
  freeze := some ⟨1, 0⟩
  filter := some ⟨⟨1, 0⟩, ⟨9, 3⟩⟩

theorem edited_layoutEdits : edited "Data" layoutEdits = layoutSample := rfl

theorem layoutSample_inBounds : layoutSample.InBounds where
  cells := Cell.Grid.InBounds.empty
  rows i member := by
    rw [layoutSample, Std.ExtTreeMap.mem_insert, Std.compare_eq_iff_eq] at member
    rcases member with rfl | member
    · decide
    · exact absurd member Std.ExtTreeMap.not_mem_empty
  merged range member := by
    cases List.mem_singleton.mp member
    exact ⟨⟨by decide, by decide⟩, ⟨by decide, by decide⟩⟩
  freeze f split := by
    cases split
    exact ⟨by decide, by decide⟩
  filter range filtered := by
    cases filtered
    exact ⟨⟨by decide, by decide⟩, ⟨by decide, by decide⟩⟩

theorem layoutSample_finiteSizes : layoutSample.FiniteSizes := by
  intro axis i x sized
  cases axis with
  | rows =>
      rw [Sheet.lines, layoutSample, Sheet.Settings.get, Std.ExtTreeMap.getD_insert] at sized
      split at sized
      · cases sized
        decide +kernel
      · cases sized
  | columns =>
      rw [Sheet.lines, layoutSample, Sheet.Settings.get, Std.ExtTreeMap.getD_insert] at sized
      split at sized <;> cases sized

theorem layoutSample_inOrder : layoutSample.InOrder := by
  rw [← edited_layoutEdits]
  refine edited_inOrder ?_
  simp only [layoutEdits, List.forall_mem_cons, Sheet.Edit.ranges, List.not_mem_nil, false_implies,
    implies_true, true_and, and_true]
  exact ⟨⟨by decide, by decide⟩, ⟨by decide, by decide⟩⟩

end Workbook

end Spreadsheet
