import Spreadsheet.Proofs.Sheet.CellMaps
import Spreadsheet.Proofs.Sheet.LegalSheets

/-! Operations keep a sheet within its limits, one after the other. Each limit is guarded by another
operation: positions are checked where cells and settings are written, levels where lines are
outlined, overlaps where ranges are merged. Only putting rows in moves all of them at once, and it
looks no further than the last row of each.
-/

namespace Spreadsheet

open Spreadsheet.Cell

-----------------------------------------------------------------------------------------
-- Ranges without common cells
-----------------------------------------------------------------------------------------

namespace Cell.Range

/-- No cell lies in both ranges. -/
def Apart (r s : Range) : Prop := ∀ place : Address, ¬ (r.contains place ∧ s.contains place)

/-- A cell in both of two ranges makes them overlap. -/
theorem Apart.of_not_overlaps {r s : Range} (clear : ¬ r.overlaps s) : r.Apart s := by
  rintro place ⟨first, second⟩
  refine clear ?_
  simp only [contains, overlaps, Bool.and_eq_true, decide_eq_true_eq] at first second ⊢
  omega

/-- A range with its corners in order does not end above its first row. -/
theorem descending_of_normalized {r : Range} (ordered : r.normalized = r)
    : r.topLeft.row ≤ r.bottomRight.row := by
  rw [← ordered]
  exact Nat.le_trans (Nat.min_le_left _ _) (Nat.le_max_left _ _)

end Cell.Range

namespace Sheet

variable {s s' : Sheet} {axis : Axis} {m : Settings} {edit : Edit} {start count row : Nat}

/-- Settings with their levels within the limit and on lines of a sheet stay so when lines are
grouped, whether that succeeds or fails halfway.
-/
theorem Settings.Legal.group (legal : Settings.Legal axis m) (g : OutlineGroup)
    : Settings.Legal axis (Settings.group axis g m).1 :=
  Settings.group_preserves (fun _ _ _ inside _ level legal => legal.insert inside level) g legal

-----------------------------------------------------------------------------------------
-- What putting rows in looks at
-----------------------------------------------------------------------------------------

/-- The rows that putting rows in looks at: the last ones with cells or a setting, and the last one
of each merged range.
-/
def guardedRows (s : Sheet) : List Nat :=
  s.cells.lastRow?.toList ++ (Numbered.lastKey? s.rows).toList ++ s.merged.map (·.bottomRight.row)

/-- What is looked at is on the sheet if cells, settings and merged ranges are. -/
theorem lt_of_mem_guardedRows (cells : s.cells.InBounds) (rows : ∀ i ∈ s.rows, i < maxRows)
    (merged : RangesOnSheet s.merged) (guarded : row ∈ s.guardedRows)
    : row < maxRows := by
  simp only [guardedRows, List.mem_append, Option.mem_toList, List.mem_map] at guarded
  rcases guarded with (last | last) | ⟨range, member, rfl⟩
  · have member := Std.ExtTreeMap.mem_keys.mp (List.mem_of_getLast? last)
    exact (cells row _ (Std.ExtTreeMap.getElem?_eq_some_getElem member)).1
  · exact rows row (Std.ExtTreeMap.mem_keys.mp (List.mem_of_getLast? last))
  · exact (merged range member).bottomRight.row

theorem lastRowFrom?_eq (s : Sheet) (start : Nat)
    : s.lastRowFrom? start = (s.guardedRows.filter (start ≤ ·)).max? :=
  rfl

/-- Rows are put in only if nothing that is looked at leaves the sheet. -/
theorem add_lt_of_insertRows (positive : count ≠ 0) (done : s.insertRows start count = .ok s')
    (guarded : row ∈ s.guardedRows) (moved : start ≤ row)
    : row + count < maxRows := by
  rcases insertRows_eq_ok.mp done with ⟨nothing, -⟩ | ⟨-, stays, -⟩
  · exact absurd nothing positive
  have candidate : row ∈ s.guardedRows.filter (start ≤ ·) :=
    List.mem_filter.mpr ⟨guarded, decide_eq_true moved⟩
  have some : (s.guardedRows.filter (start ≤ ·)).max? ≠ none := by
    rw [ne_eq, List.max?_eq_none_iff]
    exact List.ne_nil_of_mem candidate
  obtain ⟨last, found⟩ := Option.ne_none_iff_exists'.mp some
  have upper : row ≤ last := (List.max?_eq_some_iff.mp found).2 row candidate
  have inside : last + count < maxRows := stays last found
  omega

/-- Rows down to one that is looked at stay on the sheet: above the new rows they keep their
place, and below they do not pass where that one comes to stand.
-/
theorem shiftRow_lt_of_insertRows (onSheet : ∀ row ∈ s.guardedRows, row < maxRows)
    (positive : count ≠ 0) (done : s.insertRows start count = .ok s') {last : Nat}
    (guarded : last ∈ s.guardedRows) (upper : row ≤ last)
    : shiftRow start count row < maxRows := by
  have below : last < maxRows := onSheet last guarded
  rw [shiftRow]
  split
  · have stays := add_lt_of_insertRows positive done guarded (by omega)
    omega
  · omega

-----------------------------------------------------------------------------------------
-- Sheets in order
-----------------------------------------------------------------------------------------

/-- Cells, settings and merged ranges are on the sheet, outline levels within their limit, and
merged ranges have their corners in order and do not overlap.
-/
structure InPlace (s : Sheet) : Prop where
  cells : s.cells.InBounds
  lines : ∀ axis, Settings.Legal axis (s.lines axis)
  merged : RangesOnSheet s.merged
  orderly : s.OrderlyMerges

/-- A range is merged only if it is one of the sheet with its corners in order. -/
def Edit.Sensible : Edit → Prop
  | .merge range => range.normalized = range ∧ range.OnSheet
  | _ => True

namespace InPlace

theorem blank (name : String) : ({ name } : Sheet).InPlace where
  cells := Grid.InBounds.empty
  lines axis := by
    cases axis with
    | rows => exact .empty .rows
    | columns => exact .empty .columns
  merged _ member := absurd member List.not_mem_nil
  orderly := .blank name

/-- Nothing but cells on the sheet, and what has no part in the order, is touched. -/
theorem aside (inPlace : s.InPlace) (cells : s'.cells.InBounds) (merged : s'.merged = s.merged)
    (lines : ∀ axis, s'.lines axis = s.lines axis)
    : s'.InPlace where
  cells := cells
  lines axis := by
    rw [lines]
    exact inPlace.lines axis
  merged := by
    rw [merged]
    exact inPlace.merged
  orderly := inPlace.orderly.of_merged merged

theorem setValue (inPlace : s.InPlace) {row column : Nat} {value : Value}
    (done : s.setValue row column value = .ok s')
    : s'.InPlace := by
  obtain ⟨place, rfl⟩ := setValue_eq_ok.mp done
  exact inPlace.aside (inPlace.cells.update place _) rfl fun axis => by cases axis <;> rfl

theorem setStyle (inPlace : s.InPlace) {row column : Nat} {style : Style}
    (done : s.setStyle row column style = .ok s')
    : s'.InPlace := by
  obtain ⟨place, rfl⟩ := setStyle_eq_ok.mp done
  exact inPlace.aside (inPlace.cells.setStyle place style) rfl fun axis => by cases axis <;> rfl

theorem withLines (inPlace : s.InPlace) (legal : Settings.Legal axis m)
    : (s.withLines axis m).InPlace := by
  have others (other : Axis) : Settings.Legal other ((s.withLines axis m).lines other) := by
    cases axis <;> cases other
    · exact legal
    · exact inPlace.lines .columns
    · exact inPlace.lines .rows
    · exact legal
  cases axis with
  | rows => exact ⟨inPlace.cells, others, inPlace.merged, inPlace.orderly.of_merged rfl⟩
  | columns => exact ⟨inPlace.cells, others, inPlace.merged, inPlace.orderly.of_merged rfl⟩

/-- A line of the sheet gets a setting with a level within the limit, or with that it had. -/
theorem insertLine (inPlace : s.InPlace) {i : Nat} (inside : i < axis.limit) {setting : Setting}
    (level : setting.outlineLevel ≤ maxOutlineLevel
      ∨ setting.outlineLevel = (Settings.get (s.lines axis) i).outlineLevel)
    : (s.withLines axis ((s.lines axis).insert i setting)).InPlace :=
  inPlace.withLines ((inPlace.lines axis).insert inside level)

theorem merge (inPlace : s.InPlace) {range : Range} (ordered : range.normalized = range)
    (onSheet : range.OnSheet) (done : s.merge range = .ok s')
    : s'.InPlace := by
  obtain ⟨clear, rfl⟩ := merge_eq_ok.mp done
  refine ⟨inPlace.cells, fun axis => ?_, fun other member => ?_,
    inPlace.orderly.merge ordered clear⟩
  · cases axis with
    | rows => exact inPlace.lines .rows
    | columns => exact inPlace.lines .columns
  · rcases List.mem_append.mp member with member | new
    · exact inPlace.merged other member
    · cases List.mem_singleton.mp new
      exact onSheet

/-- Rows that are put in take nothing off the sheet: what is moved ends no lower than a row that is
looked at.
-/
theorem insertRows (inPlace : s.InPlace)
    (done : s.insertRows start count = .ok s')
    : s'.InPlace := by
  rcases insertRows_cases done with ⟨-, rfl⟩ | ⟨some, rfl⟩
  · exact inPlace
  have onSheet : ∀ row ∈ s.guardedRows, row < maxRows := fun row guarded =>
    lt_of_mem_guardedRows inPlace.cells (inPlace.lines .rows).onSheet inPlace.merged guarded
  have stays {row last : Nat} (guarded : last ∈ s.guardedRows) (upper : row ≤ last)
      : shiftRow start count row < maxRows :=
    shiftRow_lt_of_insertRows onSheet some done guarded upper
  refine ⟨inPlace.cells.shiftRows fun row kept => ?_, fun axis => ?_, fun range moved => ?_,
    inPlace.orderly.shiftRows start count⟩
  · obtain ⟨last, found, upper⟩ := Numbered.exists_lastKey? kept
    have guarded : last ∈ s.guardedRows :=
      List.mem_append_left _ (List.mem_append_left _ (Option.mem_toList.mpr found))
    exact stays guarded upper
  · cases axis with
    | columns => exact inPlace.lines .columns
    | rows =>
        have legal : Settings.Legal .rows s.rows := inPlace.lines .rows
        refine ⟨⟨fun row setting moved => ?_, fun columns => by cases columns⟩, fun row moved => ?_⟩
        · obtain ⟨i, kept, -⟩ := Numbered.exists_of_getElem?_shiftRows moved
          exact legal.shallow i setting kept
        · obtain ⟨i, kept, rfl⟩ := Numbered.exists_of_getElem?_shiftRows
            (Std.ExtTreeMap.getElem?_eq_some_getElem moved)
          obtain ⟨last, found, upper⟩ := Numbered.exists_lastKey? (Numbered.mem_of_getElem? kept)
          have guarded : last ∈ s.guardedRows :=
            List.mem_append_left _ (List.mem_append_right _ (Option.mem_toList.mpr found))
          exact stays guarded upper
  · obtain ⟨before, member, rfl⟩ := List.mem_map.mp moved
    have place := inPlace.merged before member
    have down : before.topLeft.row ≤ before.bottomRight.row :=
      Range.descending_of_normalized (inPlace.orderly.ordered before member)
    have guarded : before.bottomRight.row ∈ s.guardedRows :=
      List.mem_append_right _ (List.mem_map_of_mem member)
    exact ⟨⟨stays guarded down, place.topLeft.column⟩,
      ⟨stays guarded (Nat.le_refl _), place.bottomRight.column⟩⟩

/-- No sensible operation takes anything out of its place, whether it succeeds or fails. -/
theorem apply (inPlace : s.InPlace) (sensible : edit.Sensible) : (s.apply edit).InPlace := by
  cases edit with
  | setValue row column value => exact orSame_cases inPlace fun s' done => inPlace.setValue done
  | setFormula row column text => exact orSame_cases inPlace fun s' done => inPlace.setValue done
  | setValueAt address value =>
      refine orSame_cases inPlace fun s' done => ?_
      obtain ⟨a, -, done⟩ := bind_eq_ok.mp done
      exact inPlace.setValue done
  | setStyle row column style => exact orSame_cases inPlace fun s' done => inPlace.setStyle done
  | updateStyle row column change => exact orSame_cases inPlace fun s' done => inPlace.setStyle done
  | setSize axis i size =>
      refine orSame_cases inPlace fun s' done => ?_
      obtain ⟨inside, rfl⟩ := setSize_eq_ok.mp done
      exact inPlace.insertLine inside (.inr rfl)
  | setHidden axis i hidden =>
      refine orSame_cases inPlace fun s' done => ?_
      obtain ⟨inside, rfl⟩ := setHidden_eq_ok.mp done
      exact inPlace.insertLine inside (.inr rfl)
  | setOutline axis i level =>
      refine orSame_cases inPlace fun s' done => ?_
      obtain ⟨shallow, inside, rfl⟩ := setOutline_eq_ok.mp done
      exact inPlace.insertLine inside (.inl shallow)
  | group axis g =>
      rw [Sheet.apply, group_eq]
      exact inPlace.withLines ((inPlace.lines axis).group g)
  | merge range =>
      obtain ⟨ordered, onSheet⟩ := sensible
      exact orSame_cases inPlace fun s' done => inPlace.merge ordered onSheet done
  | insertRows start count =>
      exact orSame_cases inPlace fun s' done => inPlace.insertRows done
  | setFreeze | setFilter | setPage | setHeaderFooter | protect | addRule | addValidation | addChart
  | addPicture =>
      exact inPlace.aside inPlace.cells rfl fun axis => by cases axis <;> rfl

end InPlace

-----------------------------------------------------------------------------------------
-- Runs
-----------------------------------------------------------------------------------------

/-- No cell lies in two merged ranges, cells and settings are on the sheet, and no outline is deeper
than outlines may be.
-/
structure Confined (s : Sheet) : Prop where
  merged : s.merged.Pairwise Range.Apart
  cells
    : ∀ row column e, s.cells.entry? row column = some e → row < maxRows ∧ column < maxColumns
  rows : ∀ i setting, s.rows[i]? = some setting
    → i < maxRows ∧ setting.outlineLevel ≤ maxOutlineLevel
  columns : ∀ i setting, s.columns[i]? = some setting
    → i < maxColumns ∧ setting.outlineLevel ≤ maxOutlineLevel

theorem InPlace.confined (inPlace : s.InPlace) : s.Confined where
  merged := inPlace.orderly.clear.imp .of_not_overlaps
  cells row column e kept := by
    obtain ⟨cells, found, kept⟩ := Grid.entry?_eq_some.mp kept
    obtain ⟨above, left⟩ := inPlace.cells row cells found
    exact ⟨above, left column (Numbered.mem_of_getElem? kept)⟩
  rows i setting kept :=
    ⟨(inPlace.lines .rows).onSheet i (Numbered.mem_of_getElem? kept),
      (inPlace.lines .rows).shallow i setting kept⟩
  columns i setting kept :=
    ⟨(inPlace.lines .columns).onSheet i (Numbered.mem_of_getElem? kept),
      (inPlace.lines .columns).shallow i setting kept⟩

/-- A run of operations, from a blank sheet on, never leaves two merged ranges with a common cell,
nor a cell or a setting off the sheet, nor an outline deeper than outlines may be.
-/
theorem confined_of_run {name : String} (run : Run Edit.Sensible { name } s) : s.Confined := by
  have inPlace : s.InPlace :=
    run.preserves (motive := InPlace) (fun _ _ sensible inPlace => inPlace.apply sensible)
      (.blank name)
  exact inPlace.confined

/-- Operations of a kind make a run, whatever comes of them. -/
theorem Run.of_list {kind : Edit → Prop} {edits : List Edit} (ofKind : ∀ edit ∈ edits, kind edit)
    : Run kind s (edits.foldl Sheet.apply s) := by
  induction edits generalizing s with
  | nil => exact .refl
  | cons edit rest ih =>
      have first : Run kind s (s.apply edit) := .single edit (ofKind edit List.mem_cons_self) rfl
      exact first.trans (ih fun other member => ofKind other (List.mem_cons_of_mem _ member))

/-- Operations on all that has a limit. The second range overlaps the first one, the group fails at
its second row, there is no column 16384, and rows are put in across the merged range.
-/
def limitEdits : List Edit :=
  [.setValue 3 1 (.boolean true), .merge ⟨⟨1, 0⟩, ⟨2, 1⟩⟩, .merge ⟨⟨2, 1⟩, ⟨4, 1⟩⟩,
    .setOutline .rows 3 7, .group .rows ⟨2, 4, false⟩, .setHidden .columns 16384 true,
    .insertRows 2 2]

/-- The operations that fail leave only the first row of the group behind. -/
theorem confined_limitEdits
    : ∃ s, Run Edit.Sensible { name := "Plan" } s ∧ s.Confined
        ∧ s.merged = [⟨⟨1, 0⟩, ⟨4, 1⟩⟩]
        ∧ s.rows.toList = [(4, { outlineLevel := 1 }), (5, { outlineLevel := 7 })] := by
  have sensible : ∀ edit ∈ limitEdits, edit.Sensible := by
    have first : Range.OnSheet ⟨⟨1, 0⟩, ⟨2, 1⟩⟩ := ⟨⟨by decide, by decide⟩, ⟨by decide, by decide⟩⟩
    have second : Range.OnSheet ⟨⟨2, 1⟩, ⟨4, 1⟩⟩ := ⟨⟨by decide, by decide⟩, ⟨by decide, by decide⟩⟩
    simp [limitEdits, Edit.Sensible, Range.normalized, Range.ofCorners, first, second]
  have run
      : Run Edit.Sensible { name := "Plan" } (limitEdits.foldl Sheet.apply { name := "Plan" }) :=
    .of_list sensible
  exact ⟨_, run, confined_of_run run, by decide +kernel, by decide +kernel⟩

end Sheet

end Spreadsheet
