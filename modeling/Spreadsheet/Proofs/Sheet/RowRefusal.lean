import Spreadsheet.Proofs.Sheet.Confinement
import Spreadsheet.Proofs.Sheet.ShownSheets

/-! When a sheet refuses to put rows in. It looks at the row that the lowest of its contents would
come to: rows are refused if that is none of the sheet. The number of that row is told, unless it is
too great for a word; then the sum that finds it ends the program.
-/

namespace Spreadsheet

open Spreadsheet.Cell

namespace Sheet

variable {s s' : Sheet} {start count row last : Nat}

-----------------------------------------------------------------------------------------
-- The lowest row
-----------------------------------------------------------------------------------------

/-- Something on the sheet ends in the row: it has a kept cell or a setting, or it is the last one
of a merged range.
-/
inductive EndsIn (s : Sheet) (row : Nat) : Prop where
  | cell {column : Nat} {e : Entry} (kept : s.cells.entry? row column = some e)
  | setting (member : row ∈ s.rows)
  | merged {range : Range} (member : range ∈ s.merged) (bottom : range.bottomRight.row = row)

/-- Nothing on the sheet ends in a lower row. -/
structure IsLowest (s : Sheet) (row : Nat) : Prop where
  ends : s.EndsIn row
  lowest : ∀ other, s.EndsIn other → other ≤ row

/-- What is looked at are rows in which something ends. -/
theorem endsIn_of_mem_guardedRows (pruned : s.cells.Pruned) (guarded : row ∈ s.guardedRows)
    : s.EndsIn row := by
  simp only [guardedRows, List.mem_append, Option.mem_toList, List.mem_map] at guarded
  rcases guarded with (last | last) | ⟨range, member, bottom⟩
  · obtain ⟨column, e, kept⟩ := pruned.exists_of_lastRow? last
    exact .cell kept
  · obtain ⟨setting, found⟩ := Numbered.exists_of_lastKey? last
    exact .setting (Numbered.mem_of_getElem? found)
  · exact .merged member bottom

/-- Nothing ends below all rows that are looked at. -/
theorem EndsIn.exists_guarded (ends : s.EndsIn row) : ∃ last ∈ s.guardedRows, row ≤ last := by
  cases ends with
  | cell kept =>
      obtain ⟨last, found, upper⟩ := Grid.exists_lastRow? kept
      exact ⟨last, List.mem_append_left _ (List.mem_append_left _ (Option.mem_toList.mpr found)),
        upper⟩
  | setting member =>
      obtain ⟨last, found, upper⟩ := Numbered.exists_lastKey? member
      exact ⟨last, List.mem_append_left _ (List.mem_append_right _ (Option.mem_toList.mpr found)),
        upper⟩
  | merged member bottom =>
      exact ⟨row, List.mem_append_right _ (bottom ▸ List.mem_map_of_mem member), Nat.le_refl row⟩

/-- What is compared is the lowest row, if that is moved at all. -/
theorem lastRowFrom?_eq_some (pruned : s.cells.Pruned)
    : s.lastRowFrom? start = some last ↔ s.IsLowest last ∧ start ≤ last := by
  rw [lastRowFrom?_eq, List.max?_eq_some_iff]
  constructor
  · rintro ⟨member, greatest⟩
    obtain ⟨guarded, moved⟩ := List.mem_filter.mp member
    have moved : start ≤ last := of_decide_eq_true moved
    refine ⟨⟨endsIn_of_mem_guardedRows pruned guarded, fun other ends => ?_⟩, moved⟩
    obtain ⟨lower, guarded', upper⟩ := ends.exists_guarded
    by_cases above : start ≤ lower
    · exact Nat.le_trans upper
        (greatest lower (List.mem_filter.mpr ⟨guarded', decide_eq_true above⟩))
    · omega
  · rintro ⟨⟨ends, lowest⟩, moved⟩
    obtain ⟨lower, guarded, upper⟩ := ends.exists_guarded
    have same : lower = last :=
      Nat.le_antisymm (lowest lower (endsIn_of_mem_guardedRows pruned guarded)) upper
    subst same
    refine ⟨List.mem_filter.mpr ⟨guarded, decide_eq_true moved⟩, fun other member => ?_⟩
    exact lowest other (endsIn_of_mem_guardedRows pruned (List.mem_filter.mp member).1)

/-- If something ends in a row, something ends in a lowest one. -/
theorem EndsIn.exists_isLowest (pruned : s.cells.Pruned) (ends : s.EndsIn row)
    : ∃ last, s.IsLowest last ∧ row ≤ last := by
  obtain ⟨guarded, member, -⟩ := ends.exists_guarded
  have listed : guarded ∈ s.guardedRows.filter (0 ≤ ·) :=
    List.mem_filter.mpr ⟨member, decide_eq_true (Nat.zero_le _)⟩
  have found : s.lastRowFrom? 0 ≠ none := by
    rw [lastRowFrom?_eq, ne_eq, List.max?_eq_none_iff]
    exact List.ne_nil_of_mem listed
  obtain ⟨last, found⟩ := Option.ne_none_iff_exists'.mp found
  have lowest := ((lastRowFrom?_eq_some pruned).mp found).1
  exact ⟨last, lowest, lowest.lowest row ends⟩

-----------------------------------------------------------------------------------------
-- Refusals
-----------------------------------------------------------------------------------------

/-- Something that is moved would come to a row that is not below the limit. -/
def Pushes (s : Sheet) (start count limit : Nat) : Prop :=
  count ≠ 0 ∧ ∃ row, s.EndsIn row ∧ start ≤ row ∧ limit ≤ row + count

/-- Something that is moved would leave the sheet. -/
def PushesOff (s : Sheet) (start count : Nat) : Prop := s.Pushes start count maxRows

/-- Something that is moved would come to a row whose number does not fit in a word. -/
def RunsOver (s : Sheet) (start count : Nat) : Prop := s.Pushes start count rowNumberLimit

/-- The lowest row decides: if anything would pass the limit, it would. -/
theorem pushes_iff {limit : Nat} (pruned : s.cells.Pruned)
    : s.Pushes start count limit
      ↔ count ≠ 0 ∧ ∃ last, s.lastRowFrom? start = some last ∧ limit ≤ last + count := by
  refine and_congr_right fun _ => ⟨?_, ?_⟩
  · rintro ⟨row, ends, moved, beyond⟩
    obtain ⟨last, lowest, upper⟩ := ends.exists_isLowest pruned
    have found := (lastRowFrom?_eq_some pruned).mpr ⟨lowest, Nat.le_trans moved upper⟩
    exact ⟨last, found, by omega⟩
  · rintro ⟨last, found, beyond⟩
    obtain ⟨lowest, moved⟩ := (lastRowFrom?_eq_some pruned).mp found
    exact ⟨last, lowest.ends, moved, beyond⟩

/-- Rows are refused, and the caller is told, if something would leave the sheet for a row whose
number fits in a word.
-/
theorem refused_iff_pushesOff (pruned : s.cells.Pruned)
    : (∃ e, e ≠ .overflow ∧ s.insertRows start count = .error e)
      ↔ s.PushesOff start count ∧ ¬ s.RunsOver start count := by
  rw [PushesOff, RunsOver, pushes_iff pruned, pushes_iff pruned]
  simp only [insertRows_eq_error, checkLastRow_eq_error]
  constructor
  · rintro ⟨e, told, some, ⟨last, found, beyond, same⟩ | ⟨-, -, ended⟩⟩
    · split at same
      · next fits =>
          refine ⟨⟨some, last, found, beyond⟩, ?_⟩
          rintro ⟨-, other, again, long⟩
          cases found.symm.trans again
          omega
      · exact absurd same told
    · exact absurd ended told
  · rintro ⟨⟨some, last, found, beyond⟩, fits⟩
    have fits : last + count < rowNumberLimit :=
      Nat.not_le.mp fun long => fits ⟨some, last, found, long⟩
    exact ⟨.address (.rowOutOfBounds (last + count)), nofun, some,
      .inl ⟨last, found, beyond, (if_pos fits).symm⟩⟩

/-- The program ends if a row comes to a number that does not fit in a word: one that the sheet
looks at, or, where it has found nothing to refuse, one of the others that are moved.
-/
theorem overflow_iff_runsOver (pruned : s.cells.Pruned)
    : s.insertRows start count = .error .overflow
      ↔ s.RunsOver start count
        ∨ count ≠ 0 ∧ ¬ s.PushesOff start count ∧ ¬ s.RowsFit start count := by
  have limits : maxRows ≤ rowNumberLimit := by decide
  rw [PushesOff, RunsOver, pushes_iff pruned, pushes_iff pruned, insertRows_eq_error,
    checkLastRow_eq_error, checkLastRow_eq_ok]
  constructor
  · rintro ⟨some, ⟨last, found, -, same⟩ | ⟨stays, long, -⟩⟩
    · split at same
      · cases same
      · next long => exact .inl ⟨some, last, found, Nat.not_lt.mp long⟩
    · refine .inr ⟨some, ?_, long⟩
      rintro ⟨-, last, found, beyond⟩
      exact absurd (stays last found) (Nat.not_lt.mpr beyond)
  · rintro (⟨some, last, found, long⟩ | ⟨some, stays, long⟩)
    · exact ⟨some, .inl ⟨last, found, by omega, (if_neg (Nat.not_lt.mpr long)).symm⟩⟩
    · refine ⟨some, .inr ⟨fun last found => ?_, long, rfl⟩⟩
      exact Nat.not_le.mp fun beyond => stays ⟨some, last, found, beyond⟩

/-- Whatever operations have made a sheet, it refuses rows just if something would leave the sheet,
except where that would come to a row whose number does not fit in a word: there the program ends
instead. Whenever it refuses, it stays as it was.
-/
theorem insertRows_refused_iff {name : String} (run : Run (fun _ => True) { name } s)
    (start count : Nat)
    : ((∃ e, e ≠ .overflow ∧ s.insertRows start count = .error e)
        ↔ s.PushesOff start count ∧ ¬ s.RunsOver start count)
      ∧ (s.insertRows start count = .error .overflow
        ↔ s.RunsOver start count
          ∨ count ≠ 0 ∧ ¬ s.PushesOff start count ∧ ¬ s.RowsFit start count)
      ∧ ∀ e, e ≠ .overflow → s.insertRows start count = .error e
          → s.apply (.insertRows start count) = s := by
  have compact : s.cells.Compact :=
    run.preserves (motive := fun s => s.cells.Compact)
      (fun t edit _ compact => (t.apply_change edit).compact compact) Grid.Compact.empty
  refine ⟨refused_iff_pushesOff compact.pruned, overflow_iff_runsOver compact.pruned,
    fun e _ refused => ?_⟩
  rw [apply, refused]
  rfl

/-- A cell, a hidden last row and a merged range between them. -/
def loadedEdits : List Edit :=
  [.setValue 5 0 (.boolean true), .merge ⟨⟨7, 0⟩, ⟨8, 1⟩⟩, .setHidden .rows 1048575 true]

/-- Only the hidden row would leave the sheet, which is enough. -/
theorem insertRows_refused_loadedEdits
    : ∃ s, Run (fun _ => True) { name := "Full" } s
        ∧ (∃ e, e ≠ .overflow ∧ s.insertRows 6 1 = .error e)
        ∧ s.PushesOff 6 1 ∧ ¬ s.RunsOver 6 1 ∧ s.apply (.insertRows 6 1) = s := by
  have run : Run (fun _ => True) { name := "Full" } (loadedEdits.foldl apply { name := "Full" }) :=
    .of_list fun _ _ => trivial
  obtain ⟨refused, -, unchanged⟩ := insertRows_refused_iff run 6 1
  have told : (loadedEdits.foldl apply { name := "Full" }).insertRows 6 1
      = .error (.address (.rowOutOfBounds 1048576)) := by
    decide +kernel
  have other : ModelError.address (.rowOutOfBounds 1048576) ≠ .overflow := nofun
  have error : ∃ e, e ≠ ModelError.overflow
      ∧ (loadedEdits.foldl apply { name := "Full" }).insertRows 6 1 = .error e :=
    ⟨_, other, told⟩
  obtain ⟨pushed, stays⟩ := refused.mp error
  exact ⟨_, run, error, pushed, stays, unchanged _ other told⟩

/-- A sheet with one cell. -/
def singleEdit : List Edit := [.setValue 5 0 (.boolean true)]

/-- As many rows as there are row numbers, less one, should be refused, since they would push the
cell off the sheet. They end the program.
-/
theorem insertRows_runsOver
    : ∃ s, Run (fun _ => True) { name := "Single" } s
        ∧ 5 < rowNumberLimit ∧ 4294967295 < rowNumberLimit
        ∧ s.PushesOff 5 4294967295
        ∧ s.insertRows 5 4294967295 = .error .overflow := by
  have kept : (singleEdit.foldl apply { name := "Single" }).cells.entry? 5 0
      = some ⟨.boolean true, 0⟩ := by
    decide +kernel
  exact ⟨_, .of_list fun _ _ => trivial, by decide, by decide,
    ⟨by decide, 5, .cell kept, by decide, by decide⟩, by decide +kernel⟩

end Sheet

end Spreadsheet
