import Spreadsheet.Proofs.Cell.GridContents

/-! What grids keep and list. A pruned grid keeps no more than it has to: neither blank cells nor
rows without cells. It lists its kept cells in their order, how many they are, and the last row and
column with one.
-/

namespace Spreadsheet.Cell

-----------------------------------------------------------------------------------------
-- Pruned grids
-----------------------------------------------------------------------------------------

namespace Grid

/-- Each row that is kept has cells, and no kept cell is blank. -/
structure Pruned (g : Grid) : Prop where
  filled : ∀ (row : Nat) (cells : Numbered Entry), g.rows[row]? = some cells → cells ≠ ∅
  visible : ∀ (row : Nat) (cells : Numbered Entry), g.rows[row]? = some cells
    → ∀ (column : Nat) (e : Entry), cells[column]? = some e → e.isBlank = false

theorem Pruned.empty : ({} : Grid).Pruned where
  filled row cells kept := by
    rw [Std.ExtTreeMap.getElem?_empty] at kept
    cases kept
  visible row cells kept := by
    rw [Std.ExtTreeMap.getElem?_empty] at kept
    cases kept

/-- A cell is kept in its row. -/
theorem entry?_eq_some {g : Grid} {row column : Nat} {e : Entry}
    : g.entry? row column = some e
      ↔ ∃ cells : Numbered Entry, g.rows[row]? = some cells ∧ cells[column]? = some e := by
  rw [Grid.entry?, Grid.row, Std.ExtTreeMap.getD_eq_getD_getElem?]
  cases found : g.rows[row]? with
  | none => simp
  | some cells => simp

/-- A cell that is kept is not blank. -/
theorem Pruned.entry_visible {g : Grid} (pruned : g.Pruned) {row column : Nat} {e : Entry}
    (kept : g.entry? row column = some e)
    : e.isBlank = false := by
  obtain ⟨cells, found, kept⟩ := entry?_eq_some.mp kept
  exact pruned.visible row cells found column e kept

/-- A row that is changed is not kept without cells. -/
theorem ne_empty_of_keepUnlessEmpty {rows : Numbered (Numbered α)} {row r : Nat}
    {cells cells' : Numbered α}
    (kept : (if cells.isEmpty then rows.erase row else rows.insert row cells)[r]? = some cells')
    (others : rows[r]? = some cells' → cells' ≠ ∅)
    : cells' ≠ ∅ := by
  split at kept
  · rw [Std.ExtTreeMap.getElem?_erase] at kept
    split at kept
    · cases kept
    · exact others kept
  · next filled =>
      rw [Std.ExtTreeMap.getElem?_insert] at kept
      split at kept
      · cases kept
        rwa [Std.ExtTreeMap.isEmpty_iff] at filled
      · exact others kept

/-- A cell that is written is kept only if it is not blank, and its row only if that has cells. -/
theorem Pruned.update {g : Grid} (pruned : g.Pruned) (row column : Nat) (f : Entry → Entry)
    : (g.update row column f).Pruned where
  filled r cells kept := ne_empty_of_keepUnlessEmpty kept (pruned.filled r cells)
  visible r cells kept c e found := by
    have read := getElem?_keepUnlessEmpty kept
    rcases read with ⟨-, rfl⟩ | kept
    · split at found
      · rw [Std.ExtTreeMap.getElem?_erase] at found
        split at found
        · cases found
        · exact pruned.entry_visible found
      · next visible =>
          rw [Std.ExtTreeMap.getElem?_insert] at found
          split at found
          · cases found
            exact Bool.not_eq_true _ ▸ visible
          · exact pruned.entry_visible found
    · exact pruned.visible r cells kept c e found

theorem Pruned.setValue {g : Grid} (pruned : g.Pruned) (row column : Nat) (v : Value)
    : (g.setValue row column v).Pruned :=
  pruned.update row column _

theorem Pruned.setStyle {g : Grid} (pruned : g.Pruned) (row column : Nat) (style : Style)
    : (g.setStyle row column style).Pruned :=
  Pruned.update (g := { g with pool := (g.pool.insert style).2 }) ⟨pruned.filled, pruned.visible⟩
    row column fun e => { e with style := (g.pool.insert style).1 }

/-- Rows are moved with their cells. -/
theorem Pruned.shiftRows {g : Grid} (pruned : g.Pruned) (start count : Nat)
    : (g.shiftRows start count).Pruned where
  filled row cells kept := by
    obtain ⟨r, before, -⟩ := Numbered.exists_of_getElem?_shiftRows kept
    exact pruned.filled r cells before
  visible row cells kept := by
    obtain ⟨r, before, -⟩ := Numbered.exists_of_getElem?_shiftRows kept
    exact pruned.visible r cells before

end Grid

end Spreadsheet.Cell

namespace Spreadsheet

-----------------------------------------------------------------------------------------
-- Last numbers
-----------------------------------------------------------------------------------------

/-- No number comes after the last one. -/
theorem Cell.Numbered.exists_lastKey? {m : Numbered α} {i : Nat} (member : i ∈ m)
    : ∃ last, m.lastKey? = some last ∧ i ≤ last := by
  have listed : i ∈ m.keys := Std.ExtTreeMap.mem_keys.mpr member
  cases found : m.lastKey? with
  | none =>
      rw [List.getLast?_eq_none_iff.mp found] at listed
      cases listed
  | some last =>
      obtain ⟨front, split⟩ := List.getLast?_eq_some_iff.mp found
      have order := m.ordered_keys
      rw [split, List.pairwise_append] at order
      rw [split] at listed
      refine ⟨last, rfl, ?_⟩
      rcases List.mem_append.mp listed with before | here
      · exact Nat.le_of_lt (Nat.compare_eq_lt.mp (order.2.2 i before last (by simp)))
      · exact Nat.le_of_eq (List.mem_singleton.mp here)

/-- There is something under the last number. -/
theorem Cell.Numbered.exists_of_lastKey? {m : Numbered α} {last : Nat}
    (found : m.lastKey? = some last)
    : ∃ a, m[last]? = some a :=
  ⟨_, Std.ExtTreeMap.getElem?_eq_some_getElem
    (Std.ExtTreeMap.mem_keys.mp (List.mem_of_getLast? found))⟩

-----------------------------------------------------------------------------------------
-- Kept cells
-----------------------------------------------------------------------------------------

/-- A cell is listed with its position if it is kept there. -/
theorem Cell.Grid.mem_entries_iff {g : Cell.Grid} {a : Cell.Address} {e : Cell.Entry}
    : (a, e) ∈ g.entries ↔ g.entry? a.row a.column = some e := by
  rw [entries, List.mem_flatMap, entry?_eq_some]
  constructor
  · rintro ⟨⟨row, cells⟩, kept, member⟩
    obtain ⟨⟨column, entry⟩, found, same⟩ := List.mem_map.mp member
    cases same
    rw [Std.ExtTreeMap.mem_toList_iff_getElem?_eq_some] at kept found
    exact ⟨cells, kept, found⟩
  · rintro ⟨cells, kept, found⟩
    exact ⟨(a.row, cells), Std.ExtTreeMap.mem_toList_iff_getElem?_eq_some.mpr kept,
      List.mem_map.mpr
        ⟨(a.column, e), Std.ExtTreeMap.mem_toList_iff_getElem?_eq_some.mpr found, rfl⟩⟩

namespace Cell

/-- The position comes first if cells are gone through row by row. -/
def Address.Before (a b : Address) : Prop := a.row < b.row ∨ a.row = b.row ∧ a.column < b.column

namespace Grid

variable {g : Grid} {row column : Nat} {e : Entry}

/-- Cells are listed row by row and each row from left to right. -/
theorem entries_pairwise (g : Grid) : g.entries.Pairwise fun a b => a.1.Before b.1 := by
  rw [entries, List.pairwise_flatMap]
  constructor
  · rintro ⟨row, cells⟩ -
    rw [List.pairwise_map]
    exact cells.ordered_keys_toList.imp fun order => .inr ⟨rfl, Nat.compare_eq_lt.mp order⟩
  · refine g.rows.ordered_keys_toList.imp fun order a member b member' => ?_
    obtain ⟨_, -, rfl⟩ := List.mem_map.mp member
    obtain ⟨_, -, rfl⟩ := List.mem_map.mp member'
    exact .inl (Nat.compare_eq_lt.mp order)

/-- The number of kept cells is that of the cells that are listed. -/
theorem size_eq (g : Grid) : g.size = g.entries.length := by
  have counted (rows : List (Nat × Numbered Entry)) (n : Nat)
      : rows.foldl (fun n row => n + row.2.size) n = n + (rows.map (·.2.size)).sum := by
    induction rows generalizing n with
    | nil => rfl
    | cons row rest ih =>
        rw [List.foldl_cons, ih, List.map_cons, List.sum_cons, Nat.add_assoc]
  rw [size, counted, Nat.zero_add, entries, List.length_flatMap]
  refine congrArg List.sum (List.map_congr_left fun row _ => ?_)
  rw [List.length_map, Std.ExtTreeMap.length_toList]

/-- A row is kept if it has a kept cell. -/
theorem Pruned.mem_rows_iff (pruned : g.Pruned)
    : row ∈ g.rows ↔ ∃ column e, g.entry? row column = some e := by
  constructor
  · intro member
    obtain ⟨cells, kept⟩ : ∃ cells, g.rows[row]? = some cells :=
      ⟨_, Std.ExtTreeMap.getElem?_eq_some_getElem member⟩
    have filled := pruned.filled row cells kept
    cases listed : cells.toList with
    | nil => exact absurd (Std.ExtTreeMap.toList_eq_nil_iff.mp listed) filled
    | cons cell rest =>
        have found := Std.ExtTreeMap.mem_toList_iff_getElem?_eq_some.mp
          (listed ▸ List.mem_cons_self : cell ∈ _)
        exact ⟨cell.1, cell.2, entry?_eq_some.mpr ⟨cells, kept, found⟩⟩
  · rintro ⟨column, e, kept⟩
    obtain ⟨cells, found, -⟩ := entry?_eq_some.mp kept
    exact Numbered.mem_of_getElem? found

/-- No kept cell is below the last row. -/
theorem exists_lastRow? (kept : g.entry? row column = some e)
    : ∃ last, g.lastRow? = some last ∧ row ≤ last := by
  obtain ⟨cells, found, -⟩ := entry?_eq_some.mp kept
  exact Numbered.exists_lastKey? (Numbered.mem_of_getElem? found)

theorem Pruned.exists_of_lastRow? (pruned : g.Pruned) {last : Nat} (found : g.lastRow? = some last)
    : ∃ column e, g.entry? last column = some e := by
  obtain ⟨cells, kept⟩ := Numbered.exists_of_lastKey? found
  exact pruned.mem_rows_iff.mp (Numbered.mem_of_getElem? kept)

/-- No kept cell is to the right of the last column. -/
theorem exists_lastColumn? (kept : g.entry? row column = some e)
    : ∃ last, g.lastColumn? = some last ∧ column ≤ last := by
  obtain ⟨cells, found, kept⟩ := entry?_eq_some.mp kept
  obtain ⟨last, ends, upper⟩ := Numbered.exists_lastKey? (Numbered.mem_of_getElem? kept)
  have listed : last ∈ g.rows.toList.filterMap fun row => Numbered.lastKey? row.2 :=
    List.mem_filterMap.mpr
      ⟨(row, cells), Std.ExtTreeMap.mem_toList_iff_getElem?_eq_some.mpr found, ends⟩
  cases greatest : g.lastColumn? with
  | none =>
      rw [List.max?_eq_none_iff.mp greatest] at listed
      cases listed
  | some most =>
      exact ⟨most, rfl, Nat.le_trans upper ((List.max?_eq_some_iff.mp greatest).2 last listed)⟩

theorem exists_of_lastColumn? {last : Nat} (found : g.lastColumn? = some last)
    : ∃ row e, g.entry? row last = some e := by
  obtain ⟨⟨row, cells⟩, member, ends⟩ :=
    List.mem_filterMap.mp (List.max?_eq_some_iff.mp found).1
  obtain ⟨e, kept⟩ := Numbered.exists_of_lastKey? ends
  have found := Std.ExtTreeMap.mem_toList_iff_getElem?_eq_some.mp member
  exact ⟨row, e, entry?_eq_some.mpr ⟨cells, found, kept⟩⟩

end Grid

end Cell

end Spreadsheet
