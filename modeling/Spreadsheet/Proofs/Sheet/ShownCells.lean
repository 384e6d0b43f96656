import Spreadsheet.Proofs.Package.StyleNumbers
import Spreadsheet.Proofs.Sheet.CellMaps

/-! What can be seen of the kept cells of a grid: their values and styles, whatever the numbers of
the styles. Compact grids that look the same at every position list the same cells, although their
pools may hold different styles in different orders.
-/

namespace Spreadsheet

open Spreadsheet.Cell Spreadsheet.Style

namespace Cell.Grid

variable {g g' : Grid} {row column : Nat}

-----------------------------------------------------------------------------------------
-- Changes of grids
-----------------------------------------------------------------------------------------

/-- What operations do to a grid. -/
inductive Change (g : Grid) : Grid → Prop where
  | nothing : Change g g
  | value (row column : Nat) (value : Value) : Change g (g.setValue row column value)
  | style (row column : Nat) (style : Style) : Change g (g.setStyle row column style)
  | shift (start count : Nat) : Change g (g.shiftRows start count)

/-- Changes leave a grid compact, wherever rows are moved. -/
theorem Change.compact (change : g.Change g') (compact : g.Compact) : g'.Compact := by
  obtain ⟨pruned, sound, lawful⟩ := compact
  cases change with
  | nothing => exact ⟨pruned, sound, lawful⟩
  | value row column value =>
      exact ⟨pruned.setValue row column value, sound.setValue row column value, lawful⟩
  | style row column style =>
      exact ⟨pruned.setStyle row column style, sound.setStyle row column style,
        lawful.insert style⟩
  | shift start count =>
      exact ⟨pruned.shiftRows start count, sound.shiftRows start count, lawful⟩

-----------------------------------------------------------------------------------------
-- Shown cells
-----------------------------------------------------------------------------------------

/-- The value and the style of a kept cell. -/
def look (g : Grid) (e : Entry) : Value × Style := (e.value, g.pool.get e.style)

/-- The kept cells row by row, with their values and styles. -/
def shown (g : Grid) : Numbered (Numbered (Value × Style)) :=
  g.rows.map fun _ cells => cells.map fun _ e => g.look e

/-- The kept cells of a row, with their values and styles. -/
theorem getD_shown (g : Grid) (row : Nat)
    : g.shown.getD row ∅ = (g.row row).map fun _ e => g.look e := by
  rw [Grid.row, shown, Std.ExtTreeMap.getD_eq_getD_getElem?, Std.ExtTreeMap.getD_eq_getD_getElem?,
    Std.ExtTreeMap.getElem?_map]
  cases g.rows[row]? with
  | none =>
      apply Std.ExtTreeMap.ext_getElem?
      intro column
      simp
  | some cells => rfl

/-- What is shown is everything that there is, and elsewhere there is nothing. -/
theorem Sound.contents_eq (sound : g.Sound) (row column : Nat)
    : g.contents row column = (g.shown.getD row ∅).getD column (.empty, {}) := by
  rw [getD_shown, Std.ExtTreeMap.getD_eq_getD_getElem?, Std.ExtTreeMap.getElem?_map]
  cases found : (g.row row)[column]? with
  | some e => exact contents_of_kept found
  | none =>
      have nothing : g.cell row column = {} := by rw [cell, entry?, found, Option.getD_none]
      rw [contents, value_eq, nothing, sound.style_empty nothing]
      rfl

/-- What is kept at a position shows what is there, if there is something. -/
theorem Compact.map_look_entry? (compact : g.Compact) (row column : Nat)
    : (g.entry? row column).map g.look
      = if g.contents.Filled row column then some (g.contents row column) else none := by
  cases found : g.entry? row column with
  | some e =>
      rw [if_pos (compact.filled_iff.mpr ⟨e, found⟩), contents_of_kept found]
      rfl
  | none =>
      refine (if_neg fun filled => ?_).symm
      obtain ⟨e, kept⟩ := compact.filled_iff.mp filled
      rw [found] at kept
      cases kept

/-- Compact grids that look the same at every position keep the same cells. -/
theorem Compact.shown_eq (compact : g.Compact) (compact' : g'.Compact)
    (same : g.contents = g'.contents)
    : g.shown = g'.shown := by
  have rows (row : Nat) : row ∈ g.rows ↔ row ∈ g'.rows := by
    rw [compact.mem_rows_iff, compact'.mem_rows_iff, same]
  have entries (row column : Nat)
      : (g.entry? row column).map g.look = (g'.entry? row column).map g'.look := by
    rw [compact.map_look_entry?, compact'.map_look_entry?, same]
  apply Std.ExtTreeMap.ext_getElem?
  intro row
  rw [shown, shown, Std.ExtTreeMap.getElem?_map, Std.ExtTreeMap.getElem?_map]
  by_cases kept : row ∈ g.rows
  · have kept' := (rows row).mp kept
    rw [Std.ExtTreeMap.getElem?_eq_some_getElem kept, Std.ExtTreeMap.getElem?_eq_some_getElem kept',
      Option.map_some, Option.map_some, Option.some_inj]
    apply Std.ExtTreeMap.ext_getElem?
    intro column
    have here := entries row column
    unfold entry? Grid.row at here
    rw [Std.ExtTreeMap.getD_eq_getD_getElem?, Std.ExtTreeMap.getD_eq_getD_getElem?,
      Std.ExtTreeMap.getElem?_eq_some_getElem kept, Std.ExtTreeMap.getElem?_eq_some_getElem kept',
      Option.getD_some, Option.getD_some] at here
    rw [Std.ExtTreeMap.getElem?_map, Std.ExtTreeMap.getElem?_map, here]
  · have kept' := fun kept' => kept ((rows row).mpr kept')
    rw [Std.ExtTreeMap.getElem?_eq_none kept, Std.ExtTreeMap.getElem?_eq_none kept',
      Option.map_none, Option.map_none]

/-- Compact grids look the same if they keep the same cells, and only then. -/
theorem Compact.shown_eq_iff (compact : g.Compact) (compact' : g'.Compact)
    : g.shown = g'.shown ↔ ∀ row column,
        g.value row column = g'.value row column ∧ g.style row column = g'.style row column := by
  constructor
  · intro same row column
    have here : g.contents row column = g'.contents row column := by
      rw [compact.sound.contents_eq, compact'.sound.contents_eq, same]
    exact Prod.mk.injEq .. ▸ here
  · intro same
    refine compact.shown_eq compact' ?_
    funext row column
    exact congrArg₂ Prod.mk (same row column).1 (same row column).2

-----------------------------------------------------------------------------------------
-- What is told by them
-----------------------------------------------------------------------------------------

theorem keys_rows_eq (g : Grid) : g.rows.keys = g.shown.keys := Std.ExtTreeMap.keys_map.symm

theorem map_row_toList (g : Grid) (row : Nat)
    : (g.row row).toList.map (fun cell => (cell.1, g.look cell.2))
      = (g.shown.getD row ∅).toList := by
  rw [getD_shown, Std.ExtTreeMap.toList_map]

theorem lastRow?_eq (g : Grid) : g.lastRow? = Numbered.lastKey? g.shown := by
  rw [lastRow?, Numbered.lastKey?, keys_rows_eq]
  rfl

theorem lastColumn?_eq (g : Grid)
    : g.lastColumn?
      = (g.shown.toList.filterMap fun row => Numbered.lastKey? row.2).max? := by
  rw [lastColumn?, shown, Std.ExtTreeMap.toList_map, List.filterMap_map]
  refine congrArg List.max? (List.filterMap_congr fun row _ => ?_)
  exact (congrArg List.getLast? Std.ExtTreeMap.keys_map).symm

/-- Every position has the default style or that of a kept cell. -/
theorem Sound.style_cases (sound : g.Sound) (row column : Nat)
    : g.style row column = {} ∨ g.style row column ∈ g.cellStyles := by
  cases found : g.entry? row column with
  | none =>
      have nothing : g.cell row column = {} := by rw [cell, found, Option.getD_none]
      exact .inl (sound.style_empty nothing)
  | some e =>
      have listed : (⟨row, column⟩, e) ∈ g.entries := mem_entries_iff.mpr found
      rw [style, found]
      exact .inr (List.mem_map_of_mem listed)

/-- The styles of kept cells, row by row, are those that are shown. -/
theorem cellStyles_eq (g : Grid)
    : g.cellStyles = g.shown.toList.flatMap fun row => row.2.toList.map (·.2.2) := by
  rw [cellStyles, entries, List.map_flatMap, shown, Std.ExtTreeMap.toList_map, List.flatMap_map]
  refine List.flatMap_congr fun row _ => ?_
  rw [List.map_map, Std.ExtTreeMap.toList_map, List.map_map]
  rfl

end Cell.Grid

end Spreadsheet
