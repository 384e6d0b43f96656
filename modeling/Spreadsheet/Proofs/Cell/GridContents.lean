import Std.Data.ExtTreeMap.Lemmas
import Spreadsheet.Cell.Grid
import Spreadsheet.Proofs.Style.Interning

/-! What stands at each position of a grid after a cell is written or rows are moved. Grids keep
neither blank cells nor rows without cells, and cells with equal styles share one entry of the
pool; none of this is seen from outside.
-/

namespace Spreadsheet.Cell

open Spreadsheet.Style

-----------------------------------------------------------------------------------------
-- Rows after others are put in
-----------------------------------------------------------------------------------------

theorem Numbered.mem_of_getElem? {m : Numbered α} {i : Nat} {a : α} (found : m[i]? = some a)
    : i ∈ m := by
  obtain ⟨member, -⟩ := Std.ExtTreeMap.getElem?_eq_some_iff.mp found
  exact member

/-- A moved row had the number that moves to its new one. -/
theorem Numbered.exists_of_getElem?_shiftRows {m : Numbered α} {start count row : Nat} {a : α}
    (found : (m.shiftRows start count)[row]? = some a)
    : ∃ i, m[i]? = some a ∧ shiftRow start count i = row := by
  rw [shiftRows, Std.ExtTreeMap.ofList_eq_insertMany_empty,
    Std.ExtTreeMap.getElem?_insertMany_list, Std.ExtTreeMap.getElem?_empty, Option.or_none,
    List.findSomeRev?_eq_findSome?_reverse] at found
  obtain ⟨entry, member, same⟩ := List.exists_of_findSome?_eq_some found
  rw [List.mem_reverse, List.mem_map] at member
  obtain ⟨⟨i, b⟩, kept, rfl⟩ := member
  rw [Std.ExtTreeMap.mem_toList_iff_getElem?_eq_some] at kept
  simp only [Std.compare_eq_iff_eq, Option.ite_none_right_eq_some, Option.some.injEq] at same
  exact ⟨i, same.2 ▸ kept, same.1⟩

theorem Numbered.getElem?_shiftRows_of_eq_some {m : Numbered α} {row : Nat} {a : α}
    (start count : Nat) (found : m[row]? = some a)
    : (m.shiftRows start count)[shiftRow start count row]? = some a := by
  have distinct : (m.toList.map fun entry => (shiftRow start count entry.1, entry.2)).Pairwise
      fun a b => ¬ compare a.1 b.1 = .eq := by
    rw [List.pairwise_map]
    apply List.Pairwise.imp_of_mem _ m.distinct_keys_toList
    rintro ⟨i, b⟩ ⟨j, c⟩ - - different
    simp only [Nat.compare_eq_eq] at different ⊢
    simp only [shiftRow]
    split <;> split <;> omega
  apply Std.ExtTreeMap.getElem?_ofList_of_mem Std.ReflCmp.compare_self distinct
  exact List.mem_map.mpr
    ⟨(row, a), Std.ExtTreeMap.mem_toList_iff_getElem?_eq_some.mpr found, rfl⟩

/-- The rows above stay, the new rows hold nothing, and the rows below come after them. -/
theorem Numbered.getElem?_shiftRows (m : Numbered α) (start count row : Nat)
    : (m.shiftRows start count)[row]?
      = if row < start then m[row]? else if row < start + count then none else m[row - count]? := by
  apply Option.ext
  intro a
  constructor
  · intro found
    obtain ⟨i, kept, rfl⟩ := exists_of_getElem?_shiftRows found
    rw [shiftRow]
    by_cases below : start ≤ i
    · simp only [below, if_true]
      rw [if_neg (by omega), if_neg (by omega), Nat.add_sub_cancel, kept]
    · simp only [below, if_false]
      rw [if_pos (by omega), kept]
  · intro found
    by_cases above : row < start
    · rw [if_pos above] at found
      have moved := getElem?_shiftRows_of_eq_some start count found
      rwa [shiftRow, if_neg (by omega)] at moved
    · rw [if_neg above] at found
      split at found
      · cases found
      · next below =>
          have moved := getElem?_shiftRows_of_eq_some start count found
          rw [shiftRow, if_pos (by omega)] at moved
          rwa [Nat.sub_add_cancel (by omega)] at moved

-----------------------------------------------------------------------------------------
-- The cell at a position
-----------------------------------------------------------------------------------------

/-- Nothing tells a blank cell from the cell that stands for none. -/
theorem Entry.eq_of_isBlank {e : Entry} (blank : e.isBlank) : e = {} := by
  obtain ⟨value, style⟩ := e
  cases value <;> simp_all [isBlank, Value.isEmpty]

namespace Grid

/-- The cell at any position; where none is kept it is a blank one. -/
def cell (g : Grid) (row column : Nat) : Entry := (g.entry? row column).getD {}

theorem value_eq (g : Grid) (row column : Nat) : g.value row column = (g.cell row column).value :=
  rfl

theorem style_eq (g : Grid) (row column : Nat)
    : g.style row column = g.pool.get (g.cell row column).style :=
  rfl

@[simp]
theorem cell_empty (row column : Nat) : ({} : Grid).cell row column = {} := by
  simp only [cell, entry?, Grid.row, Std.ExtTreeMap.getD_empty]
  rw [Std.ExtTreeMap.getElem?_empty]
  rfl

@[simp]
theorem pool_update (g : Grid) (row column : Nat) (f : Entry → Entry)
    : (g.update row column f).pool = g.pool :=
  rfl

/-- Rows without cells read the same whether they are kept or not. -/
theorem getD_keepUnlessEmpty (rows : Numbered (Numbered α)) (row : Nat) (cells : Numbered α)
    (r : Nat)
    : (if cells.isEmpty then rows.erase row else rows.insert row cells).getD r ∅
      = if row = r then cells else rows.getD r ∅ := by
  by_cases noCells : cells.isEmpty
  · rw [if_pos noCells, Std.ExtTreeMap.getD_erase]
    rw [Std.ExtTreeMap.isEmpty_iff] at noCells
    simp [noCells]
  · rw [if_neg noCells, Std.ExtTreeMap.getD_insert]
    simp

/-- Blank cells read the same whether they are kept or not. -/
theorem getElem?_keepUnlessBlank (cells : Numbered Entry) (column : Nat) (e : Entry) (c : Nat)
    : ((if e.isBlank then cells.erase column else cells.insert column e)[c]?).getD {}
      = if column = c then e else (cells[c]?).getD {} := by
  by_cases blank : e.isBlank
  · rw [if_pos blank, Std.ExtTreeMap.getElem?_erase, Entry.eq_of_isBlank blank]
    by_cases here : column = c <;> simp [here]
  · rw [if_neg blank, Std.ExtTreeMap.getElem?_insert]
    by_cases here : column = c <;> simp [here]

/-- Changing a cell changes it and no other. -/
theorem cell_update (g : Grid) (row column : Nat) (f : Entry → Entry) (r c : Nat)
    : (g.update row column f).cell r c
      = if row = r ∧ column = c then f (g.cell row column) else g.cell r c := by
  have old : (g.row row).getD column {} = g.cell row column :=
    Std.ExtTreeMap.getD_eq_getD_getElem?
  have cells : (g.update row column f).row r = _ :=
    getD_keepUnlessEmpty g.rows row
      (if (f ((g.row row).getD column {})).isBlank then (g.row row).erase column
        else (g.row row).insert column (f ((g.row row).getD column {}))) r
  rw [cell, entry?, cells, old]
  by_cases sameRow : row = r
  · subst sameRow
    simp only [if_true, true_and]
    exact getElem?_keepUnlessBlank (g.row row) column (f (g.cell row column)) c
  · simp only [sameRow, if_false, false_and]
    rfl

/-- A change to one row keeps that row and rows kept before. -/
theorem getElem?_keepUnlessEmpty {rows : Numbered (Numbered α)} {row : Nat}
    {cells : Numbered α} {r : Nat} {cells' : Numbered α}
    (kept : (if cells.isEmpty then rows.erase row else rows.insert row cells)[r]? = some cells')
    : (row = r ∧ cells = cells') ∨ rows[r]? = some cells' := by
  split at kept
  · rw [Std.ExtTreeMap.getElem?_erase] at kept
    split at kept
    · cases kept
    · exact Or.inr kept
  · rw [Std.ExtTreeMap.getElem?_insert] at kept
    split at kept
    · next here =>
        cases kept
        exact Or.inl ⟨Std.compare_eq_iff_eq.mp here, rfl⟩
    · exact Or.inr kept

/-- The cells above stay, the new rows are blank, and the cells below come after them. -/
theorem cell_shiftRows (g : Grid) (start count row column : Nat)
    : (g.shiftRows start count).cell row column
      = if row < start then g.cell row column
        else if row < start + count then {}
        else g.cell (row - count) column := by
  simp only [cell, entry?, Grid.row, shiftRows, Std.ExtTreeMap.getD_eq_getD_getElem?,
    Numbered.getElem?_shiftRows]
  split
  · rfl
  · split
    · rfl
    · rfl

-----------------------------------------------------------------------------------------
-- Values and styles after writing
-----------------------------------------------------------------------------------------

/-- The pool starts with the default style and knows the style of every cell. -/
structure Sound (g : Grid) : Prop where
  default : g.pool.get 0 = {}
  positive : 0 < g.pool.size
  known : ∀ row column, (g.cell row column).style < g.pool.size

theorem Sound.empty : ({} : Grid).Sound where
  default := rfl
  positive := by decide
  known row column := by rw [cell_empty]; decide

/-- Where nothing is kept a sound grid shows nothing. -/
theorem Sound.style_empty {g : Grid} (sound : g.Sound) {row column : Nat}
    (blank : g.cell row column = {})
    : g.style row column = {} := by
  rw [style_eq, blank]
  exact sound.default

@[simp]
theorem value_empty (row column : Nat) : ({} : Grid).value row column = .empty := by
  simp [value_eq]

@[simp]
theorem style_empty (row column : Nat) : ({} : Grid).style row column = {} :=
  Sound.empty.style_empty (cell_empty row column)

theorem value_setValue (g : Grid) (row column : Nat) (v : Value) (r c : Nat)
    : (g.setValue row column v).value r c
      = if row = r ∧ column = c then v else g.value r c := by
  simp only [value_eq, setValue, cell_update]
  split <;> rfl

@[simp]
theorem style_setValue (g : Grid) (row column : Nat) (v : Value) (r c : Nat)
    : (g.setValue row column v).style r c = g.style r c := by
  simp only [style_eq, setValue, pool_update, cell_update]
  split
  · next here => rw [← here.1, ← here.2]
  · rfl

theorem Sound.setValue {g : Grid} (sound : g.Sound) (row column : Nat) (v : Value)
    : (g.setValue row column v).Sound where
  default := sound.default
  positive := sound.positive
  known r c := by
    simp only [Grid.setValue, pool_update, cell_update]
    split
    · exact sound.known row column
    · exact sound.known r c

@[simp]
theorem value_setStyle (g : Grid) (row column : Nat) (style : Style) (r c : Nat)
    : (g.setStyle row column style).value r c = g.value r c := by
  have cells (pool : Pool) : ({ g with pool } : Grid).cell = g.cell := rfl
  simp only [value_eq, setStyle, cell_update, cells]
  split
  · next here => rw [← here.1, ← here.2]
  · rfl

/-- A cell gets the style it is given; all others keep theirs, although the pool may grow. -/
theorem Sound.style_setStyle {g : Grid} (sound : g.Sound) (row column : Nat) (style : Style)
    (r c : Nat)
    : (g.setStyle row column style).style r c
      = if row = r ∧ column = c then style else g.style r c := by
  have cells (pool : Pool) : ({ g with pool } : Grid).cell = g.cell := rfl
  simp only [style_eq, setStyle, pool_update, cell_update, cells]
  split
  · exact Pool.get_insert g.pool style
  · exact Pool.get_insert_of_lt style (sound.known r c)

theorem Sound.setStyle {g : Grid} (sound : g.Sound) (row column : Nat) (style : Style)
    : (g.setStyle row column style).Sound where
  default := (Pool.get_insert_of_lt style sound.positive).trans sound.default
  positive := Nat.lt_of_lt_of_le sound.positive (Pool.size_le_size_insert g.pool style)
  known r c := by
    have cells (pool : Pool) : ({ g with pool } : Grid).cell = g.cell := rfl
    simp only [Grid.setStyle, pool_update, cell_update, cells]
    split
    · exact Pool.insert_lt_size g.pool style
    · exact Nat.lt_of_lt_of_le (sound.known r c) (Pool.size_le_size_insert g.pool style)

/-- Moving rows adds no cell. -/
theorem exists_cell_of_shiftRows (g : Grid) (start count row column : Nat)
    : (g.shiftRows start count).cell row column = {}
      ∨ ∃ r, (g.shiftRows start count).cell row column = g.cell r column := by
  cases moved : (g.rows.shiftRows start count)[row]? with
  | none =>
      left
      simp [cell, entry?, Grid.row, shiftRows, Std.ExtTreeMap.getD_eq_getD_getElem?, moved]
  | some cells =>
      obtain ⟨r, kept, -⟩ := Numbered.exists_of_getElem?_shiftRows moved
      right
      refine ⟨r, ?_⟩
      simp [cell, entry?, Grid.row, shiftRows, Std.ExtTreeMap.getD_eq_getD_getElem?, moved, kept]

theorem Sound.shiftRows {g : Grid} (sound : g.Sound) (start count : Nat)
    : (g.shiftRows start count).Sound where
  default := sound.default
  positive := sound.positive
  known row column := by
    obtain blank | ⟨r, same⟩ := g.exists_cell_of_shiftRows start count row column
    · rw [blank]
      exact sound.positive
    · rw [same]
      exact sound.known r column

end Grid

end Spreadsheet.Cell
