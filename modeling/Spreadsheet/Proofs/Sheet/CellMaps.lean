import Spreadsheet.Proofs.Cell.GridListing
import Spreadsheet.Proofs.Sheet.Bounds
import Spreadsheet.Proofs.Sheet.RowInsertion

/-! Grids as plain maps from positions to values and styles. A grid keeps only the cells in which
there is something, and numbers for their styles; seen from outside it is the map.
-/

namespace Spreadsheet.Cell

open Spreadsheet.Style

-----------------------------------------------------------------------------------------
-- Maps
-----------------------------------------------------------------------------------------

/-- A value and a style at each position. -/
abbrev CellMap := Nat → Nat → Value × Style

/-- An operation on cells. -/
inductive CellEdit where
  | setValue (row column : Nat) (value : Value)
  | setFormula (row column : Nat) (text : String)
  | setStyle (row column : Nat) (style : Style)
  | updateStyle (row column : Nat) (change : Style → Style)
  | insertRows (start count : Nat)

/-- The number of rows that an operation puts in. -/
def CellEdit.rows : CellEdit → Nat
  | .insertRows _ count => count
  | .setValue .. | .setFormula .. | .setStyle .. | .updateStyle .. => 0

namespace CellMap

/-- No values and the default style everywhere. -/
def blank : CellMap := fun _ _ => (.empty, {})

/-- There is something at the position. -/
def Filled (m : CellMap) (row column : Nat) : Prop := m row column ≠ (.empty, {})

instance (m : CellMap) (row column : Nat) : Decidable (m.Filled row column) :=
  inferInstanceAs (Decidable (_ ≠ _))

/-- The operation is about a position of a sheet, or takes nothing off it. -/
def Accepts (m : CellMap) : CellEdit → Prop
  | .setValue row column _ | .setFormula row column _ | .setStyle row column _
  | .updateStyle row column _ => row < maxRows ∧ column < maxColumns
  | .insertRows start count =>
    ∀ row < maxRows, ∀ column < maxColumns, start ≤ row → m.Filled row column
      → row + count < maxRows

instance (m : CellMap) (e : CellEdit) : Decidable (m.Accepts e) :=
  match e with
  | .setValue .. | .setFormula .. | .setStyle .. | .updateStyle .. =>
    inferInstanceAs (Decidable (_ ∧ _))
  | .insertRows start count =>
    inferInstanceAs (Decidable (∀ row < maxRows, ∀ column < maxColumns, start ≤ row
      → m.Filled row column → row + count < maxRows))

/-- The map with another cell at a position. -/
def put (m : CellMap) (row column : Nat) (cell : Value × Style) : CellMap :=
  fun r c => if row = r ∧ column = c then cell else m r c

/-- What an operation makes of the map: it changes one cell, or moves rows down. -/
def after (m : CellMap) : CellEdit → CellMap
  | .setValue row column value => m.put row column (value, (m row column).2)
  | .setFormula row column text => m.put row column (.ofFormula text, (m row column).2)
  | .setStyle row column style => m.put row column ((m row column).1, style)
  | .updateStyle row column change =>
    m.put row column ((m row column).1, change (m row column).2)
  | .insertRows start count => fun row column =>
    if row < start then m row column
    else if row < start + count then (.empty, {})
    else m (row - count) column

/-- An operation that is not accepted changes nothing. -/
def apply (m : CellMap) (e : CellEdit) : CellMap := if m.Accepts e then m.after e else m

/-- The map that operations make of a blank one. -/
def ofEdits (edits : List CellEdit) : CellMap := edits.foldl apply blank

/-- The style that an operation gives a cell, if it is about a position of a sheet. -/
def given (m : CellMap) : CellEdit → Option Style
  | .setStyle row column style =>
    if row < maxRows ∧ column < maxColumns then some style else none
  | .updateStyle row column change =>
    if row < maxRows ∧ column < maxColumns then some (change (m row column).2) else none
  | .setValue .. | .setFormula .. | .insertRows .. => none

/-- The styles that operations give cells, one operation after the other. -/
def stylesGiven : CellMap → List CellEdit → List Style
  | _, [] => []
  | m, e :: rest => (m.given e).toList ++ stylesGiven (m.apply e) rest

/-- The range is the least one from the first cell on that covers everything, and there is
something.
-/
structure LeastRange (m : CellMap) (range : Range) : Prop where
  start : range.topLeft = ⟨0, 0⟩
  filled : ∃ row column, m.Filled row column
  covers : ∀ row column, m.Filled row column
    → row ≤ range.bottomRight.row ∧ column ≤ range.bottomRight.column
  least : ∀ corner : Address,
    (∀ row column, m.Filled row column → row ≤ corner.row ∧ column ≤ corner.column)
      → range.bottomRight.row ≤ corner.row ∧ range.bottomRight.column ≤ corner.column

end CellMap

-----------------------------------------------------------------------------------------
-- Grids
-----------------------------------------------------------------------------------------

namespace Grid

/-- The map that the grid is seen as. -/
def contents (g : Grid) : CellMap := fun row column => (g.value row column, g.style row column)

/-- The grid after an operation that is carried out. -/
def after (g : Grid) : CellEdit → Grid
  | .setValue row column value => g.setValue row column value
  | .setFormula row column text => g.setValue row column (.ofFormula text)
  | .setStyle row column style => g.setStyle row column style
  | .updateStyle row column change => g.setStyle row column (change (g.style row column))
  | .insertRows start count => g.shiftRows start count

/-- The grid after an operation; one that is not accepted changes nothing. -/
def apply (g : Grid) (e : CellEdit) : Grid := if g.contents.Accepts e then g.after e else g

/-- The grid keeps no more than it has to, and has a pool that knows the styles of its cells, the
default style under no number but zero.
-/
structure Compact (g : Grid) : Prop where
  pruned : g.Pruned
  sound : g.Sound
  lawful : g.pool.Lawful

theorem Compact.empty : ({} : Grid).Compact := ⟨.empty, .empty, .empty⟩

/-- The grid is within the limits of a sheet, keeps no more than it has to, and has a pool that
knows the styles of its cells, each under one number.
-/
structure Kept (g : Grid) : Prop where
  inside : g.InBounds
  pruned : g.Pruned
  sound : g.Sound
  lawful : g.pool.Lawful

theorem Kept.empty : ({} : Grid).Kept := ⟨.empty, .empty, .empty, .empty⟩

theorem Kept.compact {g : Grid} (kept : g.Kept) : g.Compact :=
  ⟨kept.pruned, kept.sound, kept.lawful⟩

variable {g : Grid} {row column : Nat}

theorem contents_empty : ({} : Grid).contents = CellMap.blank := by
  funext row column
  exact congrArg₂ Prod.mk (value_empty row column) (style_empty row column)

-----------------------------------------------------------------------------------------
-- What is kept
-----------------------------------------------------------------------------------------

/-- A cell shows what stands at its position. -/
theorem contents_of_kept {e : Entry} (kept : g.entry? row column = some e)
    : g.contents row column = (e.value, g.pool.get e.style) := by
  rw [contents, value, style, kept]
  rfl

/-- A cell is kept just where there is something. -/
theorem Compact.filled_iff (compact : g.Compact)
    : g.contents.Filled row column ↔ ∃ e, g.entry? row column = some e := by
  constructor
  · intro filled
    cases found : g.entry? row column with
    | some e => exact ⟨e, rfl⟩
    | none =>
        have nothing : g.cell row column = {} := by rw [cell, found, Option.getD_none]
        refine absurd ?_ filled
        rw [contents, value_eq, nothing, compact.sound.style_empty nothing]
  · rintro ⟨e, found⟩ blank
    have known : e.style < g.pool.size := by
      have known := compact.sound.known row column
      rwa [cell, found, Option.getD_some] at known
    have visible := compact.pruned.entry_visible found
    rw [contents_of_kept found, Prod.mk.injEq] at blank
    -- an empty value and the default style, which has no number but zero
    have listed := Pool.getElem?_eq_some_get known
    rw [blank.2] at listed
    have zero := compact.lawful.only e.style listed
    rw [Entry.isBlank, blank.1, zero] at visible
    exact absurd visible (by decide)

theorem Kept.filled_iff (kept : g.Kept)
    : g.contents.Filled row column ↔ ∃ e, g.entry? row column = some e :=
  kept.compact.filled_iff

/-- A row is kept if there is something in it. -/
theorem Compact.mem_rows_iff (compact : g.Compact)
    : row ∈ g.rows ↔ ∃ column, g.contents.Filled row column := by
  rw [compact.pruned.mem_rows_iff]
  exact exists_congr fun column => compact.filled_iff.symm

theorem Kept.mem_rows_iff (kept : g.Kept)
    : row ∈ g.rows ↔ ∃ column, g.contents.Filled row column :=
  kept.compact.mem_rows_iff

/-- Something can only be where a sheet has a position. -/
theorem Kept.lt_of_filled (kept : g.Kept) (filled : g.contents.Filled row column)
    : row < maxRows ∧ column < maxColumns := by
  obtain ⟨e, found⟩ := kept.filled_iff.mp filled
  obtain ⟨cells, listed, inRow⟩ := entry?_eq_some.mp found
  obtain ⟨above, left⟩ := kept.inside row cells listed
  exact ⟨above, left column (Numbered.mem_of_getElem? inRow)⟩

-----------------------------------------------------------------------------------------
-- Single operations
-----------------------------------------------------------------------------------------

variable {e : CellEdit}

theorem contents_setValue (g : Grid) (row column : Nat) (v : Value)
    : (g.setValue row column v).contents
      = g.contents.put row column (v, (g.contents row column).2) := by
  funext r c
  simp only [contents, CellMap.put, value_setValue, style_setValue]
  split
  · next here =>
      obtain ⟨rfl, rfl⟩ := here
      rfl
  · rfl

theorem Sound.contents_setStyle (sound : g.Sound) (row column : Nat) (style : Style)
    : (g.setStyle row column style).contents
      = g.contents.put row column ((g.contents row column).1, style) := by
  funext r c
  simp only [contents, CellMap.put, value_setStyle, sound.style_setStyle]
  split
  · next here =>
      obtain ⟨rfl, rfl⟩ := here
      rfl
  · rfl

theorem Sound.contents_shiftRows (sound : g.Sound) (start count : Nat)
    : (g.shiftRows start count).contents = g.contents.after (.insertRows start count) := by
  funext row column
  simp only [contents, value_eq, style_eq, CellMap.after, cell_shiftRows]
  split
  · rfl
  · split
    · exact congrArg (Prod.mk Value.empty) sound.default
    · rfl

/-- Seen as a map, the grid changes as maps do. -/
theorem Sound.contents_after (sound : g.Sound) (e : CellEdit)
    : (g.after e).contents = g.contents.after e := by
  cases e with
  | setValue row column value => exact g.contents_setValue row column value
  | setFormula row column text => exact g.contents_setValue row column _
  | setStyle row column style => exact sound.contents_setStyle row column style
  | updateStyle row column change => exact sound.contents_setStyle row column _
  | insertRows start count => exact sound.contents_shiftRows start count

theorem InBounds.shiftRows {start count : Nat} (inside : g.InBounds)
    (stays : ∀ i ∈ g.rows, shiftRow start count i < maxRows)
    : (g.shiftRows start count).InBounds := by
  intro row cells moved
  obtain ⟨i, found, rfl⟩ := Numbered.exists_of_getElem?_shiftRows moved
  exact ⟨stays i (Numbered.mem_of_getElem? found), (inside i cells found).2⟩

/-- What is not taken off the sheet stays within its limits. -/
theorem Kept.shiftRow_lt (kept : g.Kept) {start count : Nat}
    (accepted : g.contents.Accepts (.insertRows start count))
    : ∀ i ∈ g.rows, shiftRow start count i < maxRows := by
  intro i member
  obtain ⟨column, filled⟩ := kept.mem_rows_iff.mp member
  obtain ⟨above, left⟩ := kept.lt_of_filled filled
  rw [shiftRow]
  split
  · next below => exact accepted i above column left below filled
  · exact above

/-- An operation that is accepted leaves the grid in order. -/
theorem Kept.after (kept : g.Kept) (accepted : g.contents.Accepts e)
    : (g.after e).Kept := by
  have valued {row column : Nat} {v : Value} (place : row < maxRows ∧ column < maxColumns)
      : (g.setValue row column v).Kept :=
    ⟨kept.inside.update ⟨place.1, place.2⟩ _, kept.pruned.setValue row column v,
      kept.sound.setValue row column v, kept.lawful⟩
  have styled {row column : Nat} {style : Style} (place : row < maxRows ∧ column < maxColumns)
      : (g.setStyle row column style).Kept :=
    ⟨kept.inside.setStyle ⟨place.1, place.2⟩ style, kept.pruned.setStyle row column style,
      kept.sound.setStyle row column style, kept.lawful.insert style⟩
  cases e with
  | setValue | setFormula => exact valued accepted
  | setStyle | updateStyle => exact styled accepted
  | insertRows start count =>
      exact ⟨kept.inside.shiftRows (kept.shiftRow_lt accepted),
        kept.pruned.shiftRows start count, kept.sound.shiftRows start count, kept.lawful⟩

/-- Styles keep their numbers. -/
theorem extends_after (g : Grid) (e : CellEdit)
    : Extends g.pool.styles (g.after e).pool.styles := by
  cases e with
  | setValue | setFormula | insertRows => exact .refl _
  | setStyle row column style => exact g.pool.extends_insert style
  | updateStyle row column change => exact g.pool.extends_insert _

/-- The pool gains the style that is given. -/
theorem mem_pool_after (accepted : g.contents.Accepts e) {style : Style}
    : style ∈ (g.after e).pool.styles
      ↔ style ∈ g.pool.styles ∨ style ∈ (g.contents.given e).toList := by
  cases e with
  | setValue | setFormula | insertRows => simp [after, CellMap.given, setValue, shiftRows]
  | setStyle row column given =>
      have place : row < maxRows ∧ column < maxColumns := accepted
      rw [CellMap.given, if_pos place, Option.toList_some, List.mem_singleton]
      exact Pool.mem_insert
  | updateStyle row column change =>
      have place : row < maxRows ∧ column < maxColumns := accepted
      rw [CellMap.given, if_pos place, Option.toList_some, List.mem_singleton]
      exact Pool.mem_insert

/-- Nothing is given by an operation that is not accepted. -/
theorem given_of_not_accepts {m : CellMap} (refused : ¬ m.Accepts e) : m.given e = none := by
  cases e with
  | setStyle | updateStyle => exact if_neg refused
  | setValue | setFormula | insertRows => rfl

/-- What one operation does to a grid, accepted or not. -/
structure Step (e : CellEdit) (g g' : Grid) : Prop where
  kept : g'.Kept
  contents : g'.contents = g.contents.apply e
  extends' : Extends g.pool.styles g'.pool.styles
  mem_pool : ∀ style, style ∈ g'.pool.styles
    ↔ style ∈ g.pool.styles ∨ style ∈ (g.contents.given e).toList

theorem Kept.step (kept : g.Kept) (e : CellEdit) : Step e g (g.apply e) := by
  by_cases accepted : g.contents.Accepts e
  · rw [apply, if_pos accepted]
    refine ⟨kept.after accepted, ?_, g.extends_after e, fun _ => mem_pool_after accepted⟩
    rw [kept.sound.contents_after e, CellMap.apply, if_pos accepted]
  · rw [apply, if_neg accepted]
    refine ⟨kept, ?_, .refl _, fun style => ?_⟩
    · rw [CellMap.apply, if_neg accepted]
    · rw [given_of_not_accepts accepted, Option.toList_none]
      exact (or_iff_left List.not_mem_nil).symm

/-- What a run of operations does to a grid. -/
structure Steps (edits : List CellEdit) (g g' : Grid) : Prop where
  kept : g'.Kept
  contents : g'.contents = edits.foldl CellMap.apply g.contents
  extends' : Extends g.pool.styles g'.pool.styles
  mem_pool : ∀ style, style ∈ g'.pool.styles
    ↔ style ∈ g.pool.styles ∨ style ∈ g.contents.stylesGiven edits

/-- Operations do one after the other what each of them does, by induction on the run. -/
theorem Kept.steps (kept : g.Kept) (edits : List CellEdit)
    : Steps edits g (edits.foldl apply g) := by
  induction edits generalizing g with
  | nil =>
      exact ⟨kept, rfl, .refl _, fun _ => (or_iff_left List.not_mem_nil).symm⟩
  | cons e rest ih =>
      have first := kept.step e
      have others := ih first.kept
      refine ⟨others.kept, ?_, first.extends'.trans others.extends', fun style => ?_⟩
      · rw [List.foldl_cons, others.contents, first.contents, List.foldl_cons]
      · rw [List.foldl_cons, others.mem_pool, first.mem_pool, first.contents, CellMap.stylesGiven,
          List.mem_append, or_assoc]

end Grid

end Spreadsheet.Cell
