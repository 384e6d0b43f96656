import Spreadsheet.Proofs.Sheet.CellMaps
import Spreadsheet.Proofs.Sheet.Edits

/-! The cells of a sheet behave as a plain map. What operations on cells do can be told from the map
alone, and what the sheet tells of its cells is told of the map.
-/

namespace Spreadsheet

open Spreadsheet.Cell Spreadsheet.Style

namespace Sheet

-----------------------------------------------------------------------------------------
-- Operations on cells
-----------------------------------------------------------------------------------------

/-- An operation on the cells of a sheet, which may fail. -/
def attempt (s : Sheet) : CellEdit → Except ModelError Sheet
  | .setValue row column value => s.setValue row column value
  | .setFormula row column text => s.setFormula row column text
  | .setStyle row column style => s.setStyle row column style
  | .updateStyle row column change => s.updateStyle row column change
  | .insertRows start count => s.insertRows start count

/-- The sheet after an operation on its cells, whether that has failed or not. -/
def editCells (s : Sheet) (e : CellEdit) : Sheet := s.orSame (s.attempt e)

/-- A blank sheet after operations on its cells. -/
def ofCellEdits (name : String) (edits : List CellEdit) : Sheet := edits.foldl editCells { name }

/-- The sheet tells of its cells what there is on the map. It refuses what the map does not accept,
and as long as no more rows are put in at once than a sheet has, that is an error of which it tells.
-/
structure Refines (s : Sheet) (m : CellMap) : Prop where
  cell : ∀ row column, (s.value row column, s.style row column) = m row column
  accepts : ∀ e : CellEdit, (s.attempt e).isOk ↔ m.Accepts e
  goesOn : ∀ e : CellEdit, e.rows ≤ maxRows → s.attempt e ≠ .error .overflow
  ordered : s.cells.entries.Pairwise fun a b => a.1.Before b.1
  listed : ∀ a : Address, (∃ e, (a, e) ∈ s.cells.entries) ↔ m.Filled a.row a.column
  shown : ∀ a e, (a, e) ∈ s.cells.entries
    → (e.value, s.cells.pool.get e.style) = m a.row a.column
  size : s.cells.size = s.cells.entries.length
  blank : s.dimension? = none ↔ ∀ row column, ¬ m.Filled row column
  dimension : ∀ range, s.dimension? = some range → m.LeastRange range

/-- A sheet with cells and nothing else. -/
def ofGrid (name : String) (g : Grid) : Sheet := { name, cells := g }

variable {name : String} {g : Grid} {s' : Sheet} {e : CellEdit} {start count : Nat}

/-- Where only cells are, only cells are moved. -/
theorem shiftRows_ofGrid
    : (ofGrid name g).shiftRows start count = ofGrid name (g.shiftRows start count) := by
  have none : (∅ : Settings).shiftRows start count = ∅ := rfl
  simp only [ofGrid, Sheet.shiftRows, none]
  rfl

theorem lastRowFrom?_ofGrid
    : (ofGrid name g).lastRowFrom? start
      = g.lastRow?.bind fun last => if start ≤ last then some last else none := by
  have settings : Numbered.lastKey? (∅ : Settings) = none :=
    List.getLast?_eq_none_iff.mpr (Std.ExtTreeMap.keys_eq_nil_iff.mpr rfl)
  simp only [lastRowFrom?, ofGrid, settings, Option.toList_none, List.map_nil, List.append_nil]
  cases g.lastRow? with
  | none => rfl
  | some last => by_cases below : start ≤ last <;> simp [below]

/-- Rows can be put in if the last row that is kept stays on the sheet. -/
theorem accepts_insertRows_iff (kept : g.Kept)
    : g.contents.Accepts (.insertRows start count)
      ↔ ∀ last, g.lastRow? = some last → start ≤ last → last + count < maxRows := by
  constructor
  · intro accepted last found below
    obtain ⟨column, e, listed⟩ := kept.pruned.exists_of_lastRow? found
    have filled := kept.filled_iff.mpr ⟨e, listed⟩
    obtain ⟨above, left⟩ := kept.lt_of_filled filled
    exact accepted last above column left below filled
  · intro stays row _ column _ below filled
    obtain ⟨e, listed⟩ := kept.filled_iff.mp filled
    obtain ⟨last, found, upper⟩ := Grid.exists_lastRow? listed
    have room := stays last found (Nat.le_trans below upper)
    omega

/-- Nothing but cells comes to other rows. -/
theorem rowsFit_ofGrid : (ofGrid name g).RowsFit start count :=
  ⟨fun _ member => absurd member List.not_mem_nil, fun _ member => absurd member (by simp [ofGrid])⟩

theorem insertRows_ofGrid_eq_ok (kept : g.Kept)
    : (ofGrid name g).insertRows start count = .ok s'
      ↔ g.contents.Accepts (.insertRows start count)
        ∧ s' = ofGrid name (g.shiftRows start count) := by
  have stays : (∀ last, (ofGrid name g).lastRowFrom? start = some last → last + count < maxRows)
      ↔ g.contents.Accepts (.insertRows start count) := by
    simp only [accepts_insertRows_iff kept, lastRowFrom?_ofGrid, Option.bind_eq_some_iff,
      Option.ite_none_right_eq_some, Option.some.injEq]
    constructor
    · exact fun stays last found below => stays last ⟨last, found, below, rfl⟩
    · rintro stays _ ⟨last, found, below, rfl⟩
      exact stays last found below
  rw [insertRows_eq_ok, stays, shiftRows_ofGrid]
  constructor
  · rintro (⟨rfl, rfl⟩ | ⟨-, accepted, -, rfl⟩)
    · rw [Grid.shiftRows, Numbered.shiftRows_zero]
      exact ⟨fun row above _ _ _ _ => above, rfl⟩
    · exact ⟨accepted, rfl⟩
  · rintro ⟨accepted, rfl⟩
    by_cases nothing : count = 0
    · subst nothing
      rw [Grid.shiftRows, Numbered.shiftRows_zero]
      exact .inl ⟨rfl, rfl⟩
    · exact .inr ⟨nothing, accepted, rowsFit_ofGrid, rfl⟩

/-- An operation succeeds if the map accepts it, and changes the cells only. -/
theorem attempt_ofGrid_eq_ok (kept : g.Kept)
    : (ofGrid name g).attempt e = .ok s' ↔ g.contents.Accepts e ∧ s' = ofGrid name (g.after e) := by
  have place {row column : Nat}
      : Address.OnSheet ⟨row, column⟩ ↔ row < maxRows ∧ column < maxColumns :=
    ⟨fun place => ⟨place.row, place.column⟩, fun place => ⟨place.1, place.2⟩⟩
  cases e with
  | setValue | setFormula => exact setValue_eq_ok.trans (and_congr_left' place)
  | setStyle | updateStyle => exact setStyle_eq_ok.trans (and_congr_left' place)
  | insertRows start count => exact insertRows_ofGrid_eq_ok kept

/-- An operation does on the sheet what it does on the grid. -/
theorem editCells_ofGrid (kept : g.Kept)
    : (ofGrid name g).editCells e = ofGrid name (g.apply e) := by
  rw [editCells, Grid.apply]
  by_cases accepted : g.contents.Accepts e
  · have done : (ofGrid name g).attempt e = .ok _ :=
      (attempt_ofGrid_eq_ok kept).mpr ⟨accepted, rfl⟩
    rw [if_pos accepted, done]
    rfl
  · rw [if_neg accepted]
    cases done : (ofGrid name g).attempt e with
    | error failure => rfl
    | ok s' => exact absurd ((attempt_ofGrid_eq_ok kept).mp done).1 accepted

/-- So does a run of operations, by induction on it. -/
theorem foldl_editCells_ofGrid (kept : g.Kept) (edits : List CellEdit)
    : edits.foldl editCells (ofGrid name g) = ofGrid name (edits.foldl Grid.apply g) := by
  induction edits generalizing g with
  | nil => rfl
  | cons e rest ih =>
      rw [List.foldl_cons, editCells_ofGrid kept, List.foldl_cons]
      exact ih (kept.step e).kept

/-- Kept cells are so far from the last row number that no more rows than a sheet has can take one
there.
-/
theorem attempt_ofGrid_ne_overflow (kept : g.Kept) (few : e.rows ≤ maxRows)
    : (ofGrid name g).attempt e ≠ .error .overflow := by
  intro ended
  have refused {row column : Nat} {done : Sheet}
      (ended : (ModelError.checkPosition row column >>= fun _ => .ok done) = .error .overflow)
      : False := by
    rcases bind_eq_error.mp ended with checked | ⟨_, -, ⟨⟩⟩
    exact ModelError.checkPosition_ne_overflow checked
  cases e with
  | setValue | setFormula | setStyle | updateStyle => exact refused ended
  | insertRows start count =>
      rcases insertRows_eq_error.mp ended with ⟨-, ended | ⟨-, long, -⟩⟩
      · obtain ⟨last, found, -, same⟩ := checkLastRow_eq_error.mp ended
        rw [lastRowFrom?_ofGrid] at found
        obtain ⟨bottom, lowest, moved⟩ := Option.bind_eq_some_iff.mp found
        obtain ⟨-, ⟨⟩⟩ := Option.ite_none_right_eq_some.mp moved
        obtain ⟨column, entry, listed⟩ := kept.pruned.exists_of_lastRow? lowest
        have inside := (kept.lt_of_filled (kept.filled_iff.mpr ⟨entry, listed⟩)).1
        have limits : maxRows + maxRows ≤ rowNumberLimit := by decide
        have few : count ≤ maxRows := few
        rw [if_pos (by omega)] at same
        cases same
      · exact long rowsFit_ofGrid

-----------------------------------------------------------------------------------------
-- What a sheet tells of its cells
-----------------------------------------------------------------------------------------

theorem dimension?_eq_some {s : Sheet} {range : Range}
    : s.dimension? = some range
      ↔ ∃ row column, s.cells.lastRow? = some row ∧ s.cells.lastColumn? = some column
        ∧ range = ⟨⟨0, 0⟩, ⟨row, column⟩⟩ := by
  have corners (row column : Nat)
      : Range.ofCorners ⟨0, 0⟩ ⟨row, column⟩ = ⟨⟨0, 0⟩, ⟨row, column⟩⟩ := by
    simp [Range.ofCorners]
  simp [dimension?, Option.bind_eq_some_iff, corners, eq_comm (b := range)]

/-- There is a dimension if there is something on the map. -/
theorem dimension?_ofGrid_eq_none (kept : g.Kept)
    : (ofGrid name g).dimension? = none ↔ ∀ row column, ¬ g.contents.Filled row column := by
  constructor
  · intro nothing row column filled
    obtain ⟨e, listed⟩ := kept.filled_iff.mp filled
    obtain ⟨bottom, lowest, -⟩ := Grid.exists_lastRow? listed
    obtain ⟨right, widest, -⟩ := Grid.exists_lastColumn? listed
    have found : (ofGrid name g).dimension? = some _ :=
      dimension?_eq_some.mpr ⟨bottom, right, lowest, widest, rfl⟩
    rw [nothing] at found
    cases found
  · intro empty
    cases found : (ofGrid name g).dimension? with
    | none => rfl
    | some range =>
        obtain ⟨row, _, lowest, -⟩ := dimension?_eq_some.mp found
        obtain ⟨column, listed⟩ := kept.pruned.exists_of_lastRow? lowest
        exact absurd (kept.filled_iff.mpr listed) (empty row column)

/-- The dimension reaches just to the last row and the last column with something in them. -/
theorem leastRange_of_dimension? (kept : g.Kept) {range : Range}
    (found : (ofGrid name g).dimension? = some range)
    : g.contents.LeastRange range := by
  obtain ⟨bottom, right, lowest, widest, rfl⟩ := dimension?_eq_some.mp found
  obtain ⟨column, inBottom⟩ := kept.pruned.exists_of_lastRow? lowest
  obtain ⟨row, inRight⟩ := Grid.exists_of_lastColumn? widest
  have inBottom := kept.filled_iff.mpr inBottom
  have inRight := kept.filled_iff.mpr inRight
  refine ⟨rfl, ⟨bottom, column, inBottom⟩, fun r c filled => ?_, fun corner covers => ?_⟩
  · obtain ⟨e, listed⟩ := kept.filled_iff.mp filled
    obtain ⟨last, lowest', above⟩ := Grid.exists_lastRow? listed
    obtain ⟨last', widest', left⟩ := Grid.exists_lastColumn? listed
    cases lowest.symm.trans lowest'
    cases widest.symm.trans widest'
    exact ⟨above, left⟩
  · exact ⟨(covers bottom column inBottom).1, (covers row right inRight).2⟩

theorem refines_ofGrid (kept : g.Kept) : (ofGrid name g).Refines g.contents where
  cell _ _ := rfl
  accepts e := by
    constructor
    · intro isOk
      obtain ⟨s', done⟩ := exists_of_isOk isOk
      exact ((attempt_ofGrid_eq_ok kept).mp done).1
    · intro accepted
      rw [(attempt_ofGrid_eq_ok kept).mpr ⟨accepted, rfl⟩]
      rfl
  goesOn _ := attempt_ofGrid_ne_overflow kept
  ordered := g.entries_pairwise
  listed a := by
    rw [kept.filled_iff]
    exact exists_congr fun e => Grid.mem_entries_iff
  shown a e member := (Grid.contents_of_kept (Grid.mem_entries_iff.mp member)).symm
  size := g.size_eq
  blank := dimension?_ofGrid_eq_none kept
  dimension _ found := leastRange_of_dimension? kept found

-----------------------------------------------------------------------------------------
-- Runs
-----------------------------------------------------------------------------------------

/-- A blank sheet after operations on its cells has the cells that its grid then has. -/
theorem ofCellEdits_eq (name : String) (edits : List CellEdit)
    : ofCellEdits name edits = ofGrid name (edits.foldl Grid.apply {}) :=
  foldl_editCells_ofGrid Grid.Kept.empty edits

/-- Whatever operations on cells succeed or fail one after the other, the sheet shows the map that
they make of a blank one. Its pool holds the styles that were given, once each but for twins, and
every style keeps its number.
-/
theorem ofCellEdits_refines (name : String) (edits : List CellEdit)
    : (ofCellEdits name edits).Refines (.ofEdits edits)
      ∧ (ofCellEdits name edits).cells.pool.Interns (CellMap.blank.stylesGiven edits)
      ∧ ∀ front back, edits = front ++ back
        → Extends (ofCellEdits name front).cells.pool.styles
            (ofCellEdits name edits).cells.pool.styles := by
  have blank := Grid.Kept.empty
  have steps := blank.steps edits
  have same := ofCellEdits_eq name edits
  refine ⟨?_, ?_, ?_⟩
  · rw [same, CellMap.ofEdits, ← Grid.contents_empty, ← steps.contents]
    exact refines_ofGrid steps.kept
  · rw [same, ← Grid.contents_empty]
    refine steps.kept.lawful.interns fun style => ?_
    have only : style ∈ ({} : Grid).pool.styles ↔ style = {} := Array.mem_singleton
    rw [steps.mem_pool, only]
  · rintro front back rfl
    rw [same, ofCellEdits_eq name front, List.foldl_append]
    exact ((blank.steps front).kept.steps back).extends'

/-- Values and styles are set, rows are put in between, and a formula off the sheet is refused. -/
def sampleEdits : List CellEdit :=
  [.setValue 0 1 (.text "a"), .setStyle 2 0 { font := { bold := true } },
    .updateStyle 0 1 fun style => { style with font := { style.font with size := 0 } },
    .setFormula 0 maxColumns "A1", .insertRows 1 3, .setValue 0 1 .empty]

theorem ofCellEdits_sampleEdits
    : (ofCellEdits "S" sampleEdits).Refines (.ofEdits sampleEdits)
      ∧ (ofCellEdits "S" sampleEdits).cells.pool.Distinct
      ∧ (ofCellEdits "S" sampleEdits).dimension? = some ⟨⟨0, 0⟩, ⟨5, 1⟩⟩ := by
  obtain ⟨refines, interns, -⟩ := ofCellEdits_refines "S" sampleEdits
  refine ⟨refines, (interns.distinct ?_).mpr ?_, by decide +kernel⟩
  · decide +kernel
  · decide +kernel

/-- Fonts of size zero with either sign. -/
def twinEdits : List CellEdit :=
  [.setStyle 0 0 { font := { size := 0 } },
    .setStyle 0 1 { font := { size := Number.Binary64.neg 0 } }]

/-- The pool has two numbers for them, although they are equal. -/
theorem ofCellEdits_twinEdits
    : (∀ e ∈ twinEdits, e.rows ≤ maxRows)
      ∧ (∀ style ∈ CellMap.blank.stylesGiven twinEdits, style.isComparable)
      ∧ (ofCellEdits "S" twinEdits).cells.pool.size = 3
      ∧ ¬ (ofCellEdits "S" twinEdits).cells.pool.Distinct := by
  refine ⟨by decide, by decide +kernel, by decide +kernel, ?_⟩
  rw [Pool.Distinct]
  decide +kernel

end Sheet

end Spreadsheet
