import Spreadsheet.Proofs.Cell.AddressText
import Spreadsheet.Proofs.Cell.GridListing

/-! Ranges as sets of cells. Listing the cells, asking for one, looking for a common one, moving
rows down and writing the range out all go by the two corners, and agree on the cells between them.
-/

namespace Spreadsheet.Cell

-----------------------------------------------------------------------------------------
-- Moved rows
-----------------------------------------------------------------------------------------

/-- Moved rows keep their order. -/
theorem shiftRow_le_shiftRow {start count a b : Nat}
    : shiftRow start count a ≤ shiftRow start count b ↔ a ≤ b := by
  simp only [shiftRow]
  split <;> split <;> omega

namespace Range

variable {r s : Range} {a : Address}

-----------------------------------------------------------------------------------------
-- Corners in order
-----------------------------------------------------------------------------------------

/-- The first corner is above the second and to the left of it, or level with it. -/
structure Ordered (r : Range) : Prop where
  rows : r.topLeft.row ≤ r.bottomRight.row
  columns : r.topLeft.column ≤ r.bottomRight.column

/-- Putting corners in order changes none that are. -/
theorem normalized_eq_self_iff : r.normalized = r ↔ r.Ordered := by
  obtain ⟨⟨top, left⟩, bottom, right⟩ := r
  simp only [normalized, ofCorners, Range.mk.injEq, Address.mk.injEq]
  constructor
  · rintro ⟨⟨rows, columns⟩, -⟩
    exact ⟨rows ▸ Nat.min_le_right .., columns ▸ Nat.min_le_right ..⟩
  · rintro ⟨rows, columns⟩
    exact ⟨⟨Nat.min_eq_left rows, Nat.min_eq_left columns⟩, Nat.max_eq_right rows,
      Nat.max_eq_right columns⟩

-----------------------------------------------------------------------------------------
-- Cells
-----------------------------------------------------------------------------------------

theorem mem_interval_iff {first last n : Nat}
    : n ∈ interval first last ↔ first ≤ n ∧ n ≤ last := by
  rw [interval, List.mem_range'_1]
  omega

theorem contains_iff
    : r.contains a ↔ (r.topLeft.row ≤ a.row ∧ a.row ≤ r.bottomRight.row)
      ∧ r.topLeft.column ≤ a.column ∧ a.column ≤ r.bottomRight.column := by
  simp only [contains, Bool.and_eq_true, decide_eq_true_eq, and_assoc]

/-- The cells of a range are those that it contains. -/
theorem mem_cells_iff : a ∈ r.cells ↔ r.contains a := by
  rw [contains_iff, ← mem_interval_iff, ← mem_interval_iff, cells, List.mem_flatMap]
  constructor
  · rintro ⟨row, inRows, member⟩
    obtain ⟨column, inColumns, rfl⟩ := List.mem_map.mp member
    exact ⟨inRows, inColumns⟩
  · rintro ⟨inRows, inColumns⟩
    exact ⟨a.row, inRows, List.mem_map_of_mem inColumns⟩

theorem interval_pairwise (first last : Nat) : (interval first last).Pairwise (· < ·) :=
  List.pairwise_lt_range'

/-- Cells are listed row by row and each row from left to right. -/
theorem cells_pairwise (r : Range) : r.cells.Pairwise Address.Before := by
  rw [cells, List.pairwise_flatMap]
  constructor
  · intro row _
    rw [List.pairwise_map]
    exact (interval_pairwise _ _).imp fun less => .inr ⟨rfl, less⟩
  · refine (interval_pairwise _ _).imp fun less a member b member' => ?_
    obtain ⟨_, -, rfl⟩ := List.mem_map.mp member
    obtain ⟨_, -, rfl⟩ := List.mem_map.mp member'
    exact .inl less

/-- No cell is listed twice. -/
theorem cells_nodup (r : Range) : r.cells.Nodup :=
  r.cells_pairwise.imp fun before same => by
    subst same
    rcases before with less | ⟨-, less⟩ <;> exact Nat.lt_irrefl _ less

-----------------------------------------------------------------------------------------
-- Common cells
-----------------------------------------------------------------------------------------

theorem overlaps_iff
    : r.overlaps s ↔
      (r.topLeft.row ≤ s.bottomRight.row ∧ s.topLeft.row ≤ r.bottomRight.row)
      ∧ r.topLeft.column ≤ s.bottomRight.column ∧ s.topLeft.column ≤ r.bottomRight.column := by
  simp only [overlaps, Bool.and_eq_true, decide_eq_true_eq, and_assoc]

/-- Overlapping goes both ways. -/
theorem overlaps_comm (r s : Range) : r.overlaps s = s.overlaps r := by
  rw [Bool.eq_iff_iff, overlaps_iff, overlaps_iff, and_comm (a := r.topLeft.row ≤ _),
    and_comm (a := r.topLeft.column ≤ _)]

/-- Ranges overlap if they have a cell in common. If they do, the lower of the two upper edges and
the right one of the two left edges meet in one.
-/
theorem overlaps_iff_exists (rOrdered : r.Ordered) (sOrdered : s.Ordered)
    : r.overlaps s ↔ ∃ a, r.contains a ∧ s.contains a := by
  simp only [overlaps_iff, contains_iff]
  constructor
  · rintro ⟨⟨above, below⟩, left, right⟩
    refine ⟨⟨max r.topLeft.row s.topLeft.row, max r.topLeft.column s.topLeft.column⟩, ?_⟩
    have := rOrdered.rows
    have := rOrdered.columns
    have := sOrdered.rows
    have := sOrdered.columns
    simp only
    omega
  · rintro ⟨a, inR, inS⟩
    omega

-----------------------------------------------------------------------------------------
-- Rows that are put in
-----------------------------------------------------------------------------------------

section Shifting

variable {start count : Nat}

theorem Ordered.shiftRows (ordered : r.Ordered) : (r.shiftRows start count).Ordered where
  rows := shiftRow_le_shiftRow.mpr ordered.rows
  columns := ordered.columns

/-- A cell and a range that are moved together stay in one another or apart. -/
theorem contains_shiftRows
    : (r.shiftRows start count).contains (a.shiftRows start count) ↔ r.contains a := by
  rw [contains_iff, contains_iff]
  refine and_congr (and_congr ?_ ?_) Iff.rfl
  · exact shiftRow_le_shiftRow
  · exact shiftRow_le_shiftRow

end Shifting

-----------------------------------------------------------------------------------------
-- Texts, lists, questions and moves
-----------------------------------------------------------------------------------------

/-- What is read has its corners in order and on a sheet. -/
theorem ordered_of_parse {t : String} (read : parse t = .ok r) : r.Ordered :=
  normalized_eq_self_iff.mp (normalized_of_parse read)

/-- The text of a range on a sheet with its corners in order is read as the range. -/
theorem parse_text_of_ordered (ordered : r.Ordered) (onSheet : r.OnSheet)
    : parse r.text = .ok r := by
  rw [parse_text onSheet, normalized_eq_self_iff.mpr ordered]

/-- A range is the set of its cells, whichever way it is looked at. What is read is in order and on
a sheet, and so is read back from its text, as is every such range. The cells are listed row by row
without repetition, and they are those that the range contains. Two ranges overlap if they have one
in common. Moving rows down keeps the corners in order, and moves the cells along.
-/
theorem range_is_cellSet
    : (∀ t r, parse t = .ok r → r.Ordered ∧ r.OnSheet ∧ parse r.text = .ok r)
      ∧ (∀ r : Range, r.Ordered → r.OnSheet → parse r.text = .ok r)
      ∧ (∀ r : Range,
          r.cells.Pairwise Address.Before ∧ r.cells.Nodup ∧ ∀ a, a ∈ r.cells ↔ r.contains a)
      ∧ (∀ r s : Range, r.Ordered → s.Ordered →
          (r.overlaps s ↔ ∃ a, r.contains a ∧ s.contains a) ∧ r.overlaps s = s.overlaps r)
      ∧ ∀ (r : Range) (start count : Nat),
          (r.Ordered → (r.shiftRows start count).Ordered)
          ∧ ∀ a : Address,
              r.contains a ↔ (r.shiftRows start count).contains (a.shiftRows start count) := by
  refine ⟨fun t r read => ?_, fun r => parse_text_of_ordered, fun r => ?_,
    fun r s rOrdered sOrdered => ?_, fun r start count => ?_⟩
  · have ordered := ordered_of_parse read
    have onSheet := parse_onSheet read
    exact ⟨ordered, onSheet, parse_text_of_ordered ordered onSheet⟩
  · exact ⟨r.cells_pairwise, r.cells_nodup, fun a => mem_cells_iff⟩
  · exact ⟨overlaps_iff_exists rOrdered sOrdered, overlaps_comm r s⟩
  · exact ⟨Ordered.shiftRows, fun a => contains_shiftRows.symm⟩

end Range

end Spreadsheet.Cell
