import Spreadsheet.Proofs.Cell.RangeCells
import Spreadsheet.Proofs.Sheet.Edits

/-! Ranges whose corners are in order, merged ranges that are clear of each other and splits that
keep something in view, and how they stay so.
-/

namespace Spreadsheet

open Spreadsheet.Cell

-----------------------------------------------------------------------------------------
-- Ranges
-----------------------------------------------------------------------------------------

namespace Cell

namespace Range

/-- Ranges that are moved down overlap just if they did before. -/
theorem overlaps_shiftRows {start count : Nat} (r s : Range)
    : (r.shiftRows start count).overlaps (s.shiftRows start count) = r.overlaps s := by
  rw [Bool.eq_iff_iff, overlaps_iff, overlaps_iff]
  exact and_congr (and_congr shiftRow_le_shiftRow shiftRow_le_shiftRow) Iff.rfl

end Range

end Cell

namespace Sheet

variable {s s' : Sheet} {edit : Edit}

-----------------------------------------------------------------------------------------
-- Ranges in order and splits
-----------------------------------------------------------------------------------------

/-- All ranges on the sheet have their corners in order, as ranges have that are read or made of
two corners.
-/
def InOrder (s : Sheet) : Prop := ∀ r ∈ s.ranges, r.Ordered

theorem mem_ranges_of_merged {r : Range} (member : r ∈ s.merged) : r ∈ s.ranges :=
  List.mem_append_left _ (List.mem_append_left _ (List.mem_append_left _ member))

theorem mem_ranges_of_filter {r : Range} (filtered : s.filter = some r) : r ∈ s.ranges :=
  List.mem_append_left _ (List.mem_append_left _
    (List.mem_append_right _ (Option.mem_toList.mpr filtered)))

/-- The ranges that an operation puts on a sheet. -/
def Edit.ranges : Edit → List Range
  | .merge range | .setFilter range => [range]
  | .addRule rule => rule.ranges
  | .addValidation validation => validation.ranges
  | _ => []

theorem ranges_shiftRows (s : Sheet) (start count : Nat)
    : (s.shiftRows start count).ranges = s.ranges.map (·.shiftRows start count) := by
  simp only [ranges, shiftRows, Rule.shiftRows, Validation.shiftRows, List.map_append,
    List.flatMap_map, List.map_flatMap, Option.toList_map]

/-- If the ranges that an operation puts on a sheet have their corners in order, all have. -/
theorem InOrder.apply (inOrder : s.InOrder) (ordered : ∀ r ∈ edit.ranges, r.Ordered)
    : (s.apply edit).InOrder := by
  have joined {t : Sheet} (known : ∀ r ∈ t.ranges, r ∈ s.ranges ∨ r ∈ edit.ranges) : t.InOrder :=
    fun r member => (known r member).elim (inOrder r) (ordered r)
  have ofCells (ofCells : edit.OfCells) : (s.apply edit).InOrder := by
    rw [apply_sameAround ofCells]
    exact inOrder
  cases edit with
  | merge range =>
      refine orSame_cases inOrder fun s' done => ?_
      obtain ⟨-, rfl⟩ := merge_eq_ok.mp done
      refine joined fun r member => ?_
      simp only [ranges, List.mem_append] at member ⊢
      tauto
  | setFilter range =>
      refine joined fun r member => ?_
      simp only [ranges, Sheet.apply, List.mem_append, Option.toList_some] at member ⊢
      tauto
  | addRule rule =>
      refine joined fun r member => ?_
      simp only [ranges, Sheet.apply, addRule, List.flatMap_append, List.flatMap_singleton,
        List.mem_append] at member ⊢
      tauto
  | addValidation v =>
      refine joined fun r member => ?_
      simp only [ranges, Sheet.apply, addValidation, List.flatMap_append, List.flatMap_singleton,
        List.mem_append] at member ⊢
      tauto
  | insertRows start count =>
      refine orSame_cases inOrder fun s' done => ?_
      rcases insertRows_cases done with ⟨-, rfl⟩ | ⟨-, rfl⟩
      · exact inOrder
      · intro r member
        rw [ranges_shiftRows] at member
        obtain ⟨before, known, rfl⟩ := List.mem_map.mp member
        exact (inOrder before known).shiftRows
  | setFreeze | setPage | setHeaderFooter | protect | addChart | addPicture => exact inOrder
  | _ => exact ofCells trivial

/-- A split keeps something in view. -/
def HoldsSplit (s : Sheet) : Prop := ∀ f, s.freeze = some f → ¬ (f.rows = 0 ∧ f.columns = 0)

/-- No operation leaves an empty split behind. -/
theorem HoldsSplit.apply (holds : s.HoldsSplit) (edit : Edit) : (s.apply edit).HoldsSplit := by
  have ofCells (ofCells : edit.OfCells) : (s.apply edit).HoldsSplit := by
    rw [apply_sameAround ofCells]
    exact holds
  cases edit with
  | setFreeze rows columns =>
      intro f frozen
      simp only [Sheet.apply, setFreeze] at frozen
      split at frozen
      · cases frozen
      · next some =>
          cases frozen
          exact some
  | insertRows start count =>
      refine orSame_cases holds fun s' done => ?_
      rcases insertRows_cases done with ⟨-, rfl⟩ | ⟨-, rfl⟩
      · exact holds
      · intro f frozen
        obtain ⟨before, split, rfl⟩ := Option.map_eq_some_iff.mp frozen
        have some := holds before split
        simp only [Freeze.shiftRows]
        split <;> omega
  | merge range =>
      refine orSame_cases holds fun s' done => ?_
      obtain ⟨-, rfl⟩ := merge_eq_ok.mp done
      exact holds
  | setFilter | setPage | setHeaderFooter | protect | addRule | addValidation | addChart
  | addPicture =>
      exact holds
  | _ => exact ofCells trivial

-----------------------------------------------------------------------------------------
-- Merged ranges
-----------------------------------------------------------------------------------------

/-- The merged ranges are clear of each other, their corners put in order. -/
def MergesApart (s : Sheet) : Prop :=
  (s.merged.map Range.normalized).Pairwise fun a b => ¬ a.overlaps b

instance (s : Sheet) : Decidable s.MergesApart := inferInstanceAs (Decidable (List.Pairwise _ _))

/-- The merged ranges are clear of each other as they stand. -/
def MergesClear (s : Sheet) : Prop := s.merged.Pairwise fun a b => ¬ a.overlaps b

/-- Corners that are in order stay where they are. -/
theorem mergesApart_iff (ordered : ∀ r ∈ s.merged, r.normalized = r)
    : s.MergesApart ↔ s.MergesClear := by
  have asTheyAre : s.merged.map Range.normalized = s.merged :=
    (List.map_congr_left ordered).trans (List.map_id _)
  rw [MergesApart, asTheyAre]
  rfl

-----------------------------------------------------------------------------------------
-- Operations
-----------------------------------------------------------------------------------------

namespace MergesClear

/-- A range that is clear of the others joins them. -/
theorem merge (clear : s.MergesClear) {range : Range}
    (apart : ∀ other ∈ s.merged, ¬ range.overlaps other)
    : ({ s with merged := s.merged ++ [range] } : Sheet).MergesClear := by
  refine List.pairwise_append.mpr ⟨clear, List.pairwise_singleton _ _, ?_⟩
  intro other member range single
  cases List.mem_singleton.mp single
  rw [Range.overlaps_comm]
  exact apart other member

theorem shiftRows (clear : s.MergesClear) (start count : Nat)
    : (s.shiftRows start count).MergesClear := by
  refine List.pairwise_map.mpr (clear.imp fun clear => ?_)
  rwa [Range.overlaps_shiftRows]

/-- No operation brings merged ranges to overlap. -/
theorem apply (clear : s.MergesClear) (edit : Edit) : (s.apply edit).MergesClear := by
  have effect := s.apply_effect edit
  generalize s.apply edit = s' at effect ⊢
  cases effect with
  | aside _ same _ => rwa [MergesClear, same]
  | line axis _ _ => cases axis <;> exact clear
  | group axis g => cases axis <;> exact clear
  | merge apart => exact clear.merge apart
  | shift start count => exact clear.shiftRows start count

end MergesClear

/-- The merged ranges have their corners in order and are clear of each other. -/
structure OrderlyMerges (s : Sheet) : Prop where
  ordered : ∀ r ∈ s.merged, r.normalized = r
  clear : s.MergesClear

/-- An operation that merges a range has its corners in order. -/
def Edit.Orderly : Edit → Prop
  | .merge range => range.normalized = range
  | _ => True

namespace OrderlyMerges

theorem blank (name : String) : ({ name } : Sheet).OrderlyMerges where
  ordered _ member := absurd member List.not_mem_nil
  clear := .nil

theorem apart (orderly : s.OrderlyMerges) : s.MergesApart :=
  (mergesApart_iff orderly.ordered).mpr orderly.clear

theorem of_merged (orderly : s.OrderlyMerges) (same : s'.merged = s.merged)
    : s'.OrderlyMerges where
  ordered := by
    rw [same]
    exact orderly.ordered
  clear := by
    rw [MergesClear, same]
    exact orderly.clear

/-- A range that is clear of the others joins them. -/
theorem merge (orderly : s.OrderlyMerges) {range : Range} (ordered : range.normalized = range)
    (apart : ∀ other ∈ s.merged, ¬ range.overlaps other)
    : ({ s with merged := s.merged ++ [range] } : Sheet).OrderlyMerges where
  ordered r member := by
    rcases List.mem_append.mp member with member | member
    · exact orderly.ordered r member
    · cases List.mem_singleton.mp member
      exact ordered
  clear := orderly.clear.merge apart

theorem shiftRows (orderly : s.OrderlyMerges) (start count : Nat)
    : (s.shiftRows start count).OrderlyMerges where
  ordered r member := by
    obtain ⟨before, inside, rfl⟩ := List.mem_map.mp member
    have ordered := Range.normalized_eq_self_iff.mp (orderly.ordered before inside)
    exact Range.normalized_eq_self_iff.mpr ordered.shiftRows
  clear := orderly.clear.shiftRows start count

/-- Orderly operations keep merged ranges in order and clear of each other. -/
theorem apply (orderly : s.OrderlyMerges) {edit : Edit} (next : edit.Orderly)
    : (s.apply edit).OrderlyMerges := by
  have effect := s.apply_effect edit
  generalize s.apply edit = s' at effect ⊢
  cases effect with
  | aside _ same _ => exact orderly.of_merged same
  | line axis _ _ => exact orderly.of_merged (by cases axis <;> rfl)
  | group axis g => exact orderly.of_merged (by cases axis <;> rfl)
  | merge clear => exact orderly.merge next clear
  | shift start count => exact orderly.shiftRows start count

end OrderlyMerges

end Sheet

end Spreadsheet
