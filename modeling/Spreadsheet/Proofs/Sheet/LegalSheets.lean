import Mathlib.Logic.Relation
import Spreadsheet.Proofs.Cell.GridListing
import Spreadsheet.Proofs.Sheet.Bounds
import Spreadsheet.Proofs.Sheet.MergedRanges

/-! Sheets whose content is in order: cells, settings, merged ranges and the filter. Whatever comes
to its place on a sheet leaves it so.
-/

namespace Spreadsheet

open Spreadsheet.Cell

namespace Sheet

-----------------------------------------------------------------------------------------
-- Settings
-----------------------------------------------------------------------------------------

/-- Levels are within their limit, and settings belong to lines of a sheet. -/
structure Settings.Legal (axis : Axis) (m : Settings) : Prop extends Outlined axis m where
  onSheet : ∀ i ∈ m, i < axis.limit

theorem Settings.Legal.empty (axis : Axis) : Legal axis ∅ where
  shallow _ _ found := absurd (Numbered.mem_of_getElem? found) Std.ExtTreeMap.not_mem_empty
  columns _ _ member := absurd member Std.ExtTreeMap.not_mem_empty
  onSheet _ member := absurd member Std.ExtTreeMap.not_mem_empty

/-- A line of the sheet gets a setting with a level within the limit, or with that it had. -/
theorem Settings.Legal.insert {axis : Axis} {m : Settings} (legal : Legal axis m) {i : Nat}
    (inside : i < axis.limit) {setting : Setting}
    (level : setting.outlineLevel ≤ maxOutlineLevel
      ∨ setting.outlineLevel = (get m i).outlineLevel)
    : Legal axis (m.insert i setting) where
  toOutlined := legal.toOutlined.insert inside level
  onSheet := lt_limit_insert legal.onSheet inside setting

-----------------------------------------------------------------------------------------
-- Sheets
-----------------------------------------------------------------------------------------

/-- Cells, settings, merged ranges and the filter have their place on the sheet, no blank cell is
kept and the pool knows the style of each, outline levels are within their limit, and merged ranges
have their corners in order and are clear of each other.
-/
structure LegalContent (s : Sheet) : Prop where
  cells : s.cells.InBounds
  pruned : s.cells.Pruned
  sound : s.cells.Sound
  rows : Settings.Legal .rows s.rows
  columns : Settings.Legal .columns s.columns
  merged : RangesOnSheet s.merged
  ordered : ∀ r ∈ s.merged, r.normalized = r
  apart : s.MergesApart
  filter : ∀ range, s.filter = some range → range.OnSheet

/-- The content is in order, and the split has its place on the sheet. -/
structure Legal (s : Sheet) : Prop extends s.LegalContent where
  freeze : ∀ f, s.freeze = some f → f.topLeftCell.OnSheet

variable {s : Sheet}

namespace LegalContent

theorem blank (name : String) : ({ name } : Sheet).LegalContent where
  cells := Grid.InBounds.empty
  pruned := Grid.Pruned.empty
  sound := Grid.Sound.empty
  rows := .empty .rows
  columns := .empty .columns
  merged _ member := absurd member List.not_mem_nil
  ordered _ member := absurd member List.not_mem_nil
  apart := .nil
  filter _ filtered := by cases filtered

theorem insertLine (legal : s.LegalContent) {axis : Axis} {i : Nat} (inside : i < axis.limit)
    {setting : Setting}
    (level : setting.outlineLevel ≤ maxOutlineLevel
      ∨ setting.outlineLevel = (Settings.get (s.lines axis) i).outlineLevel)
    : (s.withLines axis ((s.lines axis).insert i setting)).LegalContent := by
  cases axis with
  | rows => exact { legal with rows := legal.rows.insert inside level }
  | columns => exact { legal with columns := legal.columns.insert inside level }

/-- A range of the sheet that is clear of those merged before joins them. -/
theorem merge (legal : s.LegalContent) {range : Range} (onSheet : range.OnSheet)
    (ordered : range.normalized = range) (clear : ∀ other ∈ s.merged, ¬ range.overlaps other)
    : ({ s with merged := s.merged ++ [range] } : Sheet).LegalContent := by
  have orderly : s.OrderlyMerges := ⟨legal.ordered, (mergesApart_iff legal.ordered).mp legal.apart⟩
  have joined := orderly.merge ordered clear
  refine { legal with
    merged := fun other member => ?_
    ordered := joined.ordered
    apart := joined.apart }
  rcases List.mem_append.mp member with member | single
  · exact legal.merged other member
  · cases List.mem_singleton.mp single
    exact onSheet

end LegalContent

-----------------------------------------------------------------------------------------
-- Changes
-----------------------------------------------------------------------------------------

/-- Something comes to its place on the sheet: a value, a style, a setting of a line, a merged range
or a filter.
-/
inductive Gains (s : Sheet) : Sheet → Prop where
  | value {row column : Nat} (place : Address.OnSheet ⟨row, column⟩) (value : Value)
    : Gains s { s with cells := s.cells.setValue row column value }
  | style {row column : Nat} (place : Address.OnSheet ⟨row, column⟩) (style : Style)
    : Gains s { s with cells := s.cells.setStyle row column style }
  | line {axis : Axis} {i : Nat} {setting : Setting} (inside : i < axis.limit)
      (level : setting.outlineLevel ≤ maxOutlineLevel
        ∨ setting.outlineLevel = (Settings.get (s.lines axis) i).outlineLevel)
    : Gains s (s.withLines axis ((s.lines axis).insert i setting))
  | merge {range : Range} (onSheet : range.OnSheet) (ordered : range.normalized = range)
      (clear : ∀ other ∈ s.merged, ¬ range.overlaps other)
    : Gains s { s with merged := s.merged ++ [range] }
  | filter {range : Range} (onSheet : range.OnSheet) : Gains s { s with filter := some range }

variable {s' : Sheet}

/-- What comes to its place leaves the content in order. -/
theorem Gains.legal (gains : s.Gains s') (legal : s.LegalContent) : s'.LegalContent := by
  cases gains with
  | @value row column place value =>
      exact { legal with
        cells := legal.cells.update place _
        pruned := legal.pruned.setValue row column value
        sound := legal.sound.setValue row column value }
  | @style row column place style =>
      exact { legal with
        cells := legal.cells.setStyle place style
        pruned := legal.pruned.setStyle row column style
        sound := legal.sound.setStyle row column style }
  | line inside level => exact legal.insertLine inside level
  | merge onSheet ordered clear => exact legal.merge onSheet ordered clear
  | filter onSheet =>
      refine { legal with filter := fun other filtered => ?_ }
      cases filtered
      exact onSheet

/-- None of it touches the split. -/
theorem Gains.freeze (gains : s.Gains s') : s'.freeze = s.freeze := by
  cases gains with
  | @line axis => cases axis <;> rfl
  | value | style | merge | filter => rfl

/-- One thing after the other comes to its place. -/
abbrev Fills : Sheet → Sheet → Prop := Relation.ReflTransGen Gains

/-- A run of such changes leaves the content in order, by induction on it. -/
theorem Fills.legal (fills : s.Fills s') (legal : s.LegalContent) : s'.LegalContent := by
  induction fills with
  | refl => exact legal
  | tail _ gains ih => exact gains.legal ih

theorem Fills.freeze (fills : s.Fills s') : s'.freeze = s.freeze := by
  induction fills with
  | refl => rfl
  | tail _ gains ih => exact gains.freeze.trans ih

end Sheet

end Spreadsheet
