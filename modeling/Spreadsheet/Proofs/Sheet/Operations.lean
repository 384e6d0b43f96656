import Spreadsheet.Proofs.Cell.AddressBounds
import Spreadsheet.Proofs.Cell.GridContents
import Spreadsheet.Sheet.Basic

/-! What the operations on sheets change when they succeed.
-/

namespace Spreadsheet

open Spreadsheet.Cell

theorem ModelError.checkPosition_eq_ok {row column : Nat}
    : checkPosition row column = .ok () ↔ Address.OnSheet ⟨row, column⟩ := by
  rw [checkPosition, mapError_eq_ok, Address.check_eq_ok]

/-- A position off the sheet is an error of which the caller is told. -/
theorem ModelError.checkPosition_ne_overflow {row column : Nat}
    : checkPosition row column ≠ .error .overflow := by
  rw [checkPosition]
  cases Address.check ⟨row, column⟩ <;> exact nofun

theorem ModelError.parseAddress_onSheet {s : String} {a : Address}
    (h : parseAddress s = .ok a)
    : a.OnSheet :=
  Address.parse_onSheet (mapError_eq_ok.mp h)

theorem ModelError.parseRange_onSheet {s : String} {r : Range} (h : parseRange s = .ok r)
    : r.OnSheet :=
  Range.parse_onSheet (mapError_eq_ok.mp h)

theorem ModelError.parseRange_descending {s : String} {r : Range} (h : parseRange s = .ok r)
    : r.topLeft.row ≤ r.bottomRight.row :=
  Range.parse_descending (mapError_eq_ok.mp h)

namespace Sheet

variable {s s' : Sheet} {axis : Axis} {row column i : Nat}

-----------------------------------------------------------------------------------------
-- Cells
-----------------------------------------------------------------------------------------

/-- A value is written to a position of the sheet, and nothing else happens. -/
theorem setValue_eq_ok {v : Value}
    : s.setValue row column v = .ok s'
      ↔ Address.OnSheet ⟨row, column⟩ ∧ s' = { s with cells := s.cells.setValue row column v } := by
  simp only [setValue, bind_eq_ok, ← ModelError.checkPosition_eq_ok]
  constructor
  · rintro ⟨_, checked, h⟩
    cases h
    exact ⟨checked, rfl⟩
  · rintro ⟨checked, rfl⟩
    exact ⟨(), checked, rfl⟩

/-- A style is given to a position of the sheet, and nothing else happens. -/
theorem setStyle_eq_ok {style : Style}
    : s.setStyle row column style = .ok s'
      ↔ Address.OnSheet ⟨row, column⟩
        ∧ s' = { s with cells := s.cells.setStyle row column style } := by
  simp only [setStyle, bind_eq_ok, ← ModelError.checkPosition_eq_ok]
  constructor
  · rintro ⟨_, checked, h⟩
    cases h
    exact ⟨checked, rfl⟩
  · rintro ⟨checked, rfl⟩
    exact ⟨(), checked, rfl⟩

-----------------------------------------------------------------------------------------
-- Lines
-----------------------------------------------------------------------------------------

/-- The settings along an axis. -/
def lines (s : Sheet) : Axis → Settings
  | .rows => s.rows
  | .columns => s.columns

/-- The sheet with other settings along an axis. -/
def withLines (s : Sheet) : Axis → Settings → Sheet
  | .rows, rows => { s with rows }
  | .columns, columns => { s with columns }

theorem onLines_eq_ok {f : Settings → Except ModelError Settings}
    : s.onLines axis f = .ok s' ↔ ∃ m, f (s.lines axis) = .ok m ∧ s' = s.withLines axis m := by
  cases axis <;> simp only [onLines, lines, withLines, map_eq_ok, eq_comm (a := s')]

theorem group_eq (s : Sheet) (axis : Axis) (g : OutlineGroup)
    : s.group axis g
      = (s.withLines axis (Settings.group axis g (s.lines axis)).1,
        (Settings.group axis g (s.lines axis)).2) := by
  cases axis <;> rfl

namespace Settings

variable {m m' : Settings}

/-- The setting of a line of the sheet is changed, and nothing else happens. -/
theorem update_eq_ok {f : Setting → Setting}
    : update axis i f m = .ok m' ↔ i < axis.limit ∧ m' = m.insert i (f (get m i)) := by
  simp only [update]
  split
  · next outside => exact ⟨nofun, fun h => absurd h.1 (Nat.not_lt.mpr outside)⟩
  · next inside => simp [Nat.not_le.mp inside, eq_comm]

section Grouping

variable {motive : Settings → Prop}
    (changed : ∀ m i setting, i < axis.limit → setting.size = (get m i).size
      → (setting.outlineLevel ≤ maxOutlineLevel ∨ setting.outlineLevel = (get m i).outlineLevel)
      → motive m → motive (m.insert i setting))

include changed

theorem setOutline_preserves {level : Nat} (done : setOutline axis i level m = .ok m')
    (start : motive m)
    : motive m' := by
  simp only [setOutline] at done
  split at done
  · cases done
  · next shallow =>
      obtain ⟨inside, rfl⟩ := update_eq_ok.mp done
      exact changed m i _ inside rfl (.inl (Nat.not_lt.mp shallow)) start

theorem deepen_preserves {collapsed : Bool} (done : deepen axis collapsed i m = .ok m')
    (start : motive m)
    : motive m' := by
  obtain ⟨deeper, outlined, done⟩ := bind_eq_ok.mp done
  have reached := setOutline_preserves changed outlined start
  split at done
  · obtain ⟨inside, rfl⟩ := update_eq_ok.mp done
    exact changed deeper i _ inside rfl (.inr rfl) reached
  · cases done
    exact reached

/-- A run of deepened lines, by induction on its length; a failure keeps what was reached. -/
theorem deepenFrom_preserves (collapsed : Bool) (count i : Nat) (start : motive m)
    : motive (deepenFrom axis collapsed count i m).1 := by
  induction count generalizing i m with
  | zero => exact start
  | succ count ih =>
      simp only [deepenFrom]
      split
      · exact start
      · next done => exact ih (i + 1) (deepen_preserves changed done start)

/-- Grouping changes only lines of the sheet, nothing of their size, and levels within the limit.
What survives such changes survives the grouping, whether it succeeds or fails halfway.
-/
theorem group_preserves (g : OutlineGroup) (start : motive m)
    : motive (group axis g m).1 := by
  have grouped := deepenFrom_preserves changed (cut axis g).collapsed
    ((cut axis g).last + 1 - (cut axis g).first) (cut axis g).first start
  simp only [group]
  split
  · exact start
  split
  · next result => rwa [result] at grouped
  · next result =>
      rw [result] at grouped
      split
      · next marked =>
          simp only [Bool.and_eq_true, decide_eq_true_eq] at marked
          exact changed _ _ _ marked.2 rfl (.inr rfl) grouped
      · exact grouped

end Grouping

end Settings

/-- The setting of a line of the sheet is changed, and nothing else happens. -/
theorem onLines_update_eq_ok {f : Setting → Setting}
    : s.onLines axis (Settings.update axis i f) = .ok s'
      ↔ i < axis.limit
        ∧ s' = s.withLines axis
          ((s.lines axis).insert i (f (Settings.get (s.lines axis) i))) := by
  rw [onLines_eq_ok]
  constructor
  · rintro ⟨m, updated, rfl⟩
    obtain ⟨inside, rfl⟩ := Settings.update_eq_ok.mp updated
    exact ⟨inside, rfl⟩
  · rintro ⟨inside, rfl⟩
    exact ⟨_, Settings.update_eq_ok.mpr ⟨inside, rfl⟩, rfl⟩

theorem setSize_eq_ok {size : Number.Binary64}
    : s.setSize axis i size = .ok s'
      ↔ i < axis.limit
        ∧ s' = s.withLines axis
          ((s.lines axis).insert i { Settings.get (s.lines axis) i with size := some size }) :=
  onLines_update_eq_ok

theorem setHidden_eq_ok {hidden : Bool}
    : s.setHidden axis i hidden = .ok s'
      ↔ i < axis.limit
        ∧ s' = s.withLines axis
          ((s.lines axis).insert i { Settings.get (s.lines axis) i with hidden }) :=
  onLines_update_eq_ok

-----------------------------------------------------------------------------------------
-- Ranges and rows
-----------------------------------------------------------------------------------------

/-- A range that is clear of those merged before joins them, and nothing else happens. -/
theorem merge_eq_ok {range : Range}
    : s.merge range = .ok s'
      ↔ (∀ other ∈ s.merged, ¬ range.overlaps other)
        ∧ s' = { s with merged := s.merged ++ [range] } := by
  simp only [merge]
  split
  · next conflict =>
      obtain ⟨other, member, overlap⟩ := List.any_eq_true.mp conflict
      exact ⟨nofun, fun h => absurd overlap (h.1 other member)⟩
  · next clear =>
      simp only [List.any_eq_true, not_exists, not_and] at clear
      simp only [Except.ok.injEq, eq_comm (a := s')]
      exact ⟨fun h => ⟨clear, h⟩, And.right⟩

variable {start count : Nat}

/-- The lowest row that would be moved comes to a row of the sheet, if there is such a row. -/
theorem checkLastRow_eq_ok
    : s.checkLastRow start count = .ok ()
      ↔ ∀ last, s.lastRowFrom? start = some last → last + count < maxRows := by
  rw [checkLastRow]
  cases found : s.lastRowFrom? start with
  | none => exact ⟨fun _ => nofun, fun _ => rfl⟩
  | some last =>
      have within : maxRows < rowNumberLimit := by decide
      simp only [Option.some.injEq, forall_eq']
      split
      · exact ⟨nofun, fun above => by omega⟩
      · split
        · exact ⟨nofun, fun above => by omega⟩
        · next above => exact ⟨fun _ => Nat.not_le.mp above, fun _ => rfl⟩

/-- The lowest row would leave the sheet. If its number does not fit in a word, the sum that finds
it ends the program, and otherwise it is named.
-/
theorem checkLastRow_eq_error {e : ModelError}
    : s.checkLastRow start count = .error e
      ↔ ∃ last, s.lastRowFrom? start = some last ∧ maxRows ≤ last + count
        ∧ e = if last + count < rowNumberLimit then .address (.rowOutOfBounds (last + count))
          else .overflow := by
  rw [checkLastRow]
  cases found : s.lastRowFrom? start with
  | none => exact ⟨nofun, nofun⟩
  | some last =>
      have within : maxRows < rowNumberLimit := by decide
      simp only [Option.some.injEq, exists_eq_left']
      split
      · next long =>
          rw [if_neg (Nat.not_lt.mpr long)]
          exact ⟨fun ended => ⟨by omega, (Except.error.inj ended).symm⟩, fun h => by rw [h.2]⟩
      · next fits =>
          rw [if_pos (Nat.not_le.mp fits)]
          split
          · next below =>
              exact ⟨fun refused => ⟨below, (Except.error.inj refused).symm⟩,
                fun h => by rw [h.2]⟩
          · next above => exact ⟨nofun, fun h => absurd h.1 above⟩

/-- Either there are no rows to put in, or everything below them moves to rows whose numbers fit in
their words, and what holds rows back stays on the sheet.
-/
theorem insertRows_eq_ok
    : s.insertRows start count = .ok s'
      ↔ count = 0 ∧ s' = s
        ∨ count ≠ 0 ∧ (∀ last, s.lastRowFrom? start = some last → last + count < maxRows)
          ∧ s.RowsFit start count ∧ s' = s.shiftRows start count := by
  rw [insertRows]
  split
  · next nothing => simp [nothing, eq_comm]
  · next some =>
      simp only [some, false_and, false_or, ne_eq, not_false_iff, true_and, bind_eq_ok,
        ← checkLastRow_eq_ok]
      constructor
      · rintro ⟨_, checked, done⟩
        split at done
        · next fits =>
            cases done
            exact ⟨checked, fits, rfl⟩
        · cases done
      · rintro ⟨checked, fits, rfl⟩
        exact ⟨(), checked, if_pos fits⟩

/-- What is refused or ends the program: the lowest row would leave the sheet, or else something
that does not hold rows back would come to a row number that does not fit.
-/
theorem insertRows_eq_error {e : ModelError}
    : s.insertRows start count = .error e
      ↔ count ≠ 0
        ∧ (s.checkLastRow start count = .error e
          ∨ s.checkLastRow start count = .ok () ∧ ¬ s.RowsFit start count ∧ e = .overflow) := by
  rw [insertRows]
  split
  · next nothing => exact ⟨nofun, fun h => absurd nothing h.1⟩
  · next some =>
      rw [bind_eq_error]
      refine ⟨fun failed => ⟨some, ?_⟩, fun failed => ?_⟩
      · rcases failed with refused | ⟨_, checked, failed⟩
        · exact .inl refused
        · split at failed
          · cases failed
          · next long => exact .inr ⟨checked, long, (Except.error.inj failed).symm⟩
      · rcases failed.2 with refused | ⟨checked, long, rfl⟩
        · exact .inl refused
        · exact .inr ⟨(), checked, if_neg long⟩

/-- Either there are no rows to put in, or everything below them moves. -/
theorem insertRows_cases (done : s.insertRows start count = .ok s')
    : count = 0 ∧ s' = s ∨ count ≠ 0 ∧ s' = s.shiftRows start count := by
  rcases insertRows_eq_ok.mp done with unchanged | ⟨some, -, -, moved⟩
  · exact .inl unchanged
  · exact .inr ⟨some, moved⟩

end Sheet

end Spreadsheet
