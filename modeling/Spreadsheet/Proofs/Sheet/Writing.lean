import Spreadsheet.Proofs.Sheet.Bounds

/-! The effect of writing one cell of a sheet, seen from all positions.
-/

namespace Spreadsheet.Sheet

open Spreadsheet.Cell

/-- The cell at a position gets a value and a style, and nothing else of the sheet changes. -/
structure Writes (row column : Nat) (value : Value) (style : Style) (s s' : Sheet) : Prop where
  rest : s' = { s with cells := s'.cells }
  sound : s'.cells.Sound
  value : ∀ r c, s'.value r c = if row = r ∧ column = c then value else s.value r c
  style : ∀ r c, s'.style r c = if row = r ∧ column = c then style else s.style r c
  inBounds : s.cells.InBounds → s'.cells.InBounds

namespace Writes

variable {s s' t : Sheet} {row column : Nat} {v v' : Value} {style style' : Style}

/-- Leaving a cell as it is writes what it shows. -/
theorem refl (sound : s.cells.Sound) (row column : Nat)
    : Writes row column (s.value row column) (s.style row column) s s where
  rest := rfl
  sound := sound
  value r c := by
    split
    · next here => rw [here.1, here.2]
    · rfl
  style r c := by
    split
    · next here => rw [here.1, here.2]
    · rfl
  inBounds := id

theorem of_setValue (sound : s.cells.Sound) (done : s.setValue row column v = .ok s')
    : Writes row column v (s.style row column) s s' := by
  obtain ⟨place, rfl⟩ := setValue_eq_ok.mp done
  refine ⟨rfl, sound.setValue row column v, Grid.value_setValue s.cells row column v, ?_, ?_⟩
  · intro r c
    split
    · next here =>
        obtain ⟨rfl, rfl⟩ := here
        exact Grid.style_setValue s.cells row column v row column
    · exact Grid.style_setValue s.cells row column v r c
  · exact fun inside => inside.update place _

theorem of_setStyle (sound : s.cells.Sound) (done : s.setStyle row column style = .ok s')
    : Writes row column (s.value row column) style s s' := by
  obtain ⟨place, rfl⟩ := setStyle_eq_ok.mp done
  refine ⟨rfl, sound.setStyle row column style, ?_, sound.style_setStyle row column style, ?_⟩
  · intro r c
    split
    · next here =>
        obtain ⟨rfl, rfl⟩ := here
        exact Grid.value_setStyle s.cells row column style row column
    · exact Grid.value_setStyle s.cells row column style r c
  · intro inside
    have inside : ({ s.cells with pool := (s.cells.pool.insert style).2 } : Grid).InBounds := inside
    exact inside.update place _

/-- The last of two writings to one cell counts. -/
theorem trans (first : Writes row column v style s t) (second : Writes row column v' style' t s')
    : Writes row column v' style' s s' where
  rest := by rw [second.rest, first.rest]
  sound := second.sound
  value r c := by
    rw [second.value, first.value]
    split <;> rfl
  style r c := by
    rw [second.style, first.style]
    split <;> rfl
  inBounds := second.inBounds ∘ first.inBounds

theorem value_self (w : Writes row column v style s s') : s'.value row column = v := by
  rw [w.value, if_pos ⟨rfl, rfl⟩]

theorem style_self (w : Writes row column v style s s') : s'.style row column = style := by
  rw [w.style, if_pos ⟨rfl, rfl⟩]

/-- Writing a cell keeps a sheet within its limits. -/
theorem allInBounds (w : Writes row column v style s s') (inside : s.AllInBounds)
    : s'.AllInBounds := by
  rw [w.rest]
  exact { inside with cells := w.inBounds inside.cells }

end Writes

end Spreadsheet.Sheet
