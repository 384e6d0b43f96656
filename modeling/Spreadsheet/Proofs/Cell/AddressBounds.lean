import Spreadsheet.Cell.Range

/-! Addresses and ranges that are read from a text lie on a sheet.
-/

namespace Spreadsheet

-----------------------------------------------------------------------------------------
-- Results of steps
-----------------------------------------------------------------------------------------

/-- Two steps succeed if the first does and the second does with its result. -/
theorem bind_eq_ok {x : Except ε α} {f : α → Except ε β} {b : β}
    : (x >>= f) = .ok b ↔ ∃ a, x = .ok a ∧ f a = .ok b := by
  cases x with
  | error e => exact ⟨nofun, nofun⟩
  | ok a => simp [bind, Except.bind]

/-- Two steps fail if the first does, or the second does with its result. -/
theorem bind_eq_error {x : Except ε α} {f : α → Except ε β} {e : ε}
    : (x >>= f) = .error e ↔ x = .error e ∨ ∃ a, x = .ok a ∧ f a = .error e := by
  cases x <;> simp [bind, Except.bind]

theorem map_eq_ok {x : Except ε α} {f : α → β} {b : β}
    : x.map f = .ok b ↔ ∃ a, x = .ok a ∧ f a = b := by
  cases x <;> simp [Except.map]

/-- The words for a failure do not matter to a success. -/
theorem mapError_eq_ok {x : Except ε α} {f : ε → ε'} {a : α}
    : x.mapError f = .ok a ↔ x = .ok a := by
  cases x with
  | error e => exact ⟨nofun, nofun⟩
  | ok b =>
      constructor
      · intro same
        cases same
        rfl
      · intro same
        cases same
        rfl

theorem exists_of_isOk {x : Except ε α} (h : x.isOk) : ∃ a, x = .ok a := by
  cases x with
  | error e => cases h
  | ok a => exact ⟨a, rfl⟩

namespace Cell

-----------------------------------------------------------------------------------------
-- Addresses
-----------------------------------------------------------------------------------------

/-- The position is one of a sheet. -/
structure Address.OnSheet (a : Address) : Prop where
  row : a.row < maxRows
  column : a.column < maxColumns

/-- The number of a row of a sheet fits in its word. -/
theorem Address.OnSheet.isNumbered {a : Address} (onSheet : a.OnSheet) : a.IsNumbered :=
  Nat.lt_of_le_of_lt (Nat.succ_le_of_lt onSheet.row) (by decide)

theorem Address.check_eq_ok {a : Address} : a.check = .ok () ↔ a.OnSheet := by
  simp only [check]
  split
  · next outside => exact ⟨nofun, fun h => absurd h.row (Nat.not_lt.mpr outside)⟩
  · split
    · next outside => exact ⟨nofun, fun h => absurd h.column (Nat.not_lt.mpr outside)⟩
    · next row column => exact ⟨fun _ => ⟨Nat.not_le.mp row, Nat.not_le.mp column⟩, fun _ => rfl⟩

theorem rowIndex_lt {number row : Nat} (h : rowIndex number = .ok row) : row < maxRows := by
  simp only [rowIndex] at h
  split at h
  · cases h
  · split at h
    · cases h
    · next inside =>
        cases h
        exact Nat.not_le.mp inside

/-- Letters that are read name a column of a sheet, by induction on the letters. -/
theorem lettersValue_le {n value : Nat} {letters : List Char}
    (h : lettersValue n letters = .ok value) (start : n ≤ maxColumns)
    : value ≤ maxColumns := by
  induction letters generalizing n with
  | nil =>
      cases h
      exact start
  | cons c rest ih =>
      simp only [lettersValue] at h
      split at h
      · cases h
      · split at h
        · cases h
        · next inside => exact ih h (Nat.not_lt.mp inside)

theorem columnIndex_lt {letters : String} {column : Nat} (h : columnIndex letters = .ok column)
    : column < maxColumns := by
  simp only [columnIndex] at h
  split at h
  · cases h
  · obtain ⟨value, read, rfl⟩ := map_eq_ok.mp h
    have := lettersValue_le read (Nat.zero_le _)
    simp only [maxColumns] at this ⊢
    omega

theorem Address.parse_onSheet {s : String} {a : Address} (h : parse s = .ok a) : a.OnSheet := by
  simp only [parse] at h
  split at h
  · cases h
  split at h
  · cases h
  split at h
  · cases h
  obtain ⟨column, columnRead, h⟩ := bind_eq_ok.mp h
  split at h
  · cases h
  · obtain ⟨row, rowRead, h⟩ := bind_eq_ok.mp h
    cases h
    exact ⟨rowIndex_lt rowRead, columnIndex_lt columnRead⟩

-----------------------------------------------------------------------------------------
-- Ranges
-----------------------------------------------------------------------------------------

namespace Range

/-- Both corners of the range are positions of a sheet. -/
structure OnSheet (r : Range) : Prop where
  topLeft : r.topLeft.OnSheet
  bottomRight : r.bottomRight.OnSheet

/-- The numbers of both rows fit in their words. -/
theorem OnSheet.isNumbered {r : Range} (onSheet : r.OnSheet) : r.IsNumbered := by
  rw [IsNumbered, corners, List.forall_mem_cons, List.forall_mem_singleton]
  exact ⟨onSheet.topLeft.isNumbered, onSheet.bottomRight.isNumbered⟩

theorem ofCorners_onSheet {a b : Address} (ha : a.OnSheet) (hb : b.OnSheet)
    : (ofCorners a b).OnSheet where
  topLeft := ⟨Nat.lt_of_le_of_lt (Nat.min_le_left _ _) ha.row,
    Nat.lt_of_le_of_lt (Nat.min_le_left _ _) ha.column⟩
  bottomRight := ⟨Nat.max_lt.mpr ⟨ha.row, hb.row⟩, Nat.max_lt.mpr ⟨ha.column, hb.column⟩⟩

theorem parse_onSheet {s : String} {r : Range} (h : parse s = .ok r) : r.OnSheet := by
  simp only [parse] at h
  split at h
  · obtain ⟨a, read, h⟩ := bind_eq_ok.mp h
    cases h
    have onSheet := Address.parse_onSheet (mapError_eq_ok.mp read)
    exact ⟨onSheet, onSheet⟩
  · obtain ⟨a, readA, h⟩ := bind_eq_ok.mp h
    obtain ⟨b, readB, h⟩ := bind_eq_ok.mp h
    cases h
    exact ofCorners_onSheet (Address.parse_onSheet (mapError_eq_ok.mp readA))
      (Address.parse_onSheet (mapError_eq_ok.mp readB))
  · cases h

/-- Ranges are read with their rows in order. -/
theorem parse_descending {s : String} {r : Range} (h : parse s = .ok r)
    : r.topLeft.row ≤ r.bottomRight.row := by
  simp only [parse] at h
  split at h
  · obtain ⟨a, -, h⟩ := bind_eq_ok.mp h
    cases h
    exact Nat.le_refl _
  · obtain ⟨a, -, h⟩ := bind_eq_ok.mp h
    obtain ⟨b, -, h⟩ := bind_eq_ok.mp h
    cases h
    exact Nat.le_trans (Nat.min_le_left _ _) (Nat.le_max_left _ _)
  · cases h

end Range

end Cell

end Spreadsheet
