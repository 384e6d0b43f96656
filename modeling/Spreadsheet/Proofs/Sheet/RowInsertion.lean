import Spreadsheet.Proofs.Sheet.MergedRanges

/-! Rows that are put in push everything below them down, and nothing else happens.
-/

namespace Spreadsheet

open Spreadsheet.Cell

-----------------------------------------------------------------------------------------
-- Rows, addresses and ranges
-----------------------------------------------------------------------------------------

namespace Cell

/-- Where a row stands after `count` rows are put in above row `start`. -/
def pushedRow (start count row : Nat) : Nat := if row < start then row else row + count

section Rows

variable {start count more row : Nat}

theorem shiftRow_eq_pushedRow : shiftRow start count row = pushedRow start count row := by
  rw [shiftRow, pushedRow]
  split <;> split <;> omega

/-- Pushing keeps the order of rows, and no two of them come to the same place. -/
theorem pushedRow_le_pushedRow {a b : Nat}
    : pushedRow start count a ≤ pushedRow start count b ↔ a ≤ b := by
  simp only [pushedRow]
  split <;> split <;> omega

theorem shiftRow_zero : shiftRow start 0 row = row := by
  simp [shiftRow]

/-- Putting rows in twice at one place moves as far as putting them in at once. -/
theorem shiftRow_shiftRow
    : shiftRow start more (shiftRow start count row) = shiftRow start (count + more) row := by
  by_cases moved : start ≤ row
  · have again : start ≤ row + count := by omega
    simp only [shiftRow, moved, again, if_true, Nat.add_assoc]
  · simp only [shiftRow, moved, if_false]

end Rows

namespace Numbered

variable {start count : Nat}

theorem getElem?_shiftRows_pushedRow (m : Numbered α) (start count row : Nat)
    : (m.shiftRows start count)[pushedRow start count row]? = m[row]? := by
  rw [getElem?_shiftRows]
  by_cases above : row < start
  · simp only [pushedRow, above, if_true]
  · simp only [pushedRow, above, if_false]
    rw [if_neg (by omega), if_neg (by omega), Nat.add_sub_cancel]

/-- Nothing stands in the rows that are put in. -/
theorem getElem?_shiftRows_between (m : Numbered α) {row : Nat} (lower : start ≤ row)
    (upper : row < start + count)
    : (m.shiftRows start count)[row]? = none := by
  rw [getElem?_shiftRows, if_neg (Nat.not_lt.mpr lower), if_pos upper]

theorem shiftRows_zero (m : Numbered α) (start : Nat) : m.shiftRows start 0 = m := by
  apply Std.ExtTreeMap.ext_getElem?
  intro row
  rw [getElem?_shiftRows]
  split
  · rfl
  · next above => rw [Nat.add_zero, if_neg above, Nat.sub_zero]

theorem shiftRows_shiftRows (m : Numbered α) (start count more : Nat)
    : (m.shiftRows start count).shiftRows start more = m.shiftRows start (count + more) := by
  apply Std.ExtTreeMap.ext_getElem?
  intro row
  simp only [getElem?_shiftRows]
  by_cases above : row < start
  · simp only [above, if_true]
  by_cases early : row < start + more
  · simp only [above, early, if_false, if_true]
    rw [if_pos (by omega)]
  · simp only [above, early, if_false]
    by_cases late : row < start + (count + more)
    · rw [if_neg (by omega), if_pos (by omega), if_pos late]
    · rw [if_neg (by omega), if_neg (by omega), if_neg late]
      congr 1
      omega

end Numbered

section Pushed

variable {start count more : Nat}

def Address.pushed (start count : Nat) (a : Address) : Address :=
  ⟨pushedRow start count a.row, a.column⟩

def Range.pushed (start count : Nat) (r : Range) : Range :=
  ⟨r.topLeft.pushed start count, r.bottomRight.pushed start count⟩

theorem Address.shiftRows_eq_pushed (a : Address)
    : a.shiftRows start count = a.pushed start count := by
  rw [Address.shiftRows, shiftRow_eq_pushedRow]
  rfl

theorem Range.shiftRows_eq_pushed (r : Range)
    : r.shiftRows start count = r.pushed start count := by
  rw [Range.shiftRows, Address.shiftRows_eq_pushed, Address.shiftRows_eq_pushed]
  rfl

theorem Address.shiftRows_zero (a : Address) : a.shiftRows start 0 = a := by
  rw [Address.shiftRows, shiftRow_zero]

theorem Range.shiftRows_zero (r : Range) : r.shiftRows start 0 = r := by
  rw [Range.shiftRows, Address.shiftRows_zero, Address.shiftRows_zero]

theorem Address.shiftRows_shiftRows (a : Address)
    : (a.shiftRows start count).shiftRows start more = a.shiftRows start (count + more) := by
  simp only [Address.shiftRows, shiftRow_shiftRow]

theorem Range.shiftRows_shiftRows (r : Range)
    : (r.shiftRows start count).shiftRows start more = r.shiftRows start (count + more) := by
  simp only [Range.shiftRows, Address.shiftRows_shiftRows]

/-- The upper left corner stays the upper left one. -/
theorem Range.normalized_pushed {r : Range} (ordered : r.normalized = r)
    : (r.pushed start count).normalized = r.pushed start count := by
  obtain ⟨⟨top, left⟩, ⟨bottom, right⟩⟩ := r
  simp only [normalized, ofCorners, Range.mk.injEq, Address.mk.injEq] at ordered
  have down : pushedRow start count top ≤ pushedRow start count bottom :=
    pushedRow_le_pushedRow.mpr (by omega)
  simp only [normalized, ofCorners, pushed, Address.pushed, Nat.min_eq_left down,
    Nat.max_eq_right down, ordered]

/-- Ranges that are pushed overlap just if they did before. -/
theorem Range.overlaps_pushed (r s : Range)
    : (r.pushed start count).overlaps (s.pushed start count) = r.overlaps s := by
  rw [Bool.eq_iff_iff]
  simp only [overlaps, Bool.and_eq_true, decide_eq_true_eq]
  simp only [pushed, Address.pushed, pushedRow_le_pushedRow]

end Pushed

end Cell

namespace Sheet

open Cell

def Anchor.pushed (start count : Nat) (a : Anchor) : Anchor :=
  ⟨a.topLeft.pushed start count, a.bottomRight.pushed start count⟩

/-- The row stays in view. -/
def IsFrozen (s : Sheet) (row : Nat) : Prop := ∃ f, s.freeze = some f ∧ row < f.rows

/-- The second sheet is the first one with `count` rows put in above row `start`. -/
structure RowsInserted (start count : Nat) (s s' : Sheet) : Prop where
  name : s'.name = s.name
  value : ∀ row column, s'.value (pushedRow start count row) column = s.value row column
  style : ∀ row column, s'.style (pushedRow start count row) column = s.style row column
  noCells
    : ∀ row, start ≤ row → row < start + count → ∀ column, s'.cells.entry? row column = none
  setting : ∀ row, s'.rows[pushedRow start count row]? = s.rows[row]?
  noSetting : ∀ row, start ≤ row → row < start + count → s'.rows[row]? = none
  merged : s'.merged = s.merged.map (·.pushed start count)
  filter : s'.filter = s.filter.map (·.pushed start count)
  rules
    : s'.rules = s.rules.map fun r => { r with ranges := r.ranges.map (·.pushed start count) }
  validations
    : s'.validations
        = s.validations.map fun v => { v with ranges := v.ranges.map (·.pushed start count) }
  charts
    : s'.charts = s.charts.map fun c => { c with anchor := c.anchor.pushed start count }
  pictures
    : s'.pictures = s.pictures.map fun p => { p with anchor := p.anchor.pushed start count }
  ordered
    : ∀ r ∈ s.ranges, r.normalized = r → (r.pushed start count).normalized = r.pushed start count
  overlaps
    : ∀ a ∈ s.ranges, ∀ b ∈ s.ranges,
        (a.pushed start count).overlaps (b.pushed start count) = a.overlaps b
  frozen : ∀ row, s'.IsFrozen (pushedRow start count row) ↔ s.IsFrozen row
  frozenColumns : s'.freeze.map (·.columns) = s.freeze.map (·.columns)
  columns : s'.columns = s.columns
  page : s'.page = s.page
  headerFooter : s'.headerFooter = s.headerFooter
  protection : s'.protection = s.protection

section Insertion

variable {s s' : Sheet} {start count : Nat}

theorem mem_anchors_of_chart {chart : Chart} (member : chart ∈ s.charts)
    : chart.anchor ∈ s.anchors :=
  List.mem_append_left _ (List.mem_map_of_mem member)

theorem mem_anchors_of_picture {picture : Picture} (member : picture ∈ s.pictures)
    : picture.anchor ∈ s.anchors :=
  List.mem_append_right _ (List.mem_map_of_mem member)

-----------------------------------------------------------------------------------------
-- What is moved along
-----------------------------------------------------------------------------------------

theorem Anchor.shiftRows_eq_pushed (a : Anchor)
    : a.shiftRows start count = a.pushed start count := by
  rw [Anchor.shiftRows, Address.shiftRows_eq_pushed, Address.shiftRows_eq_pushed]
  rfl

theorem Anchor.shiftRows_zero (a : Anchor) : a.shiftRows start 0 = a := by
  rw [Anchor.shiftRows, Address.shiftRows_zero, Address.shiftRows_zero]

theorem Anchor.shiftRows_shiftRows (a : Anchor) (start count more : Nat)
    : (a.shiftRows start count).shiftRows start more = a.shiftRows start (count + more) := by
  simp only [Anchor.shiftRows, Address.shiftRows_shiftRows]

theorem Freeze.shiftRows_zero (f : Freeze) (start : Nat) : f.shiftRows start 0 = f := by
  simp [Freeze.shiftRows]

theorem Freeze.shiftRows_shiftRows (f : Freeze) (start count more : Nat)
    : (f.shiftRows start count).shiftRows start more = f.shiftRows start (count + more) := by
  by_cases inside : start < f.rows
  · have still : start < f.rows + count := by omega
    simp only [Freeze.shiftRows, inside, still, if_true, Nat.add_assoc]
  · simp only [Freeze.shiftRows, inside, if_false]

/-- Rows that a split keeps in view are pushed within it, and rows below it stay below it. -/
theorem Freeze.pushedRow_lt_shiftRows {f : Freeze} {row : Nat}
    : pushedRow start count row < (f.shiftRows start count).rows ↔ row < f.rows := by
  simp only [Freeze.shiftRows, pushedRow]
  split <;> split <;> omega

/-- No rows push nothing. -/
theorem shiftRows_zero (s : Sheet) (start : Nat) : s.shiftRows start 0 = s := by
  simp only [shiftRows, Grid.shiftRows, Numbered.shiftRows_zero, Range.shiftRows_zero,
    Freeze.shiftRows_zero, Rule.shiftRows, Validation.shiftRows, Chart.shiftRows,
    Picture.shiftRows, Anchor.shiftRows_zero, List.map_id_fun', Option.map_id_fun', id]

/-- Putting rows in twice at one place moves everything as putting them in at once does. -/
theorem shiftRows_shiftRows (s : Sheet) (start count more : Nat)
    : (s.shiftRows start count).shiftRows start more = s.shiftRows start (count + more) := by
  simp only [shiftRows, Grid.shiftRows, Numbered.shiftRows_shiftRows, Rule.shiftRows,
    Validation.shiftRows, Chart.shiftRows, Picture.shiftRows, List.map_map, Option.map_map,
    Function.comp_def, Range.shiftRows_shiftRows, Freeze.shiftRows_shiftRows,
    Anchor.shiftRows_shiftRows]

-----------------------------------------------------------------------------------------
-- Insertion
-----------------------------------------------------------------------------------------

/-- Putting in no rows at all is no exception. -/
theorem insertRows_eq_shiftRows (done : s.insertRows start count = .ok s')
    : s' = s.shiftRows start count := by
  rcases insertRows_cases done with ⟨rfl, rfl⟩ | ⟨-, moved⟩
  · exact (s'.shiftRows_zero start).symm
  · exact moved

theorem RowsInserted.of_shiftRows (s : Sheet) (start count : Nat)
    : RowsInserted start count s (s.shiftRows start count) := by
  have cell (row column : Nat)
      : (s.shiftRows start count).cells.cell (pushedRow start count row) column
        = s.cells.cell row column := by
    simp only [shiftRows, Grid.shiftRows, Grid.cell, Grid.entry?, Grid.row,
      Std.ExtTreeMap.getD_eq_getD_getElem?, Numbered.getElem?_shiftRows_pushedRow]
  have ranges : (fun r : Range => r.shiftRows start count) = (·.pushed start count) :=
    funext Range.shiftRows_eq_pushed
  refine {
    name := rfl
    value := fun row column => by
      rw [Sheet.value, Sheet.value, Grid.value_eq, Grid.value_eq, cell]
    style := fun row column => by
      rw [Sheet.style, Sheet.style, Grid.style_eq, Grid.style_eq, cell]
      rfl
    noCells := fun row lower upper column => ?_
    setting := s.rows.getElem?_shiftRows_pushedRow start count
    noSetting := fun row => s.rows.getElem?_shiftRows_between
    merged := by rw [← ranges]; rfl
    filter := by rw [← ranges]; rfl
    rules := by rw [← ranges]; rfl
    validations := by rw [← ranges]; rfl
    charts := List.map_congr_left fun c _ => by rw [Chart.shiftRows, Anchor.shiftRows_eq_pushed]
    pictures :=
      List.map_congr_left fun p _ => by rw [Picture.shiftRows, Anchor.shiftRows_eq_pushed]
    ordered := fun r _ => Range.normalized_pushed
    overlaps := fun a _ b _ => Range.overlaps_pushed a b
    frozen := fun row => ?_
    frozenColumns := ?_
    columns := rfl
    page := rfl
    headerFooter := rfl
    protection := rfl
  }
  · have nothing := s.cells.rows.getElem?_shiftRows_between lower upper
    simp [shiftRows, Grid.shiftRows, Grid.entry?, Grid.row,
      Std.ExtTreeMap.getD_eq_getD_getElem?, nothing]
  · simp only [IsFrozen, shiftRows, Option.map_eq_some_iff]
    constructor
    · rintro ⟨_, ⟨f, frozen, rfl⟩, above⟩
      exact ⟨f, frozen, Freeze.pushedRow_lt_shiftRows.mp above⟩
    · rintro ⟨f, frozen, above⟩
      exact ⟨_, ⟨f, frozen, rfl⟩, Freeze.pushedRow_lt_shiftRows.mpr above⟩
  · rw [shiftRows, Option.map_map]
    rfl

/-- Rows are put in as they should be, and putting them in at one place in two portions gives the
same sheet as putting them in at once.
-/
theorem insertRows_rowsInserted (done : s.insertRows start count = .ok s')
    : RowsInserted start count s s'
      ∧ ∀ more s₂ s₃, s'.insertRows start more = .ok s₂
          → s.insertRows start (count + more) = .ok s₃
          → s₂ = s₃ := by
  obtain rfl := insertRows_eq_shiftRows done
  refine ⟨.of_shiftRows s start count, fun more s₂ s₃ again once => ?_⟩
  rw [insertRows_eq_shiftRows again, insertRows_eq_shiftRows once, shiftRows_shiftRows]

end Insertion

/-- A header, a hidden row at the place of insertion, a merged range across it and a split. -/
def sampleRows : Sheet where
  name := "Rows"
  cells := (({} : Grid).setValue 0 0 (.text "Header")).setValue 3 1 (.boolean true)
  rows := .single 2 { hidden := true }
  merged := [⟨⟨1, 0⟩, ⟨2, 1⟩⟩]
  freeze := some ⟨1, 0⟩

/-- Two rows and then three are put into the sample, which is the same as five at once. -/
theorem insertRows_sampleRows
    : ∃ s' s₂, sampleRows.insertRows 2 2 = .ok s'
        ∧ RowsInserted 2 2 sampleRows s'
        ∧ s'.insertRows 2 3 = .ok s₂ ∧ sampleRows.insertRows 2 5 = .ok s₂
        ∧ s'.value 5 1 = .boolean true ∧ s'.merged = [⟨⟨1, 0⟩, ⟨4, 1⟩⟩] := by
  have ok {s : Sheet} {count : Nat} (isOk : (s.insertRows 2 count).isOk)
      : s.insertRows 2 count = .ok (s.shiftRows 2 count) := by
    obtain ⟨s', done⟩ := exists_of_isOk isOk
    rw [done, insertRows_eq_shiftRows done]
  have done : sampleRows.insertRows 2 2 = .ok (sampleRows.shiftRows 2 2) := ok (by decide +kernel)
  have again : (sampleRows.shiftRows 2 2).insertRows 2 3
      = .ok ((sampleRows.shiftRows 2 2).shiftRows 2 3) :=
    ok (by decide +kernel)
  have once : sampleRows.insertRows 2 5 = .ok (sampleRows.shiftRows 2 5) := ok (by decide +kernel)
  obtain ⟨inserted, same⟩ := insertRows_rowsInserted done
  have same := same 3 _ _ again once
  refine ⟨_, _, done, inserted, again, same ▸ once, ?_, inserted.merged⟩
  exact (inserted.value 3 1).trans (by decide +kernel)

end Sheet

end Spreadsheet
