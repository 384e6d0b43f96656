import Spreadsheet.Proofs.Build.ReportDecoration
import Spreadsheet.Proofs.Sheet.Confinement
import Spreadsheet.Request.Validate

/-! What stays on its sheet when a workbook is built. Tables keep everything within the limits. A
title moves the whole table down, and that is refused only for cells, settings of rows and merged
ranges; whatever else stands on the last rows is moved off the sheet.
-/

namespace Spreadsheet

open Spreadsheet.Cell Spreadsheet.Sheet

-----------------------------------------------------------------------------------------
-- What putting rows in looks at
-----------------------------------------------------------------------------------------

namespace Sheet

/-- Cells, settings and merged ranges lie within the limits. -/
structure ContentInBounds (s : Sheet) : Prop where
  cells : s.cells.InBounds
  rows : ∀ i ∈ s.rows, i < maxRows
  columns : ∀ i ∈ s.columns, i < maxColumns
  merged : RangesOnSheet s.merged

theorem AllInBounds.content {s : Sheet} (inside : s.AllInBounds) : s.ContentInBounds :=
  ⟨inside.cells, inside.rows, inside.columns, inside.merged⟩

/-- The ranges of filter, rules and validations. -/
def looseRanges (s : Sheet) : List Range :=
  s.filter.toList ++ s.rules.flatMap (·.ranges) ++ s.validations.flatMap (·.ranges)

/-- The rows that putting rows in does not look at: those of filter, rules, validations, charts and
pictures, and of the split.
-/
def looseRows (s : Sheet) : List Nat :=
  s.looseRanges.flatMap (fun r => [r.topLeft.row, r.bottomRight.row]) ++
    s.anchors.flatMap (fun a => [a.topLeft.row, a.bottomRight.row]) ++
    (s.freeze.map (·.rows)).toList

section Insertion

variable {s s' : Sheet} {k : Nat}

/-- Cells, settings and merged ranges are on the sheet when rows have been put in above them. -/
theorem ContentInBounds.of_insertRows (inside : s.AllInBounds) (positive : k ≠ 0)
    (done : s.insertRows 0 k = .ok s')
    : (s.shiftRows 0 k).ContentInBounds := by
  have guarded {row : Nat} (guarded : row ∈ s.guardedRows) : row + k < maxRows :=
    add_lt_of_insertRows positive done guarded (Nat.zero_le row)
  refine ⟨fun row cells moved => ?_, fun row moved => ?_, inside.columns, fun range moved => ?_⟩
  · obtain ⟨i, kept, rfl⟩ := Numbered.exists_of_getElem?_shiftRows moved
    obtain ⟨last, found, upper⟩ := Numbered.exists_lastKey? (Numbered.mem_of_getElem? kept)
    have below : last + k < maxRows :=
      guarded (List.mem_append_left _ (List.mem_append_left _ (Option.mem_toList.mpr found)))
    rw [shiftRow_eq_add]
    exact ⟨by omega, (inside.cells i cells kept).2⟩
  · obtain ⟨i, kept, rfl⟩ := Numbered.exists_of_getElem?_shiftRows
      (Std.ExtTreeMap.getElem?_eq_some_getElem moved)
    have kept := Numbered.mem_of_getElem? kept
    obtain ⟨last, found, upper⟩ := Numbered.exists_lastKey? kept
    have below : last + k < maxRows :=
      guarded (List.mem_append_left _ (List.mem_append_right _ (Option.mem_toList.mpr found)))
    rw [shiftRow_eq_add]
    omega
  · obtain ⟨before, member, rfl⟩ := List.mem_map.mp moved
    have onSheet := inside.merged before member
    have above := inside.descending before member
    have below : before.bottomRight.row + k < maxRows :=
      guarded (List.mem_append_right _ (List.mem_map_of_mem member))
    rw [Range.shiftRows_eq_down]
    exact ⟨⟨Nat.lt_of_le_of_lt (Nat.add_le_add_right above k) below, onSheet.topLeft.column⟩,
      ⟨below, onSheet.bottomRight.column⟩⟩

/-- A sheet is within its limits just if its content is and all else is. -/
theorem allInBounds_iff
    : s.AllInBounds
      ↔ s.ContentInBounds ∧ (∀ r ∈ s.merged, r.topLeft.row ≤ r.bottomRight.row)
        ∧ (∀ r ∈ s.looseRanges, r.OnSheet) ∧ (∀ a ∈ s.anchors, a.OnSheet)
        ∧ ∀ f, s.freeze = some f → f.topLeftCell.OnSheet := by
  constructor
  · intro inside
    refine ⟨inside.content, inside.descending, fun r loose => ?_, fun a placed => ?_, inside.freeze⟩
    · simp only [looseRanges, List.mem_append, Option.mem_toList, List.mem_flatMap] at loose
      rcases loose with (filtered | ⟨rule, member, placed⟩) | ⟨v, member, placed⟩
      · exact inside.filter r filtered
      · exact inside.rules rule member r placed
      · exact inside.validations v member r placed
    · simp only [anchors, List.mem_append, List.mem_map] at placed
      rcases placed with ⟨chart, member, rfl⟩ | ⟨picture, member, rfl⟩
      · exact inside.charts chart member
      · exact inside.pictures picture member
  · rintro ⟨content, descending, ranges, anchors, split⟩
    exact {
      cells := content.cells
      rows := content.rows
      merged := content.merged
      freeze := split
      filter := fun r filtered => ranges r (by simp [looseRanges, filtered])
      columns := content.columns
      descending := descending
      rules := fun rule member r placed => ranges r <|
        List.mem_append_left _ (List.mem_append_right _ (List.mem_flatMap_of_mem member placed))
      validations := fun v member r placed => ranges r <|
        List.mem_append_right _ (List.mem_flatMap_of_mem member placed)
      charts := fun chart member => anchors _ (mem_anchors_of_chart member)
      pictures := fun picture member => anchors _ (mem_anchors_of_picture member)
    }

theorem RestDown.looseRanges (down : RestDown k s s')
    : s'.looseRanges = s.looseRanges.map (·.down k) := by
  simp only [Sheet.looseRanges, down.filter, down.rules, down.validations, List.map_append,
    List.flatMap_map, List.map_flatMap, Option.toList_map]

theorem RestDown.anchors (down : RestDown k s s')
    : s'.anchors = s.anchors.map (·.down k) := by
  simp only [Sheet.anchors, down.charts, down.pictures, List.map_append, List.map_map]
  rfl

theorem Range.down_onSheet_iff {r : Range} (inside : r.OnSheet)
    : (r.down k).OnSheet ↔ r.topLeft.row + k < maxRows ∧ r.bottomRight.row + k < maxRows := by
  constructor
  · intro moved
    exact ⟨moved.topLeft.row, moved.bottomRight.row⟩
  · rintro ⟨first, last⟩
    exact ⟨⟨first, inside.topLeft.column⟩, ⟨last, inside.bottomRight.column⟩⟩

theorem Anchor.down_onSheet_iff {a : Anchor} (inside : a.OnSheet)
    : (a.down k).OnSheet ↔ a.topLeft.row + k < maxRows ∧ a.bottomRight.row + k < maxRows := by
  constructor
  · intro moved
    exact ⟨moved.topLeft.row, moved.bottomRight.row⟩
  · rintro ⟨first, last⟩
    exact ⟨⟨first, inside.topLeft.column⟩, ⟨last, inside.bottomRight.column⟩⟩

/-- A split that keeps no rows in view does not move. -/
theorem Freeze.down_onSheet_iff {f : Freeze} (inside : f.topLeftCell.OnSheet) (few : k < maxRows)
    : (f.down k).topLeftCell.OnSheet ↔ f.rows + k < maxRows := by
  have row : (f.down k).rows < maxRows ↔ f.rows + k < maxRows := by
    simp only [Freeze.down]
    split <;> omega
  exact ⟨fun moved => row.mp moved.row, fun low => ⟨row.mpr low, inside.column⟩⟩

theorem forall_mem_looseRows {p : Nat → Prop}
    : (∀ row ∈ s.looseRows, p row)
      ↔ (∀ r ∈ s.looseRanges, p r.topLeft.row ∧ p r.bottomRight.row)
        ∧ (∀ a ∈ s.anchors, p a.topLeft.row ∧ p a.bottomRight.row)
        ∧ ∀ f, s.freeze = some f → p f.rows := by
  simp only [looseRows, List.forall_mem_append, List.forall_mem_flatMap, List.forall_mem_cons,
    List.not_mem_nil, false_implies, implies_true, and_true, and_assoc, Option.mem_toList,
    Option.map_eq_some_iff, forall_exists_index, and_imp, forall_apply_eq_imp_iff₂]

/-- Of a table that moves down everything stays on the sheet just if its cells, settings and merged
ranges do and nothing else stands too low.
-/
theorem RestDown.allInBounds_iff (inside : s.AllInBounds) (down : RestDown k s s')
    (few : k < maxRows) (content : s'.ContentInBounds)
    (descending : ∀ r ∈ s'.merged, r.topLeft.row ≤ r.bottomRight.row)
    : s'.AllInBounds ↔ ∀ row ∈ s.looseRows, row + k < maxRows := by
  obtain ⟨-, -, ranges, anchors, split⟩ := Sheet.allInBounds_iff.mp inside
  rw [Sheet.allInBounds_iff, forall_mem_looseRows, down.looseRanges, down.anchors, down.freeze]
  refine (and_iff_right content).trans ((and_iff_right descending).trans ?_)
  simp only [List.forall_mem_map, Option.map_eq_some_iff, forall_exists_index, and_imp,
    forall_apply_eq_imp_iff₂]
  refine and_congr ?_ (and_congr ?_ ?_)
  · exact forall₂_congr fun r loose => Range.down_onSheet_iff (ranges r loose)
  · exact forall₂_congr fun a placed => Anchor.down_onSheet_iff (anchors a placed)
  · exact forall₂_congr fun f frozen => Freeze.down_onSheet_iff (split f frozen) few

/-- A row that moves down by fewer rows than a sheet has keeps a number. -/
theorem Address.down_isNumbered {a : Address} (onSheet : a.OnSheet) (few : k < maxRows)
    : (a.down k).IsNumbered := by
  have row := onSheet.row
  have wide : 2 * maxRows < rowNumberLimit := by decide
  simp only [Address.IsNumbered, Address.rowNumber, Address.down]
  omega

/-- A table that moves down by fewer rows than a sheet has can be written. -/
theorem RestDown.isNumbered (inside : s.AllInBounds) (down : RestDown k s s') (few : k < maxRows)
    (content : s'.ContentInBounds)
    : s'.IsNumbered := by
  obtain ⟨-, -, ranges, -, split⟩ := Sheet.allInBounds_iff.mp inside
  have all : s'.ranges = s'.merged ++ s'.looseRanges := by
    simp only [Sheet.ranges, Sheet.looseRanges, List.append_assoc]
  rw [Sheet.IsNumbered, all, List.forall_mem_append, down.looseRanges, List.forall_mem_map,
    down.freeze]
  refine ⟨⟨fun r member => (content.merged r member).isNumbered, fun r loose => ?_⟩, ?_⟩
  · have onSheet := ranges r loose
    rw [Range.IsNumbered, Range.corners, List.forall_mem_cons, List.forall_mem_singleton]
    exact ⟨Address.down_isNumbered onSheet.topLeft few,
      Address.down_isNumbered onSheet.bottomRight few⟩
  · intro _ lowered
    obtain ⟨f, frozen, rfl⟩ := Option.map_eq_some_iff.mp lowered
    have moved := Address.down_isNumbered (split f frozen) few
    simp only [Address.IsNumbered, Address.rowNumber, Address.down, Freeze.topLeftCell,
      Freeze.down] at moved ⊢
    split <;> omega

end Insertion

end Sheet

namespace Build

open Spreadsheet.Request

variable {spec : SheetSpec} {s t u : Sheet}

-----------------------------------------------------------------------------------------
-- Reports
-----------------------------------------------------------------------------------------

/-- The title takes rows that are on every sheet, and so do its merged ranges. -/
theorem TitledOver.contentInBounds {today : Time.Date} {title : String}
    (headed : TitledOver today spec title u t) (content : u.ContentInBounds)
    : t.ContentInBounds := by
  have rows : t.rows = u.rows := by rw [headed.rest]
  have columns : t.columns = u.columns := by rw [headed.rest]
  refine ⟨headed.inBounds content.cells, rows ▸ content.rows, columns ▸ content.columns, ?_⟩
  rw [headed.merged]
  intro range member
  rcases List.mem_append.mp member with old | new
  · exact content.merged range old
  · exact headed.onSheet range new

/-- A table that can be given stripes and a title keeps its content on the sheet. -/
theorem decorate_contentInBounds {today : Time.Date} (sound : s.cells.Sound)
    (inside : s.AllInBounds) (done : decorate today spec s = .ok t)
    : t.ContentInBounds := by
  obtain ⟨u, stripes, titling⟩ := bind_eq_ok.mp done
  have striped := stripeRows_stripedTo sound stripes
  have inside := striped.inBounds inside
  split at titling
  · cases titling
    exact inside.content
  · next title titled =>
      have inserted := (exists_of_writeTitle titling).1
      have content := ContentInBounds.of_insertRows inside (by decide) inserted
      exact (writeTitle_titledOver striped.sound titling).contentInBounds content

theorem IsReport.descending {today : Time.Date} (isReport : IsReport today spec s t)
    (inside : s.AllInBounds)
    : ∀ r ∈ t.merged, r.topLeft.row ≤ r.bottomRight.row := by
  rw [isReport.merged]
  intro r member
  rcases List.mem_append.mp member with old | new
  · obtain ⟨before, merged, rfl⟩ := List.mem_map.mp old
    exact Nat.add_le_add_right (inside.descending before merged) _
  · split at new
    · simp only [titleRanges] at new
      split at new
      · cases new
      · rcases List.mem_pair.mp new with rfl | rfl <;> exact Nat.le_refl _
    · cases new

theorem rowsAbove_lt (spec : SheetSpec) : rowsAbove spec < maxRows := by
  rw [rowsAbove]
  split <;> decide

/-- How a sheet stays within its limits, by its layout: a table with everything, a report with its
content, and with all else just if the title moves nothing past the last row.
-/
def StaysOnSheet (setting : Setting) (spec : SheetSpec) (t : Sheet) : Generator → Prop
  | .table => t.AllInBounds
  | .report =>
    ∃ s, (tableSheet setting.can spec).result = .ok s ∧ s.AllInBounds ∧ t.ContentInBounds
      ∧ (t.AllInBounds ↔ ∀ row ∈ s.looseRows, row + rowsAbove spec < maxRows)

theorem StaysOnSheet.content {setting : Setting} {generator : Generator}
    (stays : StaysOnSheet setting spec t generator)
    : t.ContentInBounds := by
  cases generator with
  | table => exact AllInBounds.content stays
  | report =>
      obtain ⟨_, _, _, content, _⟩ := stays
      exact content

theorem sheet_staysOnSheet {setting : Setting} {generator : Generator}
    (built : (sheet setting generator spec).result = .ok t)
    : StaysOnSheet setting spec t generator := by
  cases generator with
  | table => exact (tableSheet_builtTable built).inBounds
  | report =>
      obtain ⟨s, table, decorated⟩ := Logged.bind_result_eq_ok.mp built
      have finished := tableSheet_builtTable table
      have isReport := decorate_isReport finished.sound decorated
      have content := decorate_contentInBounds finished.sound finished.inBounds decorated
      exact ⟨s, table, finished.inBounds, content, isReport.toRestDown.allInBounds_iff
        finished.inBounds (rowsAbove_lt spec) content (isReport.descending finished.inBounds)⟩

/-- On every sheet of a workbook that is built cells, settings and merged ranges lie within the
limits. So does all the rest of a table, and all the rest of a report of which no range, anchor or
split is moved past the last row by the title.
-/
theorem workbookIn_staysOnSheet {setting : Setting} {generator : Generator} {r : Request}
    {w : Workbook} (built : (workbookIn setting generator r).result = .ok w)
    : List.Forall₂ (fun spec t => StaysOnSheet setting spec t generator) r.sheets w.sheets := by
  obtain ⟨w₁, added, done⟩ := Logged.bind_result_eq_ok.mp built
  cases done
  obtain ⟨sheets, same, sheetsBuilt⟩ := addSheets_built added
  rw [same]
  exact sheetsBuilt.imp fun _ _ built => sheet_staysOnSheet built

/-- The sample of a table with a title has nothing on its last rows. -/
theorem workbookIn_staysOnSheet_sampleReport
    : ∃ w, (workbookIn sampleSetting .report ⟨"sales.xlsx", [sampleReport], none, none⟩).result
          = .ok w
        ∧ List.Forall₂ (fun spec t => StaysOnSheet sampleSetting spec t .report) [sampleReport]
          w.sheets := by
  obtain ⟨w, built⟩ := exists_of_isOk
    (x := (workbookIn sampleSetting .report ⟨"sales.xlsx", [sampleReport], none, none⟩).result)
    (by decide +kernel)
  exact ⟨w, built, workbookIn_staysOnSheet built⟩

/-- A report with a title and a rule for a whole column. -/
def wholeColumnRequest : Json.Value :=
  .object
    [("file_name", .string "r.xlsx"),
      ("sheets",
        .array
          [.object
            [("columns", .array [.object [("header", .string "H"), ("key", .string "k")]]),
              ("data", .array [.object [("k", .int 1)]]),
              ("formatting",
                .object
                  [("conditional_formatting",
                      .array
                        [.object
                          [("formulae", .array [.string "A1>0"]), ("range", .string "A1:A1048576"),
                            ("type", .string "expression")]])]),
              ("layout", .string "report"),
              ("metadata", .object [("title", .string "T")]),
              ("name", .string "S")]])]

theorem eq_ok_of_toOption {x : Except ε α} {a : α} (some : x.toOption = some a) : x = .ok a := by
  cases x with
  | error e => cases some
  | ok b =>
      cases some
      rfl

/-- Some rule of the sheet is for cells below the last row. -/
def hasRuleOffSheet (s : Sheet) : Bool :=
  s.rules.any fun rule => rule.ranges.any fun range => decide (maxRows ≤ range.bottomRight.row)

/-- The title moves the rule for a whole column past the last row. -/
theorem workbookIn_wholeColumn_off_sheet
    : ∃ r w t, Request.validate wholeColumnRequest = .ok r
        ∧ (workbookIn sampleSetting .report r).result = .ok w ∧ w.sheets = [t]
        ∧ hasRuleOffSheet t ∧ ¬ t.AllInBounds := by
  have found : ((Request.validate wholeColumnRequest).toOption.bind fun r =>
      (workbookIn sampleSetting .report r).result.toOption.map fun w =>
        w.sheets.map hasRuleOffSheet) = some [true] := by
    decide +kernel
  obtain ⟨r, valid, found⟩ := Option.bind_eq_some_iff.mp found
  obtain ⟨w, built, found⟩ := Option.map_eq_some_iff.mp found
  obtain ⟨t, sheets, off⟩ := List.map_eq_singleton_iff.mp found
  refine ⟨r, w, t, eq_ok_of_toOption valid, eq_ok_of_toOption built, sheets, off, fun inside => ?_⟩
  obtain ⟨rule, member, off⟩ := List.any_eq_true.mp off
  obtain ⟨range, placed, off⟩ := List.any_eq_true.mp off
  have below := (inside.rules rule member range placed).bottomRight.row
  exact Nat.not_le.mpr below (of_decide_eq_true off)

end Build

end Spreadsheet
