import Spreadsheet.Package.Writer
import Spreadsheet.Proofs.Number.DigitReading

/-! The parts of a written package are found by their names, whatever sheets and pictures there
are.
-/

namespace Spreadsheet.Package

open Spreadsheet.Sheet

-----------------------------------------------------------------------------------------
-- Names
-----------------------------------------------------------------------------------------

/-- Texts differ if neither of their beginnings goes on as the other. -/
theorem ne_of_beginnings {head head' s s' : String} (apart : ¬ head.toList <+: head'.toList)
    (apart' : ¬ head'.toList <+: head.toList) (starts : head.toList <+: s.toList)
    (starts' : head'.toList <+: s'.toList)
    : s ≠ s' := by
  rintro rfl
  exact (List.prefix_or_prefix_of_prefix starts starts').elim apart apart'

/-- The beginning of a text is one. -/
theorem prefix_append (head rest : String) : head.toList <+: (head ++ rest).toList := by
  rw [String.toList_append]
  exact List.prefix_append _ _

theorem relationshipId_injective {m n : Nat} (same : relationshipId m = relationshipId n)
    : m = n := by
  have texts := congrArg String.toList same
  simp only [relationshipId, String.toList_append, List.append_cancel_left_eq,
    String.toList_inj] at texts
  exact Number.repr_injective texts

/-- The name of the part of the sheet at a position. -/
def sheetPath (index : Nat) : String := "xl/worksheets/" ++ sheetFile (index + 1)

theorem sheetPath_injective {i j : Nat} (same : sheetPath i = sheetPath j) : i = j := by
  have texts := congrArg String.toList same
  simp only [sheetPath, sheetFile, String.toList_append, List.append_cancel_left_eq,
    List.append_cancel_right_eq, String.toList_inj] at texts
  exact Nat.succ.inj (Number.repr_injective texts)

/-- Parts that belong to drawings have names that begin so. -/
def drawingHeads : List String := ["xl/worksheets/_rels/", "xl/drawings/", "xl/media/"]

/-- The names of the parts that every workbook has. -/
def workbookNames : List String :=
  ["[Content_Types].xml", "_rels/.rels", "docProps/core.xml", "docProps/app.xml",
    "xl/workbook.xml", "xl/_rels/workbook.xml.rels", "xl/styles.xml"]

theorem workbookParts_names (now : Time.DateTime) (w : Workbook) (t : StyleTable)
    : (workbookParts now w t).map (·.name) = workbookNames := rfl

theorem name_mem_workbookNames {now : Time.DateTime} {w : Workbook} {t : StyleTable} {part : Part}
    (member : part ∈ workbookParts now w t)
    : part.name ∈ workbookNames := workbookParts_names now w t ▸ List.mem_map_of_mem member

/-- The parts of a drawing are named so. -/
theorem exists_drawingHead {index : Nat} {s : Sheet} {plan : Option DrawingNumbers} {part : Part}
    (member : part ∈ (plan.map (drawingParts index s)).getD [])
    : ∃ head ∈ drawingHeads, head.toList <+: part.name.toList := by
  cases plan with
  | none => cases member
  | some numbers =>
      rw [Option.map_some, Option.getD_some, drawingParts, List.mem_append] at member
      simp only [List.mem_cons, List.not_mem_nil, or_false, List.mem_map] at member
      rcases member with (rfl | rfl | rfl) | ⟨⟨number, p⟩, -, rfl⟩
      · refine ⟨"xl/worksheets/_rels/", by simp [drawingHeads], ?_⟩
        rw [Part.ofRoot, String.append_assoc]
        exact prefix_append _ _
      · exact ⟨"xl/drawings/", by simp [drawingHeads], prefix_append _ _⟩
      · refine ⟨"xl/drawings/", by simp [drawingHeads], ?_⟩
        have whole : "xl/drawings/_rels/" = "xl/drawings/" ++ "_rels/" := by decide
        rw [Part.ofRoot, whole, String.append_assoc, String.append_assoc]
        exact prefix_append _ _
      · exact ⟨"xl/media/", by simp [drawingHeads], prefix_append _ _⟩

/-- The parts of a sheet are its document and those of its drawing. -/
theorem sheetParts_cases {t : StyleTable} {index : Nat} {s : Sheet} {plan : Option DrawingNumbers}
    {part : Part} (member : part ∈ sheetParts t index s plan)
    : part = .ofRoot (sheetPath index) (sheetNode t index s)
      ∨ ∃ head ∈ drawingHeads, head.toList <+: part.name.toList := by
  rw [sheetParts, List.mem_cons] at member
  exact member.imp id exists_drawingHead

/-- Parts of sheets have none of the other names. -/
theorem name_of_mem_sheetParts {t : StyleTable} {index : Nat} {s : Sheet}
    {plan : Option DrawingNumbers} {part : Part} (member : part ∈ sheetParts t index s plan)
    {name : String} (other : name ∈ "xl/sharedStrings.xml" :: workbookNames)
    : part.name ≠ name := by
  have apart : ∀ name ∈ "xl/sharedStrings.xml" :: workbookNames,
      ∀ head ∈ "xl/worksheets/" :: drawingHeads,
        ¬ head.toList <+: name.toList ∧ ¬ name.toList <+: head.toList := by
    decide
  rcases sheetParts_cases member with rfl | ⟨head, known, starts⟩
  · obtain ⟨left, right⟩ := apart name other "xl/worksheets/" List.mem_cons_self
    exact ne_of_beginnings left right (prefix_append _ _) (List.prefix_refl _)
  · obtain ⟨left, right⟩ := apart name other head (List.mem_cons_of_mem _ known)
    exact ne_of_beginnings left right starts (List.prefix_refl _)

-----------------------------------------------------------------------------------------
-- Parts by name
-----------------------------------------------------------------------------------------

/-- Of entries with distinct keys only one has a key. -/
theorem filter_eq_singleton [BEq β] [LawfulBEq β] {list : List α} {key : α → β} {a : α}
    (distinct : (list.map key).Nodup) (member : a ∈ list)
    : list.filter (key · == key a) = [a] := by
  obtain ⟨before, after, rfl⟩ := List.append_of_mem member
  rw [List.map_append, List.map_cons, List.nodup_append] at distinct
  obtain ⟨-, later, apart⟩ := distinct
  have first : before.filter (key · == key a) = [] := by
    refine List.filter_eq_nil_iff.mpr fun b inside same => ?_
    exact apart _ (List.mem_map_of_mem inside) _ List.mem_cons_self (beq_iff_eq.mp same)
  have rest : after.filter (key · == key a) = [] := by
    refine List.filter_eq_nil_iff.mpr fun b inside same => ?_
    exact (List.nodup_cons.mp later).1 (beq_iff_eq.mp same ▸ List.mem_map_of_mem inside)
  rw [List.filter_append, first, List.nil_append, List.filter_cons, if_pos (beq_self_eq_true _),
    rest]

/-- Of parts with distinct names each is found. -/
theorem part?_of_nodup {p : Package} {part : Part} (distinct : (p.map (·.name)).Nodup)
    (member : part ∈ p)
    : p.part? part.name = some part := by
  have single := filter_eq_singleton distinct member
  rw [Package.part?, single, List.getLast?_singleton]

/-- The parts of all sheets, given their plans. -/
def allSheetParts (t : StyleTable) (w : Workbook) : Package :=
  (w.sheets.zip (drawingPlan w)).zipIdx.flatMap fun ((s, plan), i) => sheetParts t i s plan

theorem ofWorkbook_eq (now : Time.DateTime) (w : Workbook)
    : ofWorkbook now w
      = workbookParts now w (StyleTable.ofWorkbook w)
        ++ allSheetParts (StyleTable.ofWorkbook w) w := rfl

theorem exists_of_mem_allSheetParts {t : StyleTable} {w : Workbook} {part : Part}
    (member : part ∈ allSheetParts t w)
    : ∃ i s plan, part ∈ sheetParts t i s plan := by
  obtain ⟨⟨⟨s, plan⟩, i⟩, -, member⟩ := List.mem_flatMap.mp member
  exact ⟨i, s, plan, member⟩

variable {now : Time.DateTime} {w : Workbook}

theorem mem_names_of_mem_workbookNames {name : String} (known : name ∈ workbookNames)
    : name ∈ (ofWorkbook now w).map (·.name) := by
  rw [ofWorkbook_eq, List.map_append, workbookParts_names]
  exact List.mem_append_left _ known

/-- Written workbooks have no list of shared texts. -/
theorem part?_sharedStrings : (ofWorkbook now w).part? "xl/sharedStrings.xml" = none := by
  rw [Package.part?, List.getLast?_eq_none_iff, List.filter_eq_nil_iff]
  intro part member same
  have named : part.name = "xl/sharedStrings.xml" := beq_iff_eq.mp same
  rw [ofWorkbook_eq] at member
  rcases List.mem_append.mp member with member | member
  · exact absurd (named ▸ name_mem_workbookNames member) (by decide)
  · obtain ⟨i, s, plan, inside⟩ := exists_of_mem_allSheetParts member
    exact name_of_mem_sheetParts inside List.mem_cons_self named

theorem length_planDrawings (drawing picture : Nat) (sheets : List Sheet)
    : (planDrawings drawing picture sheets).length = sheets.length := by
  induction sheets generalizing drawing picture with
  | nil => rfl
  | cons s rest ih =>
      rw [planDrawings]
      split
      · rw [List.length_cons, ih, List.length_cons]
      · rw [List.length_cons, ih, List.length_cons]

end Spreadsheet.Package
