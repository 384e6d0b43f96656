import Spreadsheet.Proofs.Package.WorkbookReadBack

/-! Workbooks that were built, written and read again: which of them can be read, and what is
kept of their values.
-/

namespace Spreadsheet

open Spreadsheet.Cell Spreadsheet.Xml

/-- What is kept of a value that was written: numbers that are finite, booleans, the legal part of
a text if it has one, and formulas that need no trimming.
-/
def Cell.Value.Kept : Value → Value → Prop
  | .empty, v => v = .empty
  | .boolean b, v => v = .boolean b
  | .number x, v => x.isFinite = true → v = .number x
  | .text content, v => legalPart content ≠ "" → v = .text (legalPart content)
  | .formula body, v =>
    body ≠ "" → Legal body → Text.trim body = body → body.toList.head? ≠ some '='
      → v = .formula body

/-- The name of a sheet and the values at all its positions are kept. -/
structure Sheet.Kept (s s' : Sheet) : Prop where
  name : s'.name = s.name
  value : ∀ row column, (s.value row column).Kept (s'.value row column)

/-- A formula that needs no trimming is its own body. -/
theorem Cell.Value.ofFormula_eq {body : String} (trimmed : Text.trim body = body)
    (noSign : body.toList.head? ≠ some '=')
    : ofFormula body = .formula body := by
  have whole : Text.trimChars body.toList = body.toList := by
    rw [← String.toList_ofList (l := Text.trimChars body.toList)]
    exact congrArg String.toList trimmed
  rw [ofFormula, formulaBody, whole]
  split
  · next same =>
      rw [same] at noSign
      exact absurd rfl noSign
  · rw [String.ofList_toList]

/-- What is read of a value keeps it. -/
theorem Cell.Value.kept_asRead (v : Value) : v.Kept v.asRead := by
  cases v with
  | empty => rfl
  | boolean b => rfl
  | number x =>
      intro finite
      rw [asRead, Number.Binary64.readBinary64?_text_of_isFinite finite, Option.getD_some]
  | text content =>
      intro filled
      rw [asRead, if_neg filled]
  | formula body =>
      intro filled legal trimmed noSign
      rw [asRead, legalPart_eq_self legal, if_neg filled, ofFormula_eq trimmed noSign]

theorem Sheet.ReadsAs.kept {s s' : Sheet} (read : s.ReadsAs s') : s.Kept s' where
  name := read.name
  value row column := by
    rw [read.value]
    exact (s.value row column).kept_asRead

namespace Workbook

/-- A workbook that was built within the limits of its sheets can be written and read again just
if its rules and validations are on rows whose numbers fit in their words and no merged ranges of a
sheet overlap with their corners put in order, which they do not where all corners are in order.
Then the names of all sheets and the values at all positions are kept.
-/
theorem Reachable.toWorkbook_write {w : Workbook} (reached : w.Reachable)
    (legal : ∀ s ∈ w.sheets, Legal s.name) (inside : ∀ s ∈ w.sheets, s.InBounds)
    (now : Time.DateTime)
    : ((∃ p w', Package.write now w = .ok p ∧ p.toWorkbook = .ok w')
        ↔ ∀ s ∈ w.sheets, (∀ r ∈ s.markedRanges, r.IsNumbered) ∧ s.MergesApart)
      ∧ (∀ s ∈ w.sheets, s.InOrder → s.MergesApart)
      ∧ ∀ p w', Package.write now w = .ok p → p.toWorkbook = .ok w'
        → List.Forall₂ Sheet.Kept w.sheets w'.sheets := by
  obtain ⟨named, outlined⟩ := reached.named_and_outlined
  have read := Package.exists_toWorkbook_iff named inside outlined now legal
  refine ⟨⟨?_, fun holds => ?_⟩, fun s member => reached.mergesApart member, ?_⟩
  · rintro ⟨_, w', written, same⟩ s member
    obtain ⟨numbered, rfl⟩ := Package.write_eq_ok.mp written
    exact ⟨(inside s member).isNumbered_iff.mp (numbered s member), read.mp ⟨w', same⟩ s member⟩
  · obtain ⟨w', same⟩ := read.mpr fun s member => (holds s member).2
    have numbered : ∀ s ∈ w.sheets, s.IsNumbered := fun s member =>
      (inside s member).isNumbered_iff.mpr (holds s member).1
    exact ⟨_, w', Package.write_eq_ok.mpr ⟨numbered, rfl⟩, same⟩
  · rintro _ w' written same
    obtain ⟨-, rfl⟩ := Package.write_eq_ok.mp written
    obtain ⟨other, again, sheets⟩ := Package.exists_toWorkbook_ok named inside outlined now legal
      (read.mp ⟨w', same⟩)
    cases same.symm.trans again
    exact sheets.imp fun _ _ => Sheet.ReadsAs.kept

/-- A text with a mark of its own and a control character, a formula, and a merged range. -/
def sampleEdits : List Sheet.Edit :=
  [.setValue 0 0 (.text "a<b\x07"), .setValue 1 2 (.formula "A1&1"), .merge ⟨⟨0, 0⟩, ⟨1, 1⟩⟩]

/-- The sample is read, and its text without the control character. -/
theorem toWorkbook_sample
    : ({ sheets := [edited "Data" sampleEdits] } : Workbook).Reachable
      ∧ ∃ p w' s, Package.write ⟨⟨2024, 3, 7⟩, 0, 0⟩ { sheets := [edited "Data" sampleEdits] }
          = .ok p
        ∧ p.toWorkbook = .ok w' ∧ w'.sheets = [s]
        ∧ s.name = "Data" ∧ s.value 0 0 = .text "a<b" ∧ s.value 1 2 = .formula "A1&1"
        ∧ s.value 1 1 = .empty := by
  have free : ({} : Workbook).checkNewName "Data" = .ok () := by decide
  have reached := reachable_edited free sampleEdits
  have legal : Legal (edited "Data" sampleEdits).name := by decide
  have inside : (edited "Data" sampleEdits).InBounds := by
    have blank := Sheet.AllInBounds.blank "Data"
    have corner : Address.OnSheet ⟨0, 0⟩ := ⟨by decide, by decide⟩
    have middle : Address.OnSheet ⟨1, 1⟩ := ⟨by decide, by decide⟩
    have right : Address.OnSheet ⟨1, 2⟩ := ⟨by decide, by decide⟩
    have cells := (blank.cells.update corner fun e => { e with value := .text "a<b\x07" }).update
      right fun e => { e with value := .formula "A1&1" }
    refine { blank with cells, merged := fun range member => ?_ }
    cases List.mem_singleton.mp member
    exact ⟨corner, middle⟩
  obtain ⟨read, -, kept⟩ := reached.toWorkbook_write (by simpa using legal)
    (by simpa using inside) ⟨⟨2024, 3, 7⟩, 0, 0⟩
  obtain ⟨p, w', written, read⟩ := read.mpr (by simp; decide)
  obtain ⟨s, sheets, same⟩ := exists_eq_singleton_of_forall₂ (kept p w' written read)
  refine ⟨reached, p, w', s, written, read, sheets, same.name, ?_, ?_, ?_⟩
  · exact same.value 0 0 (by decide)
  · exact same.value 1 2 (by decide) (by decide) (by decide) (by decide)
  · exact same.value 1 1

/-- A rule for the last row, and as many rows above it as move it to the last row that has a
number.
-/
def sinkingEdits : List Sheet.Edit :=
  [.setValue 0 0 (.text "x"),
    .addRule { condition := .expression "A1>0", ranges := [⟨⟨1048575, 0⟩, ⟨1048575, 0⟩⟩] },
    .insertRows 1048575 4293918720]

/-- Not every workbook that was built within the limits of its sheets can be written. -/
theorem write_sinkingEdits
    : ({ sheets := [edited "S" sinkingEdits] } : Workbook).Reachable
      ∧ Legal (edited "S" sinkingEdits).name ∧ (edited "S" sinkingEdits).InBounds
      ∧ (edited "S" sinkingEdits).InOrder
      ∧ Package.write ⟨⟨2024, 3, 7⟩, 0, 0⟩ { sheets := [edited "S" sinkingEdits] }
        = .error .overflow := by
  have free : ({} : Workbook).checkNewName "S" = .ok () := by decide
  have shape : edited "S" sinkingEdits
      = { name := "S"
          cells := ({} : Cell.Grid).setValue 0 0 (.text "x")
          rules := [{ condition := .expression "A1>0"
                      ranges := [⟨⟨4294967295, 0⟩, ⟨4294967295, 0⟩⟩] }] } := by
    decide +kernel
  have inside : (edited "S" sinkingEdits).InBounds := by
    have blank := Sheet.AllInBounds.blank "S"
    have corner : Address.OnSheet ⟨0, 0⟩ := ⟨by decide, by decide⟩
    rw [shape]
    exact { blank with cells := blank.cells.update corner _ }
  have inOrder : (edited "S" sinkingEdits).InOrder := by
    refine edited_inOrder ?_
    simp only [sinkingEdits, List.forall_mem_cons, Sheet.Edit.ranges, List.not_mem_nil,
      false_implies, implies_true, true_and, and_true]
    exact ⟨Nat.le_refl _, Nat.le_refl _⟩
  refine ⟨reachable_edited free sinkingEdits, by decide, inside, inOrder, ?_⟩
  rw [shape]
  decide +kernel

end Workbook

end Spreadsheet
