import Spreadsheet.Proofs.Build.BuildingRuns
import Spreadsheet.Proofs.Package.WorkbookReadBack

/-! Which values of a request are found again in the file that is made of it. Every workbook that is
built can be read again; a value is lost there just if nothing of it is written.
-/

namespace Spreadsheet

open Spreadsheet.Cell Spreadsheet.Xml

-----------------------------------------------------------------------------------------
-- Values
-----------------------------------------------------------------------------------------

namespace Cell.Value

/-- Something of the value is written: of a text or a formula the characters that documents can
hold.
-/
def isWritten : Value → Bool
  | .empty => false
  | .boolean _ | .number _ => true
  | .text content | .formula content => legalPart content != ""

/-- The second value is of the same kind if anything of the first one is written, and else there is
none.
-/
structure Survives (v v' : Value) : Prop where
  written : v.isWritten = true → v'.kindName = v.kindName
  lost : v.isWritten = false → v' = .empty

theorem survives_asRead (v : Value) : v.Survives v.asRead := by
  cases v with
  | empty => exact ⟨nofun, fun _ => rfl⟩
  | boolean b => exact ⟨fun _ => rfl, nofun⟩
  | number x => exact ⟨fun _ => rfl, nofun⟩
  | text content | formula content =>
      refine ⟨fun written => ?_, fun lost => ?_⟩
      · rw [asRead, if_neg (by simpa [isWritten] using written)]
        rfl
      · rw [asRead, if_pos (by simpa [isWritten] using lost)]

end Cell.Value

-----------------------------------------------------------------------------------------
-- Workbooks
-----------------------------------------------------------------------------------------

/-- The sheet has the name of another and the values that survive of it. -/
structure Sheet.Survives (s s' : Sheet) : Prop where
  name : s'.name = s.name
  value : ∀ row column, (s.value row column).Survives (s'.value row column)

theorem Sheet.ReadsAs.survives {s s' : Sheet} (read : s.ReadsAs s') : s.Survives s' where
  name := read.name
  value row column := by
    rw [read.value]
    exact (s.value row column).survives_asRead

namespace Build

open Spreadsheet.Request

variable {setting : Setting} {r : Request} {w : Workbook}

/-- The sheets of a workbook are those that are built of the declarations of its request. -/
theorem workbook_sheets (built : (workbook setting r).result = .ok w)
    : List.Forall₂ (fun spec s => (sheet setting (chooseGenerator r) spec).result = .ok s)
        r.sheets w.sheets := by
  obtain ⟨_, _, built⟩ := Logged.bind_result_eq_ok.mp built
  exact workbookIn_sheets built

/-- Every sheet of a workbook is built of a declaration of its request. -/
theorem exists_sheet_built (built : (workbook setting r).result = .ok w) {s : Sheet}
    (member : s ∈ w.sheets)
    : ∃ spec ∈ r.sheets, (sheet setting (chooseGenerator r) spec).result = .ok s := by
  have each := workbook_sheets built
  obtain ⟨i, inside, rfl⟩ := List.getElem_of_mem member
  have inside' : i < r.sheets.length := by rwa [each.length_eq]
  exact ⟨r.sheets[i], List.getElem_mem inside', each.get inside' inside⟩

/-- Every workbook that is built can be written. -/
theorem workbook_write (built : (workbook setting r).result = .ok w) (now : Time.DateTime)
    : Package.write now w = .ok (Package.ofWorkbook now w) := by
  refine Package.write_eq_ok.mpr ⟨fun s member => ?_, rfl⟩
  obtain ⟨_, _, built⟩ := exists_sheet_built built member
  exact sheet_isNumbered built

/-- Every workbook that is built can be read again if its names are ones for documents. -/
theorem workbook_readsAs (built : (workbook setting r).result = .ok w)
    (legal : ∀ spec ∈ r.sheets, Legal spec.name) (now : Time.DateTime)
    : ∃ w', (Package.ofWorkbook now w).toWorkbook = .ok w'
        ∧ List.Forall₂ Sheet.ReadsAs w.sheets w'.sheets := by
  obtain ⟨named, outlined⟩ := (workbook_reachable built).named_and_outlined
  have placed : ∀ s ∈ w.sheets, s.Placed := by
    intro s member
    obtain ⟨_, _, built⟩ := exists_sheet_built built member
    exact sheet_placed built
  have apart : ∀ s ∈ w.sheets, s.MergesApart := by
    intro s member
    obtain ⟨_, _, built⟩ := exists_sheet_built built member
    exact (sheet_tidy built).merges.apart
  have names : ∀ s ∈ w.sheets, Legal s.name := by
    intro s member
    obtain ⟨spec, declared, built⟩ := exists_sheet_built built member
    rw [(sheet_run built).name]
    exact legal spec declared
  exact Package.exists_toWorkbook_of_placed named placed outlined now names apart

/-- Whatever is built of a request, written and read again holds at each position of each sheet a
value of the kind that was built there, if anything of that value is written. The values that are
lost are empty texts and formulas, and those of characters only that documents cannot hold.
-/
theorem workbook_survives (built : (workbook setting r).result = .ok w)
    (legal : ∀ spec ∈ r.sheets, Legal spec.name) (now : Time.DateTime)
    : ∃ w', (Package.ofWorkbook now w).toWorkbook = .ok w'
        ∧ List.Forall₂ Sheet.Survives w.sheets w'.sheets := by
  obtain ⟨w', read, sheets⟩ := workbook_readsAs built legal now
  exact ⟨w', read, sheets.imp fun _ _ => Sheet.ReadsAs.survives⟩

/-- The sample of a report is found again in its file. -/
theorem workbook_sampleReport_survives
    : ∃ w w', (workbook sampleSetting ⟨"sales.xlsx", [sampleReport], none, none⟩).result = .ok w
        ∧ (Package.ofWorkbook sampleSetting.now w).toWorkbook = .ok w'
        ∧ List.Forall₂ Sheet.Survives w.sheets w'.sheets := by
  obtain ⟨w, built⟩ := exists_of_isOk
    (x := (workbook sampleSetting ⟨"sales.xlsx", [sampleReport], none, none⟩).result)
    (by decide +kernel)
  obtain ⟨w', read, sheets⟩ := workbook_survives built (by decide) sampleSetting.now
  exact ⟨w, w', built, read, sheets⟩

/-- A request for a column whose header is an empty text. -/
def emptyHeaderRequest : Json.Value :=
  .object
    [("file_name", .string "r.xlsx"),
      ("sheets",
        .array
          [.object
            [("columns", .array [.object [("header", .string ""), ("key", .string "k")]]),
              ("data", .array []), ("name", .string "S")]])]

/-- An empty header is a value of the workbook and no value of its file. -/
theorem workbook_emptyHeader_lost
    : ∃ r w s w' s', Request.validate emptyHeaderRequest = .ok r
        ∧ (∀ spec ∈ r.sheets, Legal spec.name) ∧ (workbook sampleSetting r).result = .ok w
        ∧ (Package.ofWorkbook sampleSetting.now w).toWorkbook = .ok w'
        ∧ w.sheets = [s] ∧ w'.sheets = [s']
        ∧ s.value 0 0 = .text "" ∧ s'.value 0 0 = .empty := by
  have found : ((Request.validate emptyHeaderRequest).toOption.bind fun r =>
      (workbook sampleSetting r).result.toOption.map fun w =>
        (r.sheets.map (·.name), w.sheets.map (·.value 0 0))) = some (["S"], [.text ""]) := by
    decide +kernel
  obtain ⟨r, valid, found⟩ := Option.bind_eq_some_iff.mp found
  obtain ⟨w, built, found⟩ := Option.map_eq_some_iff.mp found
  obtain ⟨names, values⟩ := Prod.mk.injEq .. ▸ found
  obtain ⟨s, sheets, header⟩ := List.map_eq_singleton_iff.mp values
  have legal : ∀ spec ∈ r.sheets, Legal spec.name := by
    have each : ∀ name ∈ r.sheets.map (·.name), Legal name := by
      rw [names]
      decide
    exact fun spec member => each spec.name (List.mem_map_of_mem member)
  obtain ⟨w', read, both⟩ := workbook_readsAs (eq_ok_of_toOption built) legal sampleSetting.now
  rw [sheets] at both
  generalize listed : w'.sheets = others at both
  cases both with
  | cons first rest =>
      cases rest
      refine ⟨r, w, s, w', _, eq_ok_of_toOption valid, legal, eq_ok_of_toOption built, read, sheets,
        listed, header, ?_⟩
      rw [first.value, header]
      rfl

end Build

end Spreadsheet
