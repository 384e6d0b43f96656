import Spreadsheet.Proofs.Package.SheetEntries
import Spreadsheet.Proofs.Package.SheetNaming
import Spreadsheet.Proofs.Package.SheetReadBack
import Spreadsheet.Proofs.Package.StyleReadBack
import Spreadsheet.Proofs.Workbook.Reachable

/-! A workbook that was written is read sheet by sheet, unless a name cannot join those before it or
a sheet cannot be read.
-/

namespace Spreadsheet

open Spreadsheet.Cell Spreadsheet.Sheet Spreadsheet.Workbook Spreadsheet.Xml

/-- What holds of each entry beside another holds of all of them. -/
theorem forall_of_forall₂ {p : α → Prop} {items : List α} {others : List β}
    (each : List.Forall₂ (fun a _ => p a) items others)
    : ∀ a ∈ items, p a := by
  have both : List.Forall₂ (fun a _ => p a ∧ True) items others :=
    each.imp fun _ _ holds => ⟨holds, trivial⟩
  exact ((List.forall₂_and_left _ _).mp both).1

/-- Beside a single entry there is a single other one. -/
theorem exists_eq_singleton_of_forall₂ {R : α → β → Prop} {a : α} {others : List β}
    (each : List.Forall₂ R [a] others)
    : ∃ b, others = [b] ∧ R a b := by
  obtain ⟨b, rest, first, nothing, rfl⟩ := List.forall₂_cons_left_iff.mp each
  cases nothing
  exact ⟨b, rfl, first⟩

/-- The sheet has the name of another and shows what can be told of its values and its layout. -/
structure Sheet.ReadsAs (s s' : Sheet) : Prop where
  name : s'.name = s.name
  value : ∀ row column, s'.value row column = (s.value row column).asRead
  merged : s'.merged = s.merged.map Range.normalized
  line : ∀ axis i, Settings.get (s'.lines axis) i = (Settings.get (s.lines axis) i).asRead
  freeze : s'.freeze = s.freeze.filter fun f => ¬(f.rows = 0 ∧ f.columns = 0)
  filter : s'.filter = s.filter.map Range.normalized

namespace Package

variable {p : Package} {now : Time.DateTime} {w : Workbook} {shared : Shared}
  {paths : List (String × String)}

-----------------------------------------------------------------------------------------
-- Sheet after sheet
-----------------------------------------------------------------------------------------

/-- How the reading of sheets behind some others ends: with all of them, at a name that cannot join
those before it, or at a sheet that cannot be read.
-/
inductive ListReading (p : Package) (shared : Shared) (entries : List (Sheet × Nat))
    (done : List Sheet) : Except ReadError Workbook → Prop where
  | read {sheets : List Sheet}
      (acceptable : Acceptable (done.map (·.name) ++ entries.map (legalPart ·.1.name)))
      (each : List.Forall₂ (fun entry s' =>
        readSheet p shared (sheetPath entry.2) (legalPart entry.1.name) = .ok s') entries sheets)
    : ListReading p shared entries done (.ok { sheets := done ++ sheets })
  | name {e : ReadError} (ofName : e.IsOfName)
      (clash : ¬ Acceptable (done.map (·.name) ++ entries.map (legalPart ·.1.name)))
    : ListReading p shared entries done (.error e)
  | sheet {e : ReadError} {entry : Sheet × Nat} (member : entry ∈ entries)
      (failed : readSheet p shared (sheetPath entry.2) (legalPart entry.1.name) = .error e)
    : ListReading p shared entries done (.error e)

/-- A sheet that was read is the first of the rest. -/
theorem ListReading.cons {entry : Sheet × Nat} {entries : List (Sheet × Nat)} {done : List Sheet}
    {s' : Sheet} {result : Except ReadError Workbook}
    (read : readSheet p shared (sheetPath entry.2) (legalPart entry.1.name) = .ok s')
    (name : s'.name = legalPart entry.1.name)
    (others : ListReading p shared entries (done ++ [s']) result)
    : ListReading p shared (entry :: entries) done result := by
  have names : (done ++ [s']).map (·.name) ++ entries.map (legalPart ·.1.name)
      = done.map (·.name) ++ (entry :: entries).map (legalPart ·.1.name) := by
    rw [List.map_append, List.map_singleton, name, List.append_assoc]
    rfl
  cases others with
  | read acceptable each =>
      rw [names] at acceptable
      rw [List.append_assoc]
      exact .read acceptable (.cons read each)
  | name ofName clash =>
      rw [names] at clash
      exact .name ofName clash
  | sheet member failed => exact .sheet (List.mem_cons_of_mem _ member) failed

/-- The sheets of entries are read one after the other, by induction on the entries. -/
theorem foldlM_addSheetOf {entries : List (Sheet × Nat)} {done : List Sheet}
    (found : ∀ entry ∈ entries,
      paths.lookup (relationshipId (entry.2 + 1)) = some (sheetPath entry.2))
    (before : Acceptable (done.map (·.name)))
    : ListReading p shared entries done
        ((entries.map readEntry).foldlM (addSheetOf p shared paths) { sheets := done }) := by
  induction entries generalizing done with
  | nil =>
      have nothing : ListReading p shared [] done (.ok { sheets := done ++ [] }) :=
        .read (by rw [List.map_nil, List.append_nil]; exact before) .nil
      rw [List.append_nil] at nothing
      exact nothing
  | cons entry rest ih =>
      have split : done.map (·.name) ++ (entry :: rest).map (legalPart ·.1.name)
          = (done.map (·.name) ++ [legalPart entry.1.name]) ++ rest.map (legalPart ·.1.name) := by
        rw [List.map_cons, List.append_cons]
      rw [List.map_cons, List.foldlM_cons, addSheetOf, readEntry,
        found entry List.mem_cons_self]
      dsimp only
      have named := Workbook.checkNewName_ends { sheets := done } (legalPart entry.1.name)
      cases checked : ({ sheets := done } : Workbook).checkNewName (legalPart entry.1.name) with
      | error e =>
          rw [checked] at named
          cases named with
          | error ofName =>
              refine .name ofName fun acceptable => ?_
              rw [split] at acceptable
              have free : ({ sheets := done } : Workbook).checkNewName _ = .ok () :=
                checkNewName_eq_ok.mpr (acceptable_concat.mp acceptable.front).2
              rw [checked] at free
              cases free
      | ok free =>
          have sheet := readSheet_ends p shared (sheetPath entry.2) (legalPart entry.1.name)
          cases read : readSheet p shared (sheetPath entry.2) (legalPart entry.1.name) with
          | error e => exact .sheet List.mem_cons_self read
          | ok s' =>
              rw [read] at sheet
              cases sheet with
              | ok name =>
                  refine .cons read name (ih (fun entry member =>
                    found entry (List.mem_cons_of_mem _ member)) ?_)
                  rw [List.map_append, List.map_singleton, name]
                  exact acceptable_concat.mpr ⟨before, checkNewName_eq_ok.mp checked⟩

-----------------------------------------------------------------------------------------
-- Parts that are always read
-----------------------------------------------------------------------------------------

theorem exists_coreStep (s : PropertiesReading) (event : Event) (told : event ≠ .text none)
    : ∃ s', PropertiesReading.coreStep s event = .ok s' := by
  cases event with
  | text content =>
      cases content with
      | none => exact absurd rfl told
      | some text => cases s with | mk properties element => cases element <;> exact ⟨_, rfl⟩
  | start tag => exact ⟨_, rfl⟩
  | empty tag => exact ⟨_, rfl⟩
  | close name => exact ⟨_, rfl⟩

theorem exists_appStep (s : PropertiesReading) (event : Event) (told : event ≠ .text none)
    : ∃ s', PropertiesReading.appStep s event = .ok s' := by
  cases event with
  | text content =>
      cases content with
      | none => exact absurd rfl told
      | some text =>
          rw [PropertiesReading.appStep]
          split <;> exact ⟨_, rfl⟩
  | start tag => exact ⟨_, rfl⟩
  | empty tag => exact ⟨_, rfl⟩
  | close name => exact ⟨_, rfl⟩

/-- Properties are read from two documents, the one after the other. -/
theorem readProperties_eq_ok {s s' : PropertiesReading}
    (core : foldEvents PropertiesReading.coreStep {}
      (Part.ofRoot "docProps/core.xml" (coreNode now w.properties)).content = .ok s)
    (app : foldEvents PropertiesReading.appStep { properties := s.properties }
      (Part.ofRoot "docProps/app.xml" (appNode w)).content = .ok s')
    : readProperties (ofWorkbook now w) = .ok s'.properties := by
  refine bind_eq_ok.mpr ⟨s, ?_, bind_eq_ok.mpr ⟨s', ?_, rfl⟩⟩
  · rw [foldPart?, part?_core]
    exact core
  · rw [foldPart?, part?_app]
    exact app

theorem exists_properties (now : Time.DateTime) (w : Workbook)
    : ∃ properties, readProperties (ofWorkbook now w) = .ok properties := by
  have coreRead : ∃ s, foldEvents PropertiesReading.coreStep {}
      (Part.ofRoot "docProps/core.xml" (coreNode now w.properties)).content = .ok s :=
    foldEvents_isOk (coreNode_eachTag now w.properties) exists_coreStep {}
  obtain ⟨s, coreRead⟩ := coreRead
  have appRead : ∃ s', foldEvents PropertiesReading.appStep { properties := s.properties }
      (Part.ofRoot "docProps/app.xml" (appNode w)).content = .ok s' :=
    foldEvents_isOk (appNode_eachTag w) exists_appStep { properties := s.properties }
  obtain ⟨s', appRead⟩ := appRead
  exact ⟨s'.properties, readProperties_eq_ok coreRead appRead⟩

-----------------------------------------------------------------------------------------
-- Whole workbooks
-----------------------------------------------------------------------------------------

/-- A written workbook is read as far as its sheets are read one after the other. -/
theorem exists_toWorkbook_eq (now : Time.DateTime) (w : Workbook)
    : ∃ shared read properties,
      CellStyles.ofPackage (ofWorkbook now w) = .ok shared.styles
      ∧ ListReading (ofWorkbook now w) shared w.sheets.zipIdx [] read
      ∧ (ofWorkbook now w).toWorkbook = read.map fun w' => { w' with properties } := by
  have strings : SharedStrings.ofPackage (ofWorkbook now w) = .ok #[] := by
    rw [SharedStrings.ofPackage, foldPart?, part?_sharedStrings]
    rfl
  obtain ⟨styles, styled⟩ : ∃ styles, CellStyles.ofPackage (ofWorkbook now w) = .ok styles :=
    ⟨_, CellStyles.ofPackage_eq now w⟩
  obtain ⟨properties, described⟩ := exists_properties now w
  obtain ⟨paths, listed, found⟩ := exists_readSheetPaths now w
  refine ⟨⟨#[], styles⟩, (w.sheets.zipIdx.map readEntry).foldlM
    (addSheetOf (ofWorkbook now w) ⟨#[], styles⟩ paths) {}, properties, styled, ?_, ?_⟩
  · refine foldlM_addSheetOf (fun entry member => ?_)
      ⟨fun _ member => absurd member List.not_mem_nil, .nil⟩
    exact found entry.2 (List.snd_lt_of_mem_zipIdx member)
  · rw [toWorkbook, part?_contentTypes, strings, styled, readSheetEntries_ofWorkbook now w, listed,
      described]
    change ((w.sheets.zipIdx.map readEntry).foldlM
      (addSheetOf (ofWorkbook now w) ⟨#[], styles⟩ paths) {} >>= _) = _
    generalize (w.sheets.zipIdx.map readEntry).foldlM
      (addSheetOf (ofWorkbook now w) ⟨#[], styles⟩ paths) {} = read
    cases read <;> rfl

theorem readSheet_eq {i : Nat} {s : Sheet} (found : w.sheets[i]? = some s) (name : String)
    : readSheet (ofWorkbook now w) shared (sheetPath i) name
      = (foldEvents (SheetReading.step shared) { sheet := { name } }
          (Part.ofRoot (sheetPath i) (sheetNode (StyleTable.ofWorkbook w) i s)).content).map
            (·.sheet) := by
  rw [readSheet, foldPart, part?_sheet found]
  dsimp only
  cases foldEvents (SheetReading.step shared) { sheet := { name } } _ with
  | error e => rfl
  | ok state => rfl

/-- What is read of the sheet with a number has its merged ranges, with their corners in order, and
shows all else that can be told of it.
-/
structure ReadsView (shared : Shared) (t : StyleTable) (entry : Sheet × Nat) (s' : Sheet)
    : Prop where
  merged : s'.merged = entry.1.merged.map Range.normalized
  view : ∀ a, s'.view a = readGoal shared t entry.2 entry.1 a

/-- A sheet is read with all that can be told of it, if its merged ranges are clear of each other.
-/
theorem exists_readSheet_of_placed {i : Nat} {s : Sheet} (now : Time.DateTime) (shared : Shared)
    (found : w.sheets[i]? = some s) (placed : s.Placed) (outlined : s.Outlined) (name : String)
    (apart : s.MergesApart)
    : ∃ s', readSheet (ofWorkbook now w) shared (sheetPath i) name = .ok s'
      ∧ ReadsView shared (StyleTable.ofWorkbook w) (s, i) s' := by
  obtain ⟨s', taken, merged, view⟩ := SheetReading.exists_read_sheetNode shared placed outlined
    apart (StyleTable.ofWorkbook w) i (sheetPath i) name
  refine ⟨s', ?_, merged, view⟩
  rw [readSheet_eq found, taken]
  rfl

section Reading

variable {i : Nat} {s : Sheet} (now) (shared) (found : w.sheets[i]? = some s) (inside : s.InBounds)
  (outlined : s.Outlined) (name : String)

include found inside outlined

/-- A sheet within its limits is read so. -/
theorem exists_readSheet_ok (apart : s.MergesApart)
    : ∃ s', readSheet (ofWorkbook now w) shared (sheetPath i) name = .ok s'
      ∧ ReadsView shared (StyleTable.ofWorkbook w) (s, i) s' :=
  exists_readSheet_of_placed now shared found inside.placed outlined name apart

/-- A sheet whose merged ranges overlap cannot be read. -/
theorem exists_readSheet_error (clash : ¬ s.MergesApart)
    : ∃ e, readSheet (ofWorkbook now w) shared (sheetPath i) name = .error e := by
  obtain ⟨e, refused⟩ := SheetReading.exists_error_sheetNode shared inside.placed outlined clash
    (StyleTable.ofWorkbook w) i (sheetPath i) name
  refine ⟨e, ?_⟩
  rw [readSheet_eq found, refused]
  rfl

end Reading

section Placed

variable (named : w.Named) (placed : ∀ s ∈ w.sheets, s.Placed)
  (outlined : ∀ s ∈ w.sheets, s.Outlined)

include named placed outlined

/-- A workbook whose merged ranges are clear of each other is read with all its sheets, and each
shows all that can be told of it.
-/
theorem exists_toWorkbook_view_of_placed (now : Time.DateTime)
    (legal : ∀ s ∈ w.sheets, Legal s.name) (apart : ∀ s ∈ w.sheets, s.MergesApart)
    : ∃ shared w', CellStyles.ofPackage (ofWorkbook now w) = .ok shared.styles
      ∧ (ofWorkbook now w).toWorkbook = .ok w'
      ∧ List.Forall₂ (fun entry s' => s'.name = entry.1.name
          ∧ ReadsView shared (StyleTable.ofWorkbook w) entry s')
        w.sheets.zipIdx w'.sheets := by
  obtain ⟨shared, read, properties, styled, reading, same⟩ := exists_toWorkbook_eq now w
  have names : ([] : List Sheet).map (·.name) ++ w.sheets.zipIdx.map (legalPart ·.1.name)
      = w.sheets.map (·.name) := by
    rw [List.map_nil, List.nil_append, map_legalPart_zipIdx]
    exact List.map_congr_left fun s member => legalPart_eq_self (legal s member)
  have each : ∀ entry ∈ w.sheets.zipIdx, ∀ name, ∃ s',
      readSheet (ofWorkbook now w) shared (sheetPath entry.2) name = .ok s'
      ∧ ReadsView shared (StyleTable.ofWorkbook w) entry s' := by
    intro entry member name
    have place := List.fst_mem_of_mem_zipIdx member
    exact exists_readSheet_of_placed now shared (List.mk_mem_zipIdx_iff_getElem?.mp member)
      (placed _ place) (outlined _ place) name (apart _ place)
  refine ⟨shared, ?_⟩
  cases reading with
  | name _ clash =>
      rw [names] at clash
      exact absurd named clash
  | sheet member failed =>
      obtain ⟨s', taken, -⟩ := each _ member _
      rw [failed] at taken
      cases taken
  | @read sheets _ taken =>
      refine ⟨{ sheets, properties }, styled, same, ?_⟩
      have beside := (List.forall₂_and_left _ _).mpr ⟨fun _ => id, taken⟩
      refine beside.imp fun entry s' ⟨member, first⟩ => ?_
      obtain ⟨s'', again, shows⟩ := each entry member (legalPart entry.1.name)
      have named := readSheet_ends (ofWorkbook now w) shared (sheetPath entry.2)
        (legalPart entry.1.name)
      rw [first] at again named
      cases again
      cases named with
      | ok name =>
          rw [legalPart_eq_self (legal _ (List.fst_mem_of_mem_zipIdx member))] at name
          exact ⟨name, shows⟩

/-- A workbook whose merged ranges are clear of each other is read with all its sheets. -/
theorem exists_toWorkbook_of_placed (now : Time.DateTime) (legal : ∀ s ∈ w.sheets, Legal s.name)
    (apart : ∀ s ∈ w.sheets, s.MergesApart)
    : ∃ w', (ofWorkbook now w).toWorkbook = .ok w' ∧ List.Forall₂ ReadsAs w.sheets w'.sheets := by
  obtain ⟨shared, w', -, read, each⟩ :=
    exists_toWorkbook_view_of_placed named placed outlined now legal apart
  have sheets : List.Forall₂ (fun entry s' => ReadsAs entry.1 s') w.sheets.zipIdx w'.sheets :=
    each.imp fun entry s' ⟨name, shows⟩ =>
      { name
        merged := shows.merged
        value row column := shows.view (.value row column)
        line axis i := shows.view (.line axis i)
        freeze := shows.view .freeze
        filter := shows.view .filter }
  have sheets := List.forall₂_map_left_iff.mpr sheets
  rw [List.zipIdx_map_fst] at sheets
  exact ⟨w', read, sheets⟩

end Placed

section Whole

variable (named : w.Named) (inside : ∀ s ∈ w.sheets, s.InBounds)
  (outlined : ∀ s ∈ w.sheets, s.Outlined)

include named inside outlined

/-- Sheets within their limits are read with all that can be told of them. -/
theorem exists_toWorkbook_view (now : Time.DateTime) (legal : ∀ s ∈ w.sheets, Legal s.name)
    (apart : ∀ s ∈ w.sheets, s.MergesApart)
    : ∃ shared w', CellStyles.ofPackage (ofWorkbook now w) = .ok shared.styles
      ∧ (ofWorkbook now w).toWorkbook = .ok w'
      ∧ List.Forall₂ (fun entry s' => s'.name = entry.1.name
          ∧ ReadsView shared (StyleTable.ofWorkbook w) entry s')
        w.sheets.zipIdx w'.sheets :=
  exists_toWorkbook_view_of_placed named (fun s member => (inside s member).placed) outlined now
    legal apart

theorem exists_toWorkbook_ok (now : Time.DateTime) (legal : ∀ s ∈ w.sheets, Legal s.name)
    (apart : ∀ s ∈ w.sheets, s.MergesApart)
    : ∃ w', (ofWorkbook now w).toWorkbook = .ok w' ∧ List.Forall₂ ReadsAs w.sheets w'.sheets :=
  exists_toWorkbook_of_placed named (fun s member => (inside s member).placed) outlined now
    legal apart

omit named

/-- A workbook with a sheet whose merged ranges overlap is not read. -/
theorem exists_toWorkbook_error (now : Time.DateTime) (clash : ∃ s ∈ w.sheets, ¬ s.MergesApart)
    : ∃ e, (ofWorkbook now w).toWorkbook = .error e := by
  obtain ⟨shared, read, properties, -, reading, same⟩ := exists_toWorkbook_eq now w
  rw [same]
  cases reading with
  | name => exact ⟨_, rfl⟩
  | sheet => exact ⟨_, rfl⟩
  | read _ taken =>
      obtain ⟨s, member, clash⟩ := clash
      obtain ⟨i, found⟩ := List.mem_iff_getElem?.mp member
      have each := forall_of_forall₂ (p := fun entry => ∃ s', readSheet (ofWorkbook now w) shared
        (sheetPath entry.2) (legalPart entry.1.name) = .ok s')
        (taken.imp fun _ s' read => ⟨s', read⟩)
      obtain ⟨s', taken⟩ := each (s, i) (List.mk_mem_zipIdx_iff_getElem?.mpr found)
      obtain ⟨e, refused⟩ := exists_readSheet_error now shared found (inside s member)
        (outlined s member) (legalPart s.name) clash
      rw [refused] at taken
      cases taken

include named in
/-- A workbook is read just if no merged ranges of a sheet overlap. -/
theorem exists_toWorkbook_iff (now : Time.DateTime) (legal : ∀ s ∈ w.sheets, Legal s.name)
    : (∃ w', (ofWorkbook now w).toWorkbook = .ok w') ↔ ∀ s ∈ w.sheets, s.MergesApart := by
  constructor
  · rintro ⟨w', read⟩
    refine Classical.byContradiction fun overlap => ?_
    have clash : ∃ s ∈ w.sheets, ¬ s.MergesApart := by simpa using overlap
    obtain ⟨e, refused⟩ := exists_toWorkbook_error inside outlined now clash
    rw [read] at refused
    cases refused
  · intro apart
    obtain ⟨w', read, -⟩ := exists_toWorkbook_ok named inside outlined now legal apart
    exact ⟨w', read⟩

end Whole

end Package

end Spreadsheet
