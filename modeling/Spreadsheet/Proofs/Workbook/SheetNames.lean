import Spreadsheet.Proofs.Package.PartLinks
import Spreadsheet.Proofs.Package.WorkbookReadBack

/-! The names of sheets as a written package lists them. Characters that no document can hold are
not written, so that two names can become one and a name can be left with nothing.
-/

namespace Spreadsheet

open Spreadsheet.Xml

/-- The names in the document that lists the sheets. -/
def Package.sheetNames (p : Package) : List String :=
  (((p.part? "xl/workbook.xml").elim [] Part.tags).filter (·.name == "sheet")).filterMap
    (·.attribute? "name")

namespace Workbook

open Spreadsheet.Package

variable {w : Workbook}

-----------------------------------------------------------------------------------------
-- Names by themselves
-----------------------------------------------------------------------------------------

theorem checkName_eq_ok {name : String}
    : checkName name = .ok ()
      ↔ Text.isBlankText name = false ∧ name.length ≤ maxNameLength
        ∧ ∀ c ∈ name.toList, c ∉ forbiddenInNames := by
  rw [checkName]
  split
  · next blank => exact ⟨nofun, fun proper => absurd blank (by simp [proper.1])⟩
  · next filled =>
      split
      · next long => exact ⟨nofun, fun proper => absurd proper.2.1 (Nat.not_le.mpr long)⟩
      · next short =>
          have filled := Bool.not_eq_true _ ▸ filled
          cases found : name.toList.find? (forbiddenInNames.contains ·) with
          | some c =>
              have bad := List.contains_iff_mem.mp (List.find?_some found)
              have inside := List.mem_of_find?_eq_some found
              exact ⟨nofun, fun proper => absurd bad (proper.2.2 c inside)⟩
          | none =>
              refine ⟨fun _ => ⟨filled, Nat.not_lt.mp short, fun c member bad => ?_⟩, fun _ => rfl⟩
              exact List.find?_eq_none.mp found c member (List.contains_iff_mem.mpr bad)

/-- What is left of a name is one too, unless nothing is left of it. -/
theorem checkName_legalPart {name : String} (proper : checkName name = .ok ())
    (filled : Text.isBlankText (legalPart name) = false)
    : checkName (legalPart name) = .ok () := by
  obtain ⟨-, short, plain⟩ := checkName_eq_ok.mp proper
  refine checkName_eq_ok.mpr ⟨filled, Nat.le_trans ?_ short, fun c member => plain c ?_⟩
  · rw [legalPart, String.length_ofList, ← String.length_toList]
    exact List.length_filter_le _ _
  · rw [legalPart, String.toList_ofList] at member
    exact (List.mem_filter.mp member).1

/-- Names stay names and stay apart without the characters that no document can hold. -/
structure NamesKept (w : Workbook) : Prop where
  filled : ∀ s ∈ w.sheets, Text.isBlankText (legalPart s.name) = false
  apart : (w.sheets.map (legalPart ·.name)).Pairwise fun a b => sameName a b = false

theorem Named.acceptable_iff (named : w.Named)
    : Acceptable (w.sheets.map (legalPart ·.name)) ↔ w.NamesKept := by
  constructor
  · rintro ⟨proper, distinct⟩
    refine ⟨fun s member => ?_, distinct⟩
    have checked : checkName (legalPart s.name) = .ok () :=
      proper _ (List.mem_map.mpr ⟨s, member, rfl⟩)
    exact (checkName_eq_ok.mp checked).1
  · rintro ⟨filled, apart⟩
    refine ⟨fun name member => ?_, apart⟩
    obtain ⟨s, inside, rfl⟩ := List.mem_map.mp member
    exact checkName_legalPart (named.proper s.name (List.mem_map_of_mem inside)) (filled s inside)

-----------------------------------------------------------------------------------------
-- Names in packages
-----------------------------------------------------------------------------------------

/-- The names of the sheets are listed in their order, without what no document can hold. -/
theorem sheetNames_eq (now : Time.DateTime) (w : Workbook)
    : (ofWorkbook now w).sheetNames = w.sheets.map (legalPart ·.name) := by
  obtain ⟨front, after, tags, before, behind⟩ := filterMap_events_workbookNode w
  have others : ∀ tags : List Tag, (∀ tag ∈ tags, tag.name ≠ "sheet")
      → tags.filter (·.name == "sheet") = [] := fun tags other =>
    List.filter_eq_nil_iff.mpr fun tag member => by simp [other tag member]
  have entries : (w.sheets.zipIdx.map fun entry =>
        (⟨"sheet", readAttributes (entryAttributes entry)⟩ : Tag)).filter (·.name == "sheet") = _ :=
    List.filter_eq_self.mpr fun tag member => by
      obtain ⟨entry, -, rfl⟩ := List.mem_map.mp member
      rfl
  have name : ∀ entry : Sheet × Nat,
      (⟨"sheet", readAttributes (entryAttributes entry)⟩ : Tag).attribute? "name"
        = some (legalPart entry.1.name) := fun entry => attribute?_readAttributes _ _ _
  rw [sheetNames, part?_workbook, Option.elim_some, tags_ofRoot _ (workbookNode_eachTag w), tags,
    List.filter_append, List.filter_append, others front before, others after behind, entries,
    List.nil_append, List.append_nil, List.filterMap_map]
  simp only [Function.comp_def, name]
  rw [List.filterMap_eq_map', map_legalPart_zipIdx]

-----------------------------------------------------------------------------------------
-- Reading
-----------------------------------------------------------------------------------------

theorem map_readNames (w : Workbook)
    : ([] : List Sheet).map (·.name) ++ w.sheets.zipIdx.map (legalPart ·.1.name)
      = w.sheets.map (legalPart ·.name) := map_legalPart_zipIdx w.sheets

/-- No name is refused if names are kept apart. -/
theorem NamesKept.not_isOfName (kept : w.NamesKept) (named : w.Named) {now : Time.DateTime}
    {e : ReadError} (failed : (ofWorkbook now w).toWorkbook = .error e)
    : ¬ e.IsOfName := by
  obtain ⟨shared, read, properties, -, reading, same⟩ := exists_toWorkbook_eq now w
  rw [same] at failed
  cases reading with
  | read => cases failed
  | name _ clash =>
      rw [map_readNames] at clash
      exact absurd (named.acceptable_iff.mpr kept) clash
  | @sheet _ entry _ refused =>
      cases failed
      have ends := readSheet_ends (ofWorkbook now w) shared (sheetPath entry.2)
        (legalPart entry.1.name)
      rw [refused] at ends
      cases ends with
      | error other => exact other

/-- Reading fails if names are not kept apart, because of one if all sheets could be read. -/
theorem Named.exists_error (named : w.Named) (outlined : ∀ s ∈ w.sheets, s.Outlined)
    (lost : ¬ w.NamesKept) (now : Time.DateTime)
    : ∃ e, (ofWorkbook now w).toWorkbook = .error e
      ∧ ((∀ s ∈ w.sheets, s.InBounds ∧ s.MergesApart) → e.IsOfName) := by
  obtain ⟨shared, read, properties, -, reading, same⟩ := exists_toWorkbook_eq now w
  cases reading with
  | read acceptable =>
      rw [map_readNames] at acceptable
      exact absurd (named.acceptable_iff.mp acceptable) lost
  | name ofName => exact ⟨_, same, fun _ => ofName⟩
  | @sheet e entry member refused =>
      refine ⟨e, same, fun readable => ?_⟩
      have place := List.fst_mem_of_mem_zipIdx member
      obtain ⟨inside, apart⟩ := readable _ place
      obtain ⟨s', taken, -⟩ := exists_readSheet_ok now shared
        (List.mk_mem_zipIdx_iff_getElem?.mp member) inside (outlined _ place) _ apart
      rw [refused] at taken
      cases taken

/-- The sheets of a workbook that was built are listed in their order, under their names without
the characters that no document can hold. If these names are kept apart, they are acceptable as
they stand, and reading does not fail because of a name; else reading fails, and if nothing else is
in its way that is because of a name.
-/
theorem Reachable.sheetNames_ofWorkbook (reached : w.Reachable) (now : Time.DateTime)
    : (ofWorkbook now w).sheetNames = w.sheets.map (legalPart ·.name)
      ∧ (w.NamesKept → Acceptable (ofWorkbook now w).sheetNames
        ∧ ∀ e, (ofWorkbook now w).toWorkbook = .error e → ¬ e.IsOfName)
      ∧ (¬ w.NamesKept → ∃ e, (ofWorkbook now w).toWorkbook = .error e
        ∧ ((∀ s ∈ w.sheets, s.InBounds ∧ s.MergesApart) → e.IsOfName)) := by
  obtain ⟨named, outlined⟩ := reached.named_and_outlined
  have listed := sheetNames_eq now w
  refine ⟨listed, fun kept => ⟨?_, fun e failed => kept.not_isOfName named failed⟩,
    fun lost => named.exists_error outlined lost now⟩
  rw [listed]
  exact named.acceptable_iff.mpr kept

/-- Blank sheets under some names. -/
def ofNames (names : List String) : Workbook := { sheets := names.map ({ name := · }) }

theorem map_name_ofNames (names : List String) : (ofNames names).sheets.map (·.name) = names := by
  rw [ofNames, List.map_map]
  exact List.map_id names

/-- Sheets can be added one after the other under acceptable names. -/
theorem reachable_ofNames {names : List String} (acceptable : Acceptable names)
    : (ofNames names).Reachable := by
  induction names using List.reverseRecOn with
  | nil => exact .empty
  | append_singleton names name ih =>
      obtain ⟨before, joins⟩ := acceptable_concat.mp acceptable
      have free : (ofNames names).checkNewName name = .ok () :=
        checkNewName_eq_ok.mpr (by rw [map_name_ofNames]; exact joins)
      have added : ofNames (names ++ [name])
          = { ofNames names with sheets := (ofNames names).sheets ++ [{ name }] } := by
        rw [ofNames, List.map_append]
        rfl
      exact (ih before).add (add_eq_ok.mpr ⟨free, added⟩)

/-- One name is written with an entity, the other without its control character. -/
def sampleNames : List String := ["A<B", "Data\x01"]

theorem sheetNames_sampleNames
    : (ofNames sampleNames).Reachable ∧ (ofNames sampleNames).NamesKept
      ∧ (ofWorkbook ⟨⟨2024, 3, 7⟩, 0, 0⟩ (ofNames sampleNames)).sheetNames = ["A<B", "Data"]
      ∧ ∀ e, (ofWorkbook ⟨⟨2024, 3, 7⟩, 0, 0⟩ (ofNames sampleNames)).toWorkbook = .error e
        → ¬ e.IsOfName := by
  have acceptable : Acceptable sampleNames := ⟨by decide, by decide⟩
  have reached := reachable_ofNames acceptable
  have kept : (ofNames sampleNames).NamesKept := ⟨by decide, by decide⟩
  obtain ⟨listed, readable, -⟩ := reached.sheetNames_ofWorkbook ⟨⟨2024, 3, 7⟩, 0, 0⟩
  exact ⟨reached, kept, listed.trans (by decide), (readable kept).2⟩

/-- Two names of which one is left alone by what no document can hold. -/
def clashingNames : List String := ["A", "A\x01"]

/-- Not all names that sheets can have beside each other are read again. -/
theorem sheetNames_clashingNames
    : (ofNames clashingNames).Reachable ∧ Acceptable ((ofNames clashingNames).sheets.map (·.name))
      ∧ (ofWorkbook ⟨⟨2024, 3, 7⟩, 0, 0⟩ (ofNames clashingNames)).sheetNames = ["A", "A"]
      ∧ ∃ e, (ofWorkbook ⟨⟨2024, 3, 7⟩, 0, 0⟩ (ofNames clashingNames)).toWorkbook = .error e
        ∧ e.IsOfName := by
  have acceptable : Acceptable clashingNames := ⟨by decide, by decide⟩
  have reached := reachable_ofNames acceptable
  obtain ⟨named, outlined⟩ := reached.named_and_outlined
  have lost : ¬ (ofNames clashingNames).NamesKept := by
    intro kept
    have apart := kept.apart
    revert apart
    decide
  obtain ⟨e, failed, ofName⟩ := named.exists_error outlined lost ⟨⟨2024, 3, 7⟩, 0, 0⟩
  refine ⟨reached, named, (sheetNames_eq _ _).trans (by decide), e, failed, ofName ?_⟩
  intro s member
  obtain ⟨name, -, rfl⟩ := List.mem_map.mp member
  exact ⟨(Sheet.AllInBounds.blank name).toInBounds, .nil⟩

end Workbook

end Spreadsheet
