import Spreadsheet.Proofs.Package.PropertiesReadBack

/-! Properties that are written and read. All of them come back but for keywords with a comma, which
are taken for several.
-/

namespace Spreadsheet

open Spreadsheet.Package Spreadsheet.Xml

/-- The properties of a workbook that was read are those that its package gives. -/
theorem Package.readProperties_of_toWorkbook {p : Package} {w : Workbook}
    (read : p.toWorkbook = .ok w)
    : readProperties p = .ok w.properties := by
  rw [toWorkbook] at read
  split at read
  · cases read
  · obtain ⟨-, -, read⟩ := bind_eq_ok.mp read
    obtain ⟨strings, -, read⟩ := bind_eq_ok.mp read
    obtain ⟨styles, -, read⟩ := bind_eq_ok.mp read
    obtain ⟨entries, -, read⟩ := bind_eq_ok.mp read
    obtain ⟨paths, -, read⟩ := bind_eq_ok.mp read
    obtain ⟨sheets, -, read⟩ := bind_eq_ok.mp read
    obtain ⟨properties, described, read⟩ := bind_eq_ok.mp read
    cases read
    exact described

namespace Workbook

/-- Nothing keeps the sheets from being read: their names can stand beside each other in documents,
they are within their limits, and no merged ranges overlap.
-/
structure Readable (w : Workbook) : Prop where
  named : w.Named
  inside : ∀ s ∈ w.sheets, s.InBounds
  outlined : ∀ s ∈ w.sheets, s.Outlined
  legal : ∀ s ∈ w.sheets, Legal s.name
  apart : ∀ s ∈ w.sheets, s.MergesApart

theorem Readable.blank (properties : Properties) : ({ properties } : Workbook).Readable where
  named := ⟨fun _ member => absurd member List.not_mem_nil, .nil⟩
  inside _ member := absurd member List.not_mem_nil
  outlined _ member := absurd member List.not_mem_nil
  legal _ member := absurd member List.not_mem_nil
  apart _ member := absurd member List.not_mem_nil

variable {w w' : Workbook}

theorem Readable.exists_toWorkbook (readable : w.Readable) (now : Time.DateTime)
    : ∃ w', (ofWorkbook now w).toWorkbook = .ok w' := by
  obtain ⟨w', read, -⟩ := exists_toWorkbook_ok readable.named readable.inside readable.outlined now
    readable.legal readable.apart
  exact ⟨w', read⟩

/-- A workbook that is read has the properties that are read where those were written. -/
theorem properties_eq_asRead {now : Time.DateTime} (storable : w.properties.Storable)
    (read : (ofWorkbook now w).toWorkbook = .ok w')
    : w'.properties = w.properties.asRead := by
  have given := readProperties_of_toWorkbook read
  rw [readProperties_ofWorkbook now storable] at given
  exact (Except.ok.inj given).symm

/-- Storable properties are always read from the written package, and any workbook that is read from
it has them, with each keyword cut at its commas. They are the properties that were written just if
no keyword holds a comma.
-/
theorem properties_ofWorkbook (now : Time.DateTime) {w : Workbook}
    (storable : w.properties.Storable)
    : readProperties (ofWorkbook now w) = .ok w.properties.asRead
      ∧ (w.Readable → ∃ w', (ofWorkbook now w).toWorkbook = .ok w')
      ∧ (∀ w', (ofWorkbook now w).toWorkbook = .ok w' → w'.properties = w.properties.asRead)
      ∧ (w.properties.asRead = w.properties
          ↔ ∀ keyword ∈ w.properties.keywords, ',' ∉ keyword.toList) :=
  ⟨readProperties_ofWorkbook now storable, fun readable => readable.exists_toWorkbook now,
    fun _ read => properties_eq_asRead storable read, storable.asRead_eq_iff⟩

/-- The moment of writing in the samples. -/
def writingTime : Time.DateTime := ⟨⟨2024, 3, 7⟩, 30605, 0⟩

/-- Texts with markup and blanks, two keywords, a leap day and a leap second. -/
def quarterly : Properties where
  title := some "Profit & <loss>"
  creator := some " Finance "
  company := some "Acme"
  keywords := ["sales", "third quarter"]
  created := some ⟨⟨2024, 2, 29⟩, 30605, 0⟩
  modified := some ⟨⟨2016, 12, 31⟩, 86399, 1000000000⟩

/-- All of these properties come back. -/
theorem properties_quarterly
    : quarterly.Storable
      ∧ ∃ w', (ofWorkbook writingTime { properties := quarterly }).toWorkbook = .ok w'
        ∧ w'.properties = quarterly := by
  have storable : quarterly.Storable := {
    title := fun _ given => by cases given; exact ⟨by decide, by decide⟩
    subject := fun _ given => by cases given
    creator := fun _ given => by cases given; exact ⟨by decide, by decide⟩
    description := fun _ given => by cases given
    company := fun _ given => by cases given; exact ⟨by decide, by decide⟩
    category := fun _ given => by cases given
    keywords := by
      simp only [quarterly, List.forall_mem_cons]
      exact ⟨⟨⟨by decide, by decide⟩, by decide⟩, ⟨⟨by decide, by decide⟩, by decide⟩, nofun⟩
    created := ⟨_, rfl, by decide, by decide, by decide, by decide⟩
    modified := ⟨_, rfl, by decide, by decide, by decide, by decide⟩
  }
  obtain ⟨-, found, each, whole⟩ :=
    properties_ofWorkbook writingTime (w := { properties := quarterly }) storable
  obtain ⟨w', read⟩ := found (.blank quarterly)
  exact ⟨storable, w', read, (each w' read).trans (whole.mpr (by decide))⟩

/-- Storable properties with one keyword, in which there is a comma. -/
def commaKeyword : Properties where
  title := some "T"
  keywords := ["a,b"]
  created := some writingTime
  modified := some writingTime

/-- The keyword with a comma comes back as two. -/
theorem properties_commaKeyword
    : commaKeyword.Storable
      ∧ ∃ w', (ofWorkbook writingTime { properties := commaKeyword }).toWorkbook = .ok w'
        ∧ w'.properties ≠ commaKeyword ∧ w'.properties.keywords = ["a", "b"] := by
  have storable : commaKeyword.Storable := {
    title := fun _ given => by cases given; exact ⟨by decide, by decide⟩
    subject := fun _ given => by cases given
    creator := fun _ given => by cases given
    description := fun _ given => by cases given
    company := fun _ given => by cases given
    category := fun _ given => by cases given
    keywords := by
      simp only [commaKeyword, List.forall_mem_cons]
      exact ⟨⟨⟨by decide, by decide⟩, by decide⟩, nofun⟩
    created := ⟨_, rfl, by decide, by decide, by decide, by decide⟩
    modified := ⟨_, rfl, by decide, by decide, by decide, by decide⟩
  }
  obtain ⟨w', read⟩ := (Readable.blank commaKeyword).exists_toWorkbook writingTime
  have same := properties_eq_asRead storable read
  have cut : commaKeyword.asRead.keywords = ["a", "b"] := by decide
  refine ⟨storable, w', read, fun kept => ?_, ?_⟩
  · rw [← same, kept] at cut
    exact absurd cut (by decide)
  · rw [same]
    exact cut

end Workbook

end Spreadsheet
