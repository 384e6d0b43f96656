import Spreadsheet.Proofs.Cell.AddressText
import Spreadsheet.Proofs.Package.SheetNaming
import Spreadsheet.Proofs.Sheet.LegalSheets
import Spreadsheet.Proofs.Workbook.Reachable

/-! Reading gives workbooks that are in order, whatever is read. Only the split of a sheet is taken
as a pane names it, even if that lies beyond the last row or column.
-/

namespace Spreadsheet

open Spreadsheet.Cell Spreadsheet.Sheet

namespace Package

-----------------------------------------------------------------------------------------
-- Splits
-----------------------------------------------------------------------------------------

/-- The split that a frozen pane names: whole rows and columns, as many as words can count. -/
def namedSplit (tag : Xml.Tag) : Option Freeze :=
  let split : Freeze :=
    ⟨SheetReading.splitAt tag "ySplit" rowNumberLimit,
      SheetReading.splitAt tag "xSplit" (Number.wordLimit 16)⟩
  if split = ⟨0, 0⟩ then none else some split

/-- The split after an event: the one that a frozen pane names, else that from before. -/
def splitAfter (split : Option Freeze) : Xml.Event → Option Freeze
  | .empty tag =>
    if tag.name = "pane" ∧ tag.attribute? "state" = some "frozen" then namedSplit tag else split
  | .start _ | .text _ | .close _ => split

/-- The split that the last frozen pane of a document names. -/
def Content.split? (content : Content) : Option Freeze :=
  (Xml.events content.source).events.foldl splitAfter none

theorem splitAfter_of_ne {tag : Xml.Tag} (other : tag.name ≠ "pane") (split : Option Freeze)
    : splitAfter split (.empty tag) = split :=
  if_neg fun pane => other pane.1

namespace SheetReading

variable {shared : Shared} {sheet sheet' : Sheet}

/-- A pane gives the sheet its split and nothing else. -/
theorem applyPane_eq {tag : Xml.Tag} (pane : tag.name = "pane") (sheet : Sheet)
    : applyPane tag sheet = { sheet with freeze := splitAfter sheet.freeze (.empty tag) } := by
  simp only [applyPane, splitAfter, pane, true_and]
  split
  · simp only [setFreeze, namedSplit, Freeze.mk.injEq]
  · rfl

-----------------------------------------------------------------------------------------
-- Steps
-----------------------------------------------------------------------------------------

theorem ifGiven_fills {a : Option α} {change : α → Sheet → Except ModelError Sheet}
    (each : ∀ a, change a sheet = .ok sheet' → sheet.Fills sheet')
    (done : ifGiven a change sheet = .ok sheet')
    : sheet.Fills sheet' := by
  cases a with
  | none =>
      cases done
      exact .refl
  | some a => exact each a done

theorem applyLine_fills {axis : Axis} {r : LineReading} {i : Nat}
    (done : applyLine axis r i sheet = .ok sheet')
    : sheet.Fills sheet' := by
  obtain ⟨s₁, sizing, done⟩ := bind_eq_ok.mp done
  have leveled {t : Sheet}
      (done : ifGiven r.level (fun level s => s.setOutline axis i level) t = .ok sheet')
      : t.Fills sheet' := by
    refine ifGiven_fills (fun level done => ?_) done
    obtain ⟨shallow, inside, rfl⟩ := setOutline_eq_ok.mp done
    exact .single (.line inside (.inl shallow))
  have sized : sheet.Fills s₁ := by
    refine ifGiven_fills (fun size done => ?_) sizing
    obtain ⟨inside, rfl⟩ := setSize_eq_ok.mp done
    exact .single (.line inside (.inr rfl))
  split at done
  · obtain ⟨s₂, covered, done⟩ := bind_eq_ok.mp done
    have hidden : s₁.Fills s₂ := by
      obtain ⟨inside, rfl⟩ := setHidden_eq_ok.mp covered
      exact .single (.line inside (.inr rfl))
    exact (sized.trans hidden).trans (leveled done)
  · exact sized.trans (leveled done)

theorem applyRow_fills {tag : Xml.Tag} (done : applyRow tag sheet = .ok sheet')
    : sheet.Fills sheet' := by
  rw [applyRow] at done
  split at done
  · cases done
    exact .refl
  · cases done
    exact .refl
  · exact applyLine_fills done

/-- A run of columns, by induction on its length. -/
theorem applyColumns_fills {r : LineReading} {count column : Nat}
    (done : applyColumns r count column sheet = .ok sheet')
    : sheet.Fills sheet' := by
  induction count generalizing column sheet with
  | zero =>
      cases done
      exact .refl
  | succ count ih =>
      obtain ⟨_, first, rest⟩ := bind_eq_ok.mp done
      exact (applyLine_fills first).trans (ih rest)

theorem applyColumnSpan_fills {tag : Xml.Tag} (done : applyColumnSpan tag sheet = .ok sheet')
    : sheet.Fills sheet' := by
  rw [applyColumnSpan] at done
  split at done
  · exact applyColumns_fills done
  · cases done
    exact .refl

theorem applyMerge_fills {text : String} (done : applyMerge text sheet = .ok sheet')
    : sheet.Fills sheet' := by
  obtain ⟨range, parsed, done⟩ := bind_eq_ok.mp done
  obtain ⟨clear, rfl⟩ := merge_eq_ok.mp done
  have ordered := Range.normalized_of_parse (mapError_eq_ok.mp parsed)
  exact .single (.merge (ModelError.parseRange_onSheet parsed) ordered clear)

theorem applyFilter_fills {text : String} (done : applyFilter text sheet = .ok sheet')
    : sheet.Fills sheet' := by
  obtain ⟨range, parsed, done⟩ := bind_eq_ok.mp done
  cases done
  exact .single (.filter (ModelError.parseRange_onSheet parsed))

theorem applyStyle_fills {head : CellHead} (done : applyStyle shared head sheet = .ok sheet')
    : sheet.Fills sheet' := by
  rw [applyStyle] at done
  split at done
  · cases done
    exact .refl
  · refine ifGiven_fills (fun style done => ?_) done
    obtain ⟨place, rfl⟩ := setStyle_eq_ok.mp done
    exact .single (.style place style)

variable {s s' : SheetReading}

theorem onSheet_fills {change : Sheet → Except ModelError Sheet}
    (each : ∀ sheet', change s.sheet = .ok sheet' → s.sheet.Fills sheet')
    (done : s.onSheet change = .ok s')
    : s.sheet.Fills s'.sheet := by
  obtain ⟨sheet', changed, done⟩ := bind_eq_ok.mp done
  cases done
  exact each sheet' (mapError_eq_ok.mp changed)

theorem start_fills {tag : Xml.Tag} (done : s.start tag = .ok s') : s.sheet.Fills s'.sheet := by
  unfold start at done
  split at done
  · exact onSheet_fills (fun _ => applyRow_fills) done
  · obtain ⟨_, _, done⟩ := bind_eq_ok.mp done
    cases done
    exact .refl
  · cases done
    exact .refl
  · cases done
    exact .refl
  · cases done
    split <;> exact .refl
  · cases done
    exact .refl

theorem text_fills {content : Option String} (done : s.text content = .ok s')
    : s.sheet.Fills s'.sheet := by
  unfold SheetReading.text at done
  split at done
  · cases done
    exact .refl
  · obtain ⟨_, _, done⟩ := bind_eq_ok.mp done
    cases done
    exact .refl
  · obtain ⟨_, _, done⟩ := bind_eq_ok.mp done
    cases done
    exact .refl

theorem finishCell_fills {head : CellHead} (done : s.finishCell shared head = .ok s')
    : s.sheet.Fills s'.sheet := by
  obtain ⟨value, _, done⟩ := bind_eq_ok.mp done
  obtain ⟨_, valuing, styling⟩ := bind_eq_ok.mp done
  have valued := onSheet_fills (fun sheet' done => by
    obtain ⟨place, rfl⟩ := setValue_eq_ok.mp done
    exact .single (.value place value)) valuing
  exact valued.trans (onSheet_fills (fun _ => applyStyle_fills) styling)

theorem close_fills {name : String} (done : s.close shared name = .ok s')
    : s.sheet.Fills s'.sheet := by
  unfold SheetReading.close at done
  split at done
  · cases done
    exact .refl
  · cases done
    exact .refl
  · cases done
    exact .refl
  · split at done
    · cases done
      exact .refl
    · exact finishCell_fills done
  · cases done
    exact .refl

/-- An event changes the split as it says, and what else it changes comes to its place. -/
theorem step_fills {event : Xml.Event} (done : step shared s event = .ok s')
    : Fills { s.sheet with freeze := splitAfter s.sheet.freeze event } s'.sheet := by
  cases event with
  | start tag => exact start_fills done
  | text content => exact text_fills done
  | close name => exact close_fills done
  | empty tag =>
      by_cases pane : tag.name = "pane"
      · have paned : s' = { s with sheet := applyPane tag s.sheet } := by
          simp only [step, SheetReading.empty, pane] at done
          exact (Except.ok.inj done).symm
        rw [paned, applyPane_eq pane]
      · rw [splitAfter_of_ne pane]
        change s.empty shared tag = .ok s' at done
        unfold SheetReading.empty at done
        split at done
        · exact onSheet_fills (fun _ => applyRow_fills) done
        · obtain ⟨_, _, done⟩ := bind_eq_ok.mp done
          exact onSheet_fills (fun _ => applyStyle_fills) done
        · exact onSheet_fills (fun _ => applyColumnSpan_fills) done
        · next named => exact absurd named pane
        · exact onSheet_fills (fun _ => ifGiven_fills fun _ => applyMerge_fills) done
        · exact onSheet_fills (fun _ => ifGiven_fills fun _ => applyFilter_fills) done
        · cases done
          exact .refl

/-- A run of events leaves the content in order and the split that the events name, by induction on
the events.
-/
theorem foldlM_legal {events : List Xml.Event} (legal : s.sheet.LegalContent)
    (done : events.foldlM (step shared) s = .ok s')
    : s'.sheet.LegalContent ∧ s'.sheet.freeze = events.foldl splitAfter s.sheet.freeze := by
  induction events generalizing s with
  | nil =>
      cases done
      exact ⟨legal, rfl⟩
  | cons event rest ih =>
      rw [List.foldlM_cons] at done
      obtain ⟨t, stepped, done⟩ := bind_eq_ok.mp done
      have fills := step_fills stepped
      have ready : LegalContent { s.sheet with freeze := splitAfter s.sheet.freeze event } :=
        { legal with }
      obtain ⟨reached, split⟩ := ih (fills.legal ready) done
      rw [fills.freeze] at split
      exact ⟨reached, split⟩

end SheetReading

-----------------------------------------------------------------------------------------
-- Sheets
-----------------------------------------------------------------------------------------

variable {p : Package} {s : Sheet} {w w' : Workbook}

/-- What is read of a part is a sheet with content in order and the split that the part names. -/
theorem readSheet_legal {shared : Shared} {path name : String}
    (read : readSheet p shared path name = .ok s)
    : s.LegalContent ∧ ∃ part, p.part? path = some part ∧ s.freeze = part.content.split? := by
  obtain ⟨reading, done, same⟩ := bind_eq_ok.mp read
  cases same
  unfold foldPart at done
  split at done
  · cases done
  · next part found =>
      obtain ⟨ended, folded, done⟩ := bind_eq_ok.mp done
      split at done
      · cases done
      · cases done
        obtain ⟨content, split⟩ := SheetReading.foldlM_legal (.blank name) folded
        exact ⟨content, part, found, split⟩

theorem readSheet_name {shared : Shared} {path name : String}
    (read : readSheet p shared path name = .ok s)
    : s.name = name := by
  have ends := readSheet_ends p shared path name
  rw [read] at ends
  cases ends with
  | ok same => exact same

-----------------------------------------------------------------------------------------
-- Workbooks
-----------------------------------------------------------------------------------------

/-- The package lists a sheet under the name and leads from there to the part. -/
def LeadsToSheet (p : Package) (name : String) (part : Part) : Prop :=
  ∃ entries paths, p.readSheetEntries = .ok entries ∧ p.readSheetPaths = .ok paths
    ∧ ∃ entry ∈ entries, entry.name = name
      ∧ (paths.lookup entry.relationship).bind p.part? = some part

/-- Names are acceptable, and each sheet has content in order and the split that its part names. -/
structure Yields (p : Package) (w : Workbook) : Prop where
  named : w.Named
  content : ∀ s ∈ w.sheets, s.LegalContent
  split : ∀ s ∈ w.sheets, ∃ part, p.LeadsToSheet s.name part ∧ s.freeze = part.content.split?

/-- A sheet joins those that were read before. -/
theorem addSheetOf_yields {shared : Shared} {paths : List (String × String)} {entry : SheetEntry}
    (leads : ∀ part, (paths.lookup entry.relationship).bind p.part? = some part
      → p.LeadsToSheet entry.name part)
    (yields : p.Yields w) (done : addSheetOf p shared paths w entry = .ok w')
    : p.Yields w' := by
  rw [addSheetOf] at done
  split at done
  · cases done
  · next path target =>
      obtain ⟨_, free, done⟩ := bind_eq_ok.mp done
      obtain ⟨s, read, done⟩ := bind_eq_ok.mp done
      cases done
      have same := readSheet_name read
      obtain ⟨content, part, found, split⟩ := readSheet_legal read
      refine ⟨?_, fun other member => ?_, fun other member => ?_⟩
      · have joins := Workbook.checkNewName_eq_ok.mp (mapError_eq_ok.mp free)
        rw [Workbook.Named, List.map_append, List.map_singleton, same]
        exact Workbook.acceptable_concat.mpr ⟨yields.named, joins⟩
      · rcases List.mem_append.mp member with member | single
        · exact yields.content other member
        · cases List.mem_singleton.mp single
          exact content
      · rcases List.mem_append.mp member with member | single
        · exact yields.split other member
        · cases List.mem_singleton.mp single
          have reached : p.LeadsToSheet entry.name part := leads part (by rw [target]; exact found)
          exact ⟨part, same ▸ reached, split⟩

/-- Sheets join one after the other, by induction on the list of them. -/
theorem foldlM_yields {shared : Shared} {paths : List (String × String)}
    {entries : List SheetEntry}
    (leads : ∀ entry ∈ entries, ∀ part,
      (paths.lookup entry.relationship).bind p.part? = some part → p.LeadsToSheet entry.name part)
    (yields : p.Yields w) (done : entries.foldlM (addSheetOf p shared paths) w = .ok w')
    : p.Yields w' := by
  induction entries generalizing w with
  | nil =>
      cases done
      exact yields
  | cons entry rest ih =>
      rw [List.foldlM_cons] at done
      obtain ⟨_, added, done⟩ := bind_eq_ok.mp done
      refine ih (fun other member => leads other (List.mem_cons_of_mem _ member)) ?_ done
      exact addSheetOf_yields (leads entry List.mem_cons_self) yields added

theorem toWorkbook_yields (read : p.toWorkbook = .ok w) : p.Yields w := by
  rw [toWorkbook] at read
  split at read
  · cases read
  · obtain ⟨_, _, read⟩ := bind_eq_ok.mp read
    obtain ⟨_, _, read⟩ := bind_eq_ok.mp read
    obtain ⟨entries, listed, read⟩ := bind_eq_ok.mp read
    obtain ⟨paths, linked, read⟩ := bind_eq_ok.mp read
    obtain ⟨_, sheets, read⟩ := bind_eq_ok.mp read
    obtain ⟨_, _, read⟩ := bind_eq_ok.mp read
    cases read
    have none {s : Sheet} (member : s ∈ ([] : List Sheet)) : False := List.not_mem_nil member
    have blank : p.Yields {} :=
      ⟨Workbook.Reachable.empty.named, fun _ member => (none member).elim,
        fun _ member => (none member).elim⟩
    have yields := foldlM_yields
      (fun entry member _ found => ⟨entries, paths, listed, linked, entry, member, rfl, found⟩)
      blank sheets
    exact ⟨yields.named, yields.content, yields.split⟩

/-- Whatever package is read, the sheets have names that they can have beside each other, and the
content of each is in order. The split of a sheet is the one that the last frozen pane in its part
names, so that the sheet as a whole is in order just if that split lies on it.
-/
theorem toWorkbook_legal (read : p.toWorkbook = .ok w)
    : Workbook.Acceptable (w.sheets.map (·.name))
      ∧ ∀ s ∈ w.sheets, s.LegalContent
        ∧ ∃ part, p.LeadsToSheet s.name part ∧ s.freeze = part.content.split?
          ∧ (s.Legal ↔ ∀ f, part.content.split? = some f → f.topLeftCell.OnSheet) := by
  have yields := toWorkbook_yields read
  refine ⟨yields.named, fun s member => ⟨yields.content s member, ?_⟩⟩
  obtain ⟨part, leads, split⟩ := yields.split s member
  refine ⟨part, leads, split, ?_⟩
  rw [← split]
  exact ⟨Legal.freeze, fun freeze => ⟨yields.content s member, freeze⟩⟩

-----------------------------------------------------------------------------------------
-- Samples
-----------------------------------------------------------------------------------------

/-- Of a workbook with one sheet that sheet is found by what it shows. -/
theorem exists_of_map_toOption {result : Except ReadError Workbook} {f : Sheet → α} {a : α}
    (found : result.toOption.map (fun w => w.sheets.map f) = some [a])
    : ∃ w s, result = .ok w ∧ w.sheets = [s] ∧ f s = a := by
  cases result with
  | error e => cases found
  | ok w =>
      obtain ⟨s, single, shown⟩ := List.map_eq_singleton_iff.mp (Option.some.inj found)
      exact ⟨w, s, rfl, single, shown⟩

/-- A package with one sheet. -/
def packageOf (sheet : String) : Package :=
  [⟨"[Content_Types].xml", .text "<Types/>"⟩,
    ⟨"xl/workbook.xml",
      .text "<workbook><sheets><sheet name='S' r:id='rId1'/></sheets></workbook>"⟩,
    ⟨"xl/_rels/workbook.xml.rels",
      .text ("<Relationships><Relationship Id='rId1' Type='/worksheet' Target='sheet.xml'/>" ++
        "</Relationships>")⟩,
    ⟨"xl/sheet.xml", .text sheet⟩]

/-- A sheet with a value, a merged range and a split behind its first row. -/
def plainSheet : String :=
  "<worksheet><pane ySplit='1' state='frozen'/><c r='B2'><v>5</v></c>" ++
    "<mergeCell ref='D4:C3'/></worksheet>"

theorem toWorkbook_plainSheet
    : ∃ w s, (packageOf plainSheet).toWorkbook = .ok w ∧ w.sheets = [s]
        ∧ s.freeze = some ⟨1, 0⟩ ∧ s.merged = [⟨⟨2, 2⟩, ⟨3, 3⟩⟩] ∧ s.Legal := by
  have found : (packageOf plainSheet).toWorkbook.toOption.map (fun w =>
      w.sheets.map fun s => (s.freeze, s.merged)) = some [(some ⟨1, 0⟩, [⟨⟨2, 2⟩, ⟨3, 3⟩⟩])] := by
    decide +kernel
  obtain ⟨w, s, read, single, shown⟩ := exists_of_map_toOption found
  obtain ⟨freeze, merged⟩ := Prod.mk.injEq .. ▸ shown
  obtain ⟨-, each⟩ := toWorkbook_legal read
  obtain ⟨-, part, -, split, legal⟩ := each s (by rw [single]; exact List.mem_singleton_self s)
  refine ⟨w, s, read, single, freeze, merged, legal.mpr fun f named => ?_⟩
  rw [← split, freeze] at named
  cases named
  exact ⟨by decide, by decide⟩

/-- A sheet that is split far below its last row. -/
def deepSheet : String := "<worksheet><pane ySplit='2000000' state='frozen'/></worksheet>"

/-- Such a sheet is read all the same. -/
theorem toWorkbook_deepSheet
    : ∃ w s, (packageOf deepSheet).toWorkbook = .ok w ∧ w.sheets = [s]
        ∧ s.freeze = some ⟨2000000, 0⟩ ∧ ¬ s.Legal := by
  have found : (packageOf deepSheet).toWorkbook.toOption.map (fun w =>
      w.sheets.map (·.freeze)) = some [some ⟨2000000, 0⟩] := by
    decide +kernel
  obtain ⟨w, s, read, single, freeze⟩ := exists_of_map_toOption found
  refine ⟨w, s, read, single, freeze, fun legal => ?_⟩
  have place := (legal.freeze _ freeze).row
  revert place
  decide

end Package

end Spreadsheet
