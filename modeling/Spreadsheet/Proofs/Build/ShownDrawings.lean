import Spreadsheet.Proofs.Build.BuildingRuns

/-! What the target of a workbook can show makes no difference to what is built, but for the charts
and pictures that are left out. Those are checked all the same, and no other step of building looks
at them, so that a build for any target is the build for one that can show everything, with the
drawings left out in the end.
-/

namespace Spreadsheet

open Spreadsheet.Cell Spreadsheet.Sheet

/-- The sheet with the drawings that can be shown. -/
def Sheet.shownBy (can : Build.Capabilities) (s : Sheet) : Sheet :=
  { s with
    charts := if can.charts then s.charts else []
    pictures := if can.pictures then s.pictures else [] }

def Workbook.shownBy (can : Build.Capabilities) (w : Workbook) : Workbook :=
  { w with sheets := w.sheets.map (·.shownBy can) }

namespace Build

open Spreadsheet.Request

variable {can : Capabilities} {spec : SheetSpec} {s s' : Sheet}

-----------------------------------------------------------------------------------------
-- Steps that do not look at drawings
-----------------------------------------------------------------------------------------

/-- The step does the same to a sheet, and ends in the same way, whether or not drawings are left
out of it.
-/
def Blind (step : Sheet → Except ε Sheet) : Prop :=
  ∀ can s, step (s.shownBy can) = (step s).map (·.shownBy can)

namespace Blind

variable {f g : Sheet → Except ε Sheet}

theorem done : Blind (ε := ε) .ok := fun _ _ => rfl

/-- A step that is blind goes on from one that has ended in the same way. -/
theorem bind {can : Capabilities} {x y : Except ε Sheet} (same : x = y.map (·.shownBy can))
    (blind : Blind g)
    : (x >>= g) = (y >>= g).map (·.shownBy can) := by
  subst same
  cases y with
  | error e => rfl
  | ok t => exact blind can t

theorem seq (first : Blind f) (second : Blind g) : Blind fun s => f s >>= g :=
  fun can s => bind (first can s) second

/-- A step may depend on something that is worked out without the sheet. -/
theorem after {x : Except ε α} {step : α → Sheet → Except ε Sheet} (each : ∀ a, Blind (step a))
    : Blind fun s => x >>= fun a => step a s := by
  intro can s
  cases x with
  | error e => rfl
  | ok a => exact each a can s

theorem ite {p : Sheet → Prop} [DecidablePred p] (same : ∀ can s, p (s.shownBy can) ↔ p s)
    (yes : Blind f) (no : Blind g)
    : Blind fun s => if p s then f s else g s := by
  intro can s
  by_cases holds : p s
  · simp only [if_pos holds, if_pos ((same can s).mpr holds)]
    exact yes can s
  · simp only [if_neg holds, if_neg (holds ∘ (same can s).mp)]
    exact no can s

theorem onModel {f : Sheet → Except ModelError Sheet} (blind : Blind f)
    : Blind fun s => Build.onModel (f s) := by
  intro can s
  simp only [blind can s]
  cases f s <;> rfl

theorem forEachFrom {step : Nat → α → Sheet → Except BuildError Sheet}
    (each : ∀ i a, Blind (step i a)) (i : Nat) (list : List α)
    : Blind (forEachFrom step i list) := by
  induction list generalizing i with
  | nil => exact .done
  | cons a rest ih => exact .seq (each i a) (ih (i + 1))

theorem setValue (row column : Nat) (value : Value) : Blind (·.setValue row column value) := by
  intro can s
  simp only [Sheet.setValue]
  cases ModelError.checkPosition row column <;> rfl

theorem setStyle (row column : Nat) (style : Style) : Blind (·.setStyle row column style) := by
  intro can s
  simp only [Sheet.setStyle]
  cases ModelError.checkPosition row column <;> rfl

/-- The style that is changed is not one of the drawings. -/
theorem updateStyle (row column : Nat) (change : Style → Style)
    : Blind (·.updateStyle row column change) :=
  fun can s => setStyle row column (change (s.style row column)) can s

theorem merge (range : Range) : Blind (·.merge range) :=
  .ite (fun _ _ => .rfl) (fun _ _ => rfl) (fun _ _ => rfl)

/-- Drawings that are left out need not be moved. -/
theorem shownBy_shiftRows (can : Capabilities) (s : Sheet) (start count : Nat)
    : (s.shownBy can).shiftRows start count = (s.shiftRows start count).shownBy can := by
  obtain ⟨charts, pictures⟩ := can
  cases charts <;> cases pictures <;> rfl

end Blind

theorem stripeRows_blind (spec : SheetSpec) : Blind (stripeRows spec) := by
  refine .forEachFrom (fun _ i => ?_) 0 _
  refine .ite (fun _ _ => .rfl) (.after fun row => .forEachFrom (fun _ j => ?_) 0 _) .done
  exact .after fun c => .ite (fun _ _ => .rfl) (.onModel (.updateStyle row c _)) .done

/-- Anchors that fit in any case have no part in whether everything does. -/
theorem rowsFit_iff {start count : Nat}
    (low : ∀ a ∈ s.anchors.flatMap Anchor.corners, RowFits start count a.row)
    : s.RowsFit start count
      ↔ (∀ a ∈ s.ranges.flatMap Range.corners, RowFits start count a.row)
        ∧ ∀ f ∈ s.freeze, f.RowsFit start count := by
  rw [RowsFit, corners, List.forall_mem_append]
  exact and_congr_left' (and_iff_left low)

/-- Whether rows can be put in does not depend on drawings that stand on the sheet. -/
theorem insertRows_shownBy {start count : Nat} (can : Capabilities)
    (low : ∀ a ∈ s.anchors.flatMap Anchor.corners, RowFits start count a.row)
    : (s.shownBy can).insertRows start count
      = (s.insertRows start count).map (·.shownBy can) := by
  have shown : (s.shownBy can).anchors ⊆ s.anchors := by
    obtain ⟨charts, pictures⟩ := can
    cases charts <;> cases pictures <;> simp [Sheet.shownBy, anchors]
  have lowShown : ∀ a ∈ (s.shownBy can).anchors.flatMap Anchor.corners,
      RowFits start count a.row := by
    intro a member
    obtain ⟨anchor, placed, corner⟩ := List.mem_flatMap.mp member
    exact low a (List.mem_flatMap.mpr ⟨anchor, shown placed, corner⟩)
  have fits : (s.shownBy can).RowsFit start count ↔ s.RowsFit start count :=
    (rowsFit_iff lowShown).trans (rowsFit_iff low).symm
  have checked : (s.shownBy can).checkLastRow start count = s.checkLastRow start count := rfl
  simp only [Sheet.insertRows, Blind.shownBy_shiftRows, checked, fits]
  split
  · rfl
  · cases s.checkLastRow start count with
    | error e => rfl
    | ok => by_cases fit : s.RowsFit start count <;> simp only [fit, if_true, if_false] <;> rfl

/-- The rows of a title do not move anything on the sheet so far that its number would not fit. -/
theorem rowFits_titleRows (inside : s.AllInBounds)
    : ∀ a ∈ s.anchors.flatMap Anchor.corners, RowFits 0 titleRows a.row := by
  intro a member _
  obtain ⟨anchor, placed, corner⟩ := List.mem_flatMap.mp member
  have onSheet := (allInBounds_iff.mp inside).2.2.2.1 anchor placed
  have limits : maxRows + titleRows ≤ rowNumberLimit := by decide
  have low : a.row < maxRows := by
    rcases List.mem_pair.mp corner with rfl | rfl
    · exact onSheet.topLeft.row
    · exact onSheet.bottomRight.row
  omega

theorem writeTitle_shownBy (today : Time.Date) (spec : SheetSpec) (title : String)
    (can : Capabilities) (inside : s.AllInBounds)
    : writeTitle today spec title (s.shownBy can)
      = (writeTitle today spec title s).map (·.shownBy can) := by
  refine Blind.bind ?_ <| .seq (.onModel (.setValue 0 0 (.text title))) <|
    .seq (.onModel (.setStyle 0 0 titleStyle)) <| .seq (.onModel (.setValue 1 0 _)) ?_
  · rw [insertRows_shownBy can (rowFits_titleRows inside)]
    cases s.insertRows 0 titleRows <;> rfl
  · refine .ite (fun _ _ => .rfl) .done (.after fun last => ?_)
    exact .seq (.onModel (.merge _)) (.onModel (.merge _))

/-- A table that is on its sheet is made a report whatever is shown of its drawings. -/
theorem decorate_shownBy (today : Time.Date) (spec : SheetSpec) (can : Capabilities)
    (sound : s.cells.Sound) (inside : s.AllInBounds)
    : decorate today spec (s.shownBy can) = (decorate today spec s).map (·.shownBy can) := by
  simp only [decorate, stripeRows_blind spec can s]
  cases stripes : stripeRows spec s with
  | error e => rfl
  | ok t =>
      have inside := (stripeRows_stripedTo sound stripes).inBounds inside
      have titled (title : String) := writeTitle_shownBy today spec title can inside
      simp only [Except.map, bind, Except.bind] at titled ⊢
      cases spec.title? with
      | none => rfl
      | some title => exact titled title

-----------------------------------------------------------------------------------------
-- Drawings
-----------------------------------------------------------------------------------------

/-- The pictures that a sheet declares with data, numbered from the first one on. -/
def madePictures (sheet : String) : Nat → List PictureSpec → Except BuildError (List Picture)
  | _, [] => .ok []
  | index, spec :: specs =>
    match spec.base64 with
    | none => madePictures sheet (index + 1) specs
    | some payload => do
      let first ← picture sheet index spec payload
      let others ← madePictures sheet (index + 1) specs
      return first :: others

/-- The pictures are added one after the other, by induction on their declarations. -/
theorem addPictures_result (can : Capabilities) (index : Nat) (specs : List PictureSpec) (s : Sheet)
    : (addPictures can index specs s).result
      = (madePictures s.name index specs).map fun pictures =>
          if can.pictures then { s with pictures := s.pictures ++ pictures } else s := by
  induction specs generalizing index s with
  | nil =>
      simp only [addPictures, madePictures, Except.map, List.append_nil, ite_self]
      rfl
  | cons spec rest ih =>
      rw [addPictures, Logged.result_bind, addPicture_result, madePictures]
      simp only [ih]
      cases spec.base64 with
      | none => rfl
      | some payload =>
          dsimp only
          cases picture s.name index spec payload with
          | error e => rfl
          | ok p =>
              change Except.map _ (madePictures (if can.pictures = true then _ else s).name _ _)
                = Except.map _ (madePictures s.name (index + 1) rest >>= _)
              cases can.pictures with
              | false =>
                  simp only [Bool.false_eq_true, if_false]
                  cases madePictures s.name (index + 1) rest <;> rfl
              | true =>
                  simp only [if_true, Sheet.addPicture]
                  cases madePictures s.name (index + 1) rest with
                  | error e => rfl
                  | ok others => simp [Except.map, bind, Except.bind, pure, Except.pure]

-----------------------------------------------------------------------------------------
-- Sheets
-----------------------------------------------------------------------------------------

theorem tableCells_noDrawings (done : tableCells spec = .ok s)
    : s.charts = [] ∧ s.pictures = [] := by
  obtain ⟨t, u, before, ruled, behind⟩ := tableCells_parts done
  have first := sameLists_of_run before
  have second := sameLists_of_run behind
  obtain ⟨rules, rfl, -⟩ := addRules_eq_ok ruled
  exact ⟨second.charts.trans first.charts, second.pictures.trans first.pictures⟩

/-- The table of a sheet with all of its drawings. -/
def drawnTable (spec : SheetSpec) : Except BuildError Sheet := do
  let s ← tableCells spec
  let charts ← spec.charts.mapM chart
  let pictures ← madePictures s.name 0 spec.pictures
  return { s with charts, pictures }

/-- Without charts nothing is added, whether or not they are gone through. -/
theorem addCharts_skippable (can : Capabilities) (specs : List ChartSpec) (s : Sheet)
    (next : Sheet → Logged BuildError Sheet)
    : (if specs.isEmpty then pure s >>= next else addCharts can specs s >>= next).result
      = (addCharts can specs s).result >>= fun t => (next t).result := by
  cases specs with
  | nil =>
      rw [addCharts_result, List.mapM_nil]
      change _ = (next (if can.charts then { s with charts := s.charts ++ [] } else s)).result
      rw [List.append_nil, ite_self]
      exact Logged.result_bind _ _
  | cons => exact Logged.result_bind _ _

/-- The drawings that cannot be shown are all that a table misses. -/
theorem tableSheet_result (can : Capabilities) (spec : SheetSpec)
    : (tableSheet can spec).result = (drawnTable spec).map (·.shownBy can) := by
  rw [tableSheet, drawnTable, Logged.result_bind]
  cases cells : tableCells spec with
  | error e => rfl
  | ok s =>
      obtain ⟨noCharts, noPictures⟩ := tableCells_noDrawings cells
      refine (addCharts_skippable can spec.charts s (addPictures can 0 spec.pictures)).trans ?_
      change _ = Except.map _ (spec.charts.mapM chart >>= _)
      rw [addCharts_result]
      cases spec.charts.mapM chart with
      | error e => rfl
      | ok charts =>
          have name
              : (if can.charts then { s with charts := s.charts ++ charts } else s).name
                = s.name := by
            split <;> rfl
          change (addPictures can 0 spec.pictures (if can.charts then _ else s)).result
            = Except.map _ (madePictures s.name 0 spec.pictures >>= _)
          rw [addPictures_result, name]
          cases madePictures s.name 0 spec.pictures with
          | error e => rfl
          | ok pictures =>
              have blank : s = { s with charts := [], pictures := [] } := by
                rw [← noCharts, ← noPictures]
              refine congrArg Except.ok ?_
              obtain ⟨showsCharts, showsPictures⟩ := can
              cases showsCharts <;> cases showsPictures
              · exact blank
              all_goals simp [Sheet.shownBy, noCharts, noPictures]

/-- A finished table is that of the cells with the drawings that can be shown, and all drawings were
made.
-/
theorem tableSheet_parts {table : Sheet} (built : (tableSheet can spec).result = .ok table)
    : ∃ t charts pictures, tableCells spec = .ok t ∧ spec.charts.mapM chart = .ok charts
        ∧ madePictures t.name 0 spec.pictures = .ok pictures
        ∧ table = Sheet.shownBy can { t with charts, pictures } := by
  rw [tableSheet_result] at built
  obtain ⟨drawn, made, rfl⟩ := map_eq_ok.mp built
  obtain ⟨t, cells, made⟩ := bind_eq_ok.mp made
  obtain ⟨charts, charted, made⟩ := bind_eq_ok.mp made
  obtain ⟨pictures, pictured, made⟩ := bind_eq_ok.mp made
  cases made
  exact ⟨t, charts, pictures, cells, charted, pictured, rfl⟩

/-- A sheet with all of its drawings. -/
def drawnSheet (today : Time.Date) (generator : Generator) (spec : SheetSpec)
    : Except BuildError Sheet :=
  match generator with
  | .table => drawnTable spec
  | .report => drawnTable spec >>= decorate today spec

/-- In either layout the drawings that cannot be shown are all that a sheet misses. -/
theorem sheet_result (setting : Setting) (generator : Generator) (spec : SheetSpec)
    : (sheet setting generator spec).result
      = (drawnSheet setting.today generator spec).map (·.shownBy setting.can) := by
  cases generator with
  | table => exact tableSheet_result setting.can spec
  | report =>
      rw [sheet, reportSheet, Logged.result_bind, tableSheet_result, drawnSheet]
      cases drawn : drawnTable spec with
      | error e => rfl
      | ok s =>
          have whole : (tableSheet ⟨true, true⟩ spec).result = .ok s := by
            rw [tableSheet_result, drawn]
            rfl
          have finished := tableSheet_builtTable whole
          exact decorate_shownBy setting.today spec setting.can finished.sound finished.inBounds

-----------------------------------------------------------------------------------------
-- Workbooks
-----------------------------------------------------------------------------------------

/-- The circumstances with a target that can show everything. -/
def Setting.unlimited (setting : Setting) : Setting := { setting with can := ⟨true, true⟩ }

theorem sheet_unlimited (setting : Setting) (generator : Generator) (spec : SheetSpec)
    : (sheet setting generator spec).result
      = ((sheet setting.unlimited generator spec).result).map (·.shownBy setting.can) := by
  rw [sheet_result, sheet_result]
  change _ = Except.map _ (Except.map (·.shownBy ⟨true, true⟩)
    (drawnSheet setting.today generator spec))
  cases drawnSheet setting.today generator spec <;> rfl

/-- Names are free whatever is shown of the sheets that have them. -/
theorem checkNewName_shownBy (w : Workbook) (name : String)
    : (w.shownBy can).checkNewName name = w.checkNewName name := by
  have same : (w.shownBy can).sheets.any (Workbook.sameName ·.name name)
      = w.sheets.any (Workbook.sameName ·.name name) :=
    List.any_map
  rw [Workbook.checkNewName, same]
  rfl

theorem addSheet_unlimited (setting : Setting) (generator : Generator) (w : Workbook)
    (spec : SheetSpec)
    : (addSheet setting generator (w.shownBy setting.can) spec).result
      = ((addSheet setting.unlimited generator w spec).result).map (·.shownBy setting.can) := by
  simp only [addSheet, Logged.result_bind, checkNewName_shownBy, sheet_unlimited setting]
  change (onModel (w.checkNewName spec.name) >>= _)
    = Except.map _ (onModel (w.checkNewName spec.name) >>= _)
  cases onModel (w.checkNewName spec.name) with
  | error e => rfl
  | ok u =>
      change (Except.map _ _ >>= _)
        = Except.map _ ((sheet setting.unlimited generator spec).result >>= _)
      cases (sheet setting.unlimited generator spec).result with
      | error e => rfl
      | ok s =>
          refine congrArg Except.ok ?_
          simp only [Workbook.shownBy, List.map_append, List.map_cons, List.map_nil]

/-- Sheets are added one after the other, by induction on their declarations. -/
theorem addSheets_unlimited (setting : Setting) (generator : Generator) (specs : List SheetSpec)
    (w : Workbook)
    : (addSheets setting generator specs (w.shownBy setting.can)).result
      = ((addSheets setting.unlimited generator specs w).result).map (·.shownBy setting.can) := by
  induction specs generalizing w with
  | nil => rfl
  | cons spec rest ih =>
      rw [addSheets, addSheets, Logged.result_bind, Logged.result_bind, addSheet_unlimited]
      cases (addSheet setting.unlimited generator w spec).result with
      | error e => rfl
      | ok w' => exact ih w'

/-- A workbook for any target is the one for a target that can show everything, without what cannot
be shown, and is refused for the same reason if it is.
-/
theorem workbookIn_unlimited (setting : Setting) (generator : Generator) (r : Request)
    : (workbookIn setting generator r).result
      = ((workbookIn setting.unlimited generator r).result).map (·.shownBy setting.can) := by
  have added := addSheets_unlimited setting generator r.sheets {}
  rw [workbookIn, workbookIn, Logged.result_bind, Logged.result_bind]
  refine (congrArg (· >>= _) added).trans ?_
  cases (addSheets setting.unlimited generator r.sheets {}).result <;> rfl

-----------------------------------------------------------------------------------------
-- What is shown
-----------------------------------------------------------------------------------------

/-- The pictures that are declared with data, and their data. -/
def payloads (specs : List PictureSpec) : List (PictureSpec × String) :=
  specs.filterMap fun spec => spec.base64.map (spec, ·)

/-- The picture is made of a declaration and its data. -/
structure IsPicture (declared : PictureSpec × String) (p : Picture) : Prop where
  data : pictureData declared.2 = .ok p.data
  format : pictureFormat? declared.1.extension p.data = some p.format
  anchor : anchor declared.1.position = .ok p.anchor

theorem picture_isPicture {sheet payload : String} {index : Nat} {spec : PictureSpec} {p : Picture}
    (made : picture sheet index spec payload = .ok p)
    : IsPicture (spec, payload) p := by
  obtain ⟨data, format, anchor⟩ := picture_eq_ok.mp made
  exact ⟨data, format, anchor⟩

/-- There is one picture for each declaration with data, by induction on the declarations. -/
theorem madePictures_arePictures {sheet : String} {index : Nat} {specs : List PictureSpec}
    {pictures : List Picture} (made : madePictures sheet index specs = .ok pictures)
    : List.Forall₂ IsPicture (payloads specs) pictures := by
  induction specs generalizing index pictures with
  | nil =>
      cases made
      exact .nil
  | cons spec rest ih =>
      simp only [madePictures] at made
      simp only [payloads, List.filterMap_cons]
      cases data : spec.base64 with
      | none =>
          rw [data] at made
          exact ih made
      | some payload =>
          rw [data] at made
          obtain ⟨p, first, made⟩ := bind_eq_ok.mp made
          obtain ⟨others, later, made⟩ := bind_eq_ok.mp made
          cases made
          exact .cons (picture_isPicture first) (ih later)

/-- The drawings of a sheet are the declared ones that can be shown, in their order and some rows
further down; pictures without data are none.
-/
structure Draws (can : Capabilities) (k : Nat) (spec : SheetSpec) (s : Sheet) : Prop where
  charts
    : if can.charts then
        List.Forall₂
          (fun declared c => ∃ made, chart declared = .ok made
            ∧ c = { made with anchor := made.anchor.down k })
          spec.charts s.charts
      else s.charts = []
  pictures
    : if can.pictures then
        List.Forall₂
          (fun declared p => ∃ made, IsPicture declared made
            ∧ p = { made with anchor := made.anchor.down k })
          (payloads spec.pictures) s.pictures
      else s.pictures = []

theorem sheet_draws {setting : Setting} {generator : Generator}
    (built : (sheet setting generator spec).result = .ok s)
    : Draws setting.can (rowsAboveIn generator spec) spec s := by
  obtain ⟨table, finished, down⟩ := sheet_restDown built
  obtain ⟨t, charts, pictures, -, charted, pictured, rfl⟩ := tableSheet_parts finished
  constructor
  · rw [down.charts, Sheet.shownBy]
    split
    · rw [List.forall₂_map_right_iff]
      exact (mapM_eq_ok.mp charted).imp fun _ made built => ⟨made, built, rfl⟩
    · rfl
  · rw [down.pictures, Sheet.shownBy]
    split
    · rw [List.forall₂_map_right_iff]
      exact (madePictures_arePictures pictured).imp fun _ made built => ⟨made, built, rfl⟩
    · rfl

/-- The sheets agree on everything but the drawings. -/
def SameButDrawings (s s' : Sheet) : Prop :=
  s' = { s with charts := s'.charts, pictures := s'.pictures }

/-- For any two targets a workbook is built or refused for the same reason, in either layout, and
the two workbooks differ in nothing but the drawings, of which each has the declared ones that its
target can show.
-/
theorem workbookIn_anyTarget (setting : Setting) (can can' : Capabilities) (generator : Generator)
    (r : Request)
    : (∀ e, (workbookIn { setting with can } generator r).result = .error e
        ↔ (workbookIn { setting with can := can' } generator r).result = .error e)
      ∧ ∀ w, (workbookIn { setting with can } generator r).result = .ok w
        → List.Forall₂ (fun spec s => Draws can (rowsAboveIn generator spec) spec s)
              r.sheets w.sheets
          ∧ ∃ w', (workbookIn { setting with can := can' } generator r).result = .ok w'
            ∧ w'.properties = w.properties
            ∧ List.Forall₂ SameButDrawings w.sheets w'.sheets := by
  have first := workbookIn_unlimited { setting with can } generator r
  have second := workbookIn_unlimited { setting with can := can' } generator r
  change _ = ((workbookIn setting.unlimited generator r).result).map (·.shownBy can) at first
  change _ = ((workbookIn setting.unlimited generator r).result).map (·.shownBy can') at second
  constructor
  · intro e
    rw [first, second]
    cases (workbookIn setting.unlimited generator r).result with
    | error reason => exact .rfl
    | ok w => exact iff_of_false nofun nofun
  · intro w built
    refine ⟨?_, ?_⟩
    · exact (workbookIn_sheets built).imp fun _ _ => sheet_draws
    · rw [first] at built
      obtain ⟨whole, made, rfl⟩ := map_eq_ok.mp built
      rw [second, made]
      refine ⟨_, rfl, rfl, ?_⟩
      change List.Forall₂ _ (whole.sheets.map _) (whole.sheets.map _)
      rw [List.forall₂_map_left_iff, List.forall₂_map_right_iff]
      exact List.forall₂_same.mpr fun _ _ => rfl

/-- A titled sheet with a chart, a picture and an address of another picture. -/
def drawingSheet : SheetSpec where
  name := "Drawings"
  columns := [{ header := "Sum", key := "sum" }]
  data := [[("sum", .int 7)]]
  charts := [{ kind := .bar, position := ⟨"C2", "H12"⟩, data := ⟨"A2:A2", []⟩ }]
  pictures := [{ position := ⟨"C14", "D15"⟩, base64 := some "iVBORw==" },
    { position := ⟨"C17", "D18"⟩, url := some "https://example.com/logo.png" }]
  metadata := some [("title", .string "Report")]

/-- For a target that shows only charts and one that shows only pictures, the sheet is built with
one drawing each, three rows further down.
-/
theorem workbookIn_anyTarget_drawingSheet
    : ∃ w w',
        (workbookIn { sampleSetting with can := ⟨true, false⟩ } .report
          ⟨"drawings.xlsx", [drawingSheet], none, none⟩).result = .ok w
        ∧ (workbookIn { sampleSetting with can := ⟨false, true⟩ } .report
          ⟨"drawings.xlsx", [drawingSheet], none, none⟩).result = .ok w'
        ∧ List.Forall₂ SameButDrawings w.sheets w'.sheets
        ∧ List.Forall₂ (fun spec s => Draws ⟨true, false⟩ (rowsAboveIn .report spec) spec s)
            [drawingSheet] w.sheets
        ∧ rowsAboveIn .report drawingSheet = 3 ∧ drawingSheet.charts.length = 1
        ∧ (payloads drawingSheet.pictures).length = 1 := by
  obtain ⟨w, done⟩ := exists_of_isOk
    (x := (workbookIn { sampleSetting with can := ⟨true, false⟩ } .report
      ⟨"drawings.xlsx", [drawingSheet], none, none⟩).result) (by decide +kernel)
  obtain ⟨drawn, w', done', -, same⟩ :=
    (workbookIn_anyTarget sampleSetting ⟨true, false⟩ ⟨false, true⟩ .report
      ⟨"drawings.xlsx", [drawingSheet], none, none⟩).2 w done
  exact ⟨w, w', done, done', same, drawn, by decide +kernel, rfl, rfl⟩

end Build

end Spreadsheet
