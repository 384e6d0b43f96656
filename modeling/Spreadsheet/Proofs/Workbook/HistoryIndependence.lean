import Spreadsheet.Package.Writer
import Spreadsheet.Proofs.Package.LineReadBack
import Spreadsheet.Proofs.Package.StyleNumbers
import Spreadsheet.Proofs.Sheet.ShownSheets

/-! Files hold what a workbook shows and nothing of how it came about. The styles that are listed
come from what cells show, one cell after the other, and from the rules; the order of styles in the
pools of sheets leaves no trace. Each document is made of what the sheets show: of their cells the
values and styles, and of their rows and columns the settings that differ from the default one.
-/

namespace Spreadsheet.Package.StyleTable

open Spreadsheet.Cell Spreadsheet.Style

variable {pool : Pool} {n : Numbering} {t t' : StyleTable} {w : Workbook} {s s' : Sheet}

-----------------------------------------------------------------------------------------
-- The styles of cells
-----------------------------------------------------------------------------------------

/-- A style joins a list unless it is there. -/
def listStyle (styles : Array Style) (style : Style) : Array Style :=
  (intern Style.isComparable styles style).2

/-- The list grows by a style itself, whether its number in the pool is known or not. -/
theorem numberCell_fst (right : Right pool n) {local' : Nat}
    (comparable : (pool.get local').isComparable = true)
    : (numberCell pool n local').1 = listStyle n.1 (pool.get local') := by
  rw [numberCell]
  split
  · next numbered =>
      have found := Std.ExtTreeMap.getElem?_eq_some_getElem numbered
      have listed := Array.mem_of_getElem? (right local' _ found)
      exact (intern_of_mem comparable listed).symm
  · rfl

/-- The list grows by the styles of cells one after the other, by induction on the cells. -/
theorem foldl_numberCell_fst (right : Right pool n) {locals : List Nat}
    (comparable : ∀ local' ∈ locals, (pool.get local').isComparable = true)
    : (locals.foldl (numberCell pool) n).1 = (locals.map pool.get).foldl listStyle n.1 := by
  induction locals generalizing n with
  | nil => rfl
  | cons local' rest ih =>
      have right' := (numberCell_numbers pool n local').right right
      have first := numberCell_fst right (comparable local' List.mem_cons_self)
      rw [List.foldl_cons, List.map_cons, List.foldl_cons, ← first]
      exact ih right' fun other member => comparable other (List.mem_cons_of_mem _ member)

/-- The list grows by the styles that the cells of a sheet show. -/
theorem numberCells_fst {styles : Array Style} (default : styles[0]? = some (s.cells.pool.get 0))
    (comparable : ∀ style ∈ s.cells.cellStyles, style.isComparable = true)
    : (numberCells styles s).1 = s.cells.cellStyles.foldl listStyle styles := by
  have locals : (s.cells.entries.map (·.2.style)).map s.cells.pool.get = s.cells.cellStyles := by
    rw [List.map_map]
    rfl
  rw [numberCells, ← locals]
  refine foldl_numberCell_fst (right_single default) fun local' member => comparable _ ?_
  rw [← locals]
  exact List.mem_map_of_mem member

/-- The number of a cell's style is the place of the style in the list. -/
theorem cellNumber_eq (default : ∀ s ∈ w.sheets, s.cells.pool.get 0 = {})
    (comparable : ∀ style ∈ w.cellStyles, style.isComparable = true)
    {index : Nat} (found : w.sheets[index]? = some s) {row column : Nat} {e : Entry}
    (kept : s.cells.entry? row column = some e)
    : (ofWorkbook w).cellNumber index e.style
      = (ofWorkbook w).styles.toList.idxOf (s.cells.look e).2 := by
  have distinct := (ofWorkbook_covers default).distinct comparable
  have listed := getElem?_cellNumber default found kept
  rw [← Array.getElem?_toList] at listed
  obtain ⟨inside, here⟩ := List.getElem?_eq_some_iff.mp listed
  rw [Grid.look, ← here, distinct.idxOf_getElem]

-----------------------------------------------------------------------------------------
-- Tables of sheets that match
-----------------------------------------------------------------------------------------

/-- The tables have the same lists, and rules have the same numbers in them. -/
structure Agrees (t t' : StyleTable) : Prop where
  styles : t.styles = t'.styles
  ruleStyles : t.ruleStyles = t'.ruleStyles
  ruleNumbers : t.ruleNumbers = t'.ruleNumbers

/-- Sheets that match add the same to both tables. -/
theorem Agrees.addSheet (agrees : t.Agrees t') (both : s.Matches s')
    (default : t.styles[0]? = some ({} : Style))
    (comparable : ∀ style ∈ s.cells.cellStyles, style.isComparable = true)
    : (t.addSheet s).Agrees (t'.addSheet s') := by
  obtain ⟨styles, ruleStyles, ruleNumbers⟩ := agrees
  have listed : (numberCells t.styles s).1 = (numberCells t'.styles s').1 := by
    have same : s.cells.cellStyles = s'.cells.cellStyles := by
      rw [Grid.cellStyles_eq, Grid.cellStyles_eq, both.shown]
    have first : t.styles[0]? = some (s.cells.pool.get 0) := by
      rw [default, both.compact.sound.default]
    have first' : t'.styles[0]? = some (s'.cells.pool.get 0) := by
      rw [← styles, default, both.compact'.sound.default]
    rw [numberCells_fst first comparable, numberCells_fst first' (same ▸ comparable), styles, same]
  refine ⟨listed, ?_, ?_⟩
  · change (numberRules t.ruleStyles s.rules).1 = (numberRules t'.ruleStyles s'.rules).1
    rw [ruleStyles, both.rules]
  · change t.ruleNumbers ++ [(numberRules t.ruleStyles s.rules).2]
      = t'.ruleNumbers ++ [(numberRules t'.ruleStyles s'.rules).2]
    rw [ruleNumbers, ruleStyles, both.rules]

/-- Sheets that match add the same one after the other, by induction on them. -/
theorem Agrees.foldl (agrees : t.Agrees t') (default : t.styles[0]? = some ({} : Style))
    {sheets sheets' : List Sheet} (both : List.Forall₂ Sheet.Matches sheets sheets')
    (comparable : ∀ style ∈ sheets.flatMap (·.cells.cellStyles), style.isComparable = true)
    : (sheets.foldl StyleTable.addSheet t).Agrees (sheets'.foldl StyleTable.addSheet t') := by
  induction both generalizing t t' with
  | nil => exact agrees
  | @cons s s' sheets sheets' first _ ih =>
      rw [List.flatMap_cons, List.forall_mem_append] at comparable
      have grown := (foldl_numberCell_numbers s.cells.pool (s.cells.entries.map (·.2.style))
        (t.styles, Numbered.single 0 0)).extends'
      exact ih (agrees.addSheet first default comparable.1) (grown 0 {} default) comparable.2

/-- The tables of workbooks whose sheets match agree. -/
theorem ofWorkbook_agrees {w' : Workbook} (both : List.Forall₂ Sheet.Matches w.sheets w'.sheets)
    (comparable : ∀ style ∈ w.cellStyles, style.isComparable = true)
    : (ofWorkbook w).Agrees (ofWorkbook w') :=
  Agrees.foldl ⟨rfl, rfl, rfl⟩ rfl both comparable

end Spreadsheet.Package.StyleTable

namespace Spreadsheet.Package

open Spreadsheet.Cell Spreadsheet.Sheet Spreadsheet.Style Spreadsheet.Xml

variable {w w' : Workbook} {s s' : Sheet} {t t' : StyleTable} {index : Nat}

-----------------------------------------------------------------------------------------
-- Rows and columns
-----------------------------------------------------------------------------------------

theorem ownSettings_eq (m : Settings) : ownSettings m = (Settings.own m).toList := by
  rw [Settings.own, Std.ExtTreeMap.toList_filter]
  rfl

/-- The cells of a row come from what the row shows. -/
theorem rowCells_eq (default : ∀ s ∈ w.sheets, s.cells.pool.get 0 = {})
    (comparable : ∀ style ∈ w.cellStyles, style.isComparable = true)
    (found : w.sheets[index]? = some s) (row : Nat)
    : rowCells (StyleTable.ofWorkbook w) index s row
      = (s.cells.shown.getD row ∅).toList.flatMap fun cell =>
          cellNode ⟨row, cell.1⟩ ((StyleTable.ofWorkbook w).styles.toList.idxOf cell.2.2)
            cell.2.1 := by
  rw [rowCells, ← Grid.map_row_toList, List.flatMap_map]
  refine List.flatMap_congr fun (column, e) member => ?_
  have kept : s.cells.entry? row column = some e :=
    Std.ExtTreeMap.mem_toList_iff_getElem?_eq_some.mp member
  dsimp only
  rw [StyleTable.cellNumber_eq default comparable found kept]
  rfl

theorem dimension?_eq (both : s.Matches s') : s.dimension? = s'.dimension? := by
  rw [Sheet.dimension?, Sheet.dimension?, Grid.lastRow?_eq, Grid.lastRow?_eq, Grid.lastColumn?_eq,
    Grid.lastColumn?_eq, both.shown]

theorem writtenRows_eq (both : s.Matches s') : writtenRows s = writtenRows s' := by
  have rows := both.own .rows
  rw [writtenRows, writtenRows, ownSettings_eq, ownSettings_eq, Grid.keys_rows_eq,
    Grid.keys_rows_eq, both.shown]
  change Settings.own s.rows = Settings.own s'.rows at rows
  rw [rows]

-----------------------------------------------------------------------------------------
-- Sheets
-----------------------------------------------------------------------------------------

/-- Sheets that match have the same document if the numbers of styles in them are the same. -/
theorem sheetNode_eq (both : s.Matches s')
    (cells : ∀ row, rowCells t index s row = rowCells t' index s' row)
    (rules : ∀ i, t.ruleNumber? index i = t'.ruleNumber? index i)
    : sheetNode t index s = sheetNode t' index s' := by
  have columns : Settings.own s.columns = Settings.own s'.columns := both.own .columns
  have rows : Settings.own s.rows = Settings.own s'.rows := both.own .rows
  have format : sheetFormatNode s = sheetFormatNode s' := by
    rw [sheetFormatNode, sheetFormatNode, ← Settings.maxLevel_own s.rows,
      ← Settings.maxLevel_own s.columns, rows, columns, Settings.maxLevel_own,
      Settings.maxLevel_own]
  have column : columnNodes s = columnNodes s' := by
    rw [columnNodes, columnNodes, ownSettings_eq, ownSettings_eq, columns]
  have row (row : Nat) : rowNode t index s row = rowNode t' index s' row := by
    have setting : Settings.get s.rows row = Settings.get s'.rows row := both.setting .rows row
    rw [rowNode, rowNode, cells, SheetReading.rowAttributes_eq, SheetReading.rowAttributes_eq,
      setting]
  have data : dataNode t index s = dataNode t' index s' := by
    rw [dataNode, dataNode, writtenRows_eq both, funext row]
  have rule : ruleNodes t index s = ruleNodes t' index s' := by
    rw [ruleNodes, ruleNodes, both.rules]
    simp only [rules]
  rw [sheetNode, sheetNode, format, column, data, rule]
  simp only [sheetPropertyNodes, dimensionNodes, viewNode, protectionNodes, filterNodes, mergeNodes,
    validationNodes, pageNodes, drawingNodes, dimension?_eq both, both.page, both.freeze,
    both.protection, both.filter, both.merged, both.validations, both.headerFooter, both.pictures]

-----------------------------------------------------------------------------------------
-- Lists of sheets
-----------------------------------------------------------------------------------------

/-- What is made of entries and their places is the same if it is so for each pair of entries. -/
theorem map_zipIdx_congr {α β : Type} {R : α → α → Prop} {list list' : List α}
    (pairs : List.Forall₂ R list list') {f f' : α × Nat → β}
    (same : ∀ a a' i, list[i]? = some a → list'[i]? = some a' → R a a' → f (a, i) = f' (a', i))
    : list.zipIdx.map f = list'.zipIdx.map f' := by
  obtain ⟨length, each⟩ := List.forall₂_iff_get.mp pairs
  apply List.ext_getElem
  · simp [length]
  · intro i inside inside'
    rw [List.length_map, List.length_zipIdx] at inside inside'
    simp only [List.getElem_map, List.getElem_zipIdx, Nat.zero_add]
    exact same _ _ i (List.getElem?_eq_getElem inside) (List.getElem?_eq_getElem inside')
      (each i inside inside')

theorem forall₂_zip {α β : Type} {R : α → α → Prop} {list list' : List α}
    (pairs : List.Forall₂ R list list') (others : List β)
    : List.Forall₂ (fun entry entry' => R entry.1 entry'.1 ∧ entry.2 = entry'.2)
        (list.zip others) (list'.zip others) := by
  induction pairs generalizing others with
  | nil => exact .nil
  | cons first _ ih =>
      cases others with
      | nil => exact .nil
      | cons other others => exact .cons ⟨first, rfl⟩ (ih others)

/-- What is the same for each pair of sheets that match makes up the same list. -/
theorem map_congr_of_matches {α : Type} {sheets sheets' : List Sheet} {f : Sheet → α}
    (both : List.Forall₂ Sheet.Matches sheets sheets')
    (same : ∀ s s', s.Matches s' → f s = f s')
    : sheets.map f = sheets'.map f := by
  induction both with
  | nil => rfl
  | cons first _ ih => rw [List.map_cons, List.map_cons, same _ _ first, ih]

/-- The pools of sheets that match start with the default style. -/
theorem default_of_matches {sheets sheets' : List Sheet}
    (both : List.Forall₂ Sheet.Matches sheets sheets')
    : (∀ s ∈ sheets, s.cells.pool.get 0 = {}) ∧ ∀ s ∈ sheets', s.cells.pool.get 0 = {} := by
  induction both with
  | nil => exact ⟨fun _ => (absurd · List.not_mem_nil), fun _ => (absurd · List.not_mem_nil)⟩
  | cons first _ ih =>
      exact ⟨List.forall_mem_cons.mpr ⟨first.compact.sound.default, ih.1⟩,
        List.forall_mem_cons.mpr ⟨first.compact'.sound.default, ih.2⟩⟩

/-- Drawings are numbered by the pictures alone. -/
theorem planDrawings_eq {sheets sheets' : List Sheet}
    (both : List.Forall₂ Sheet.Matches sheets sheets') (drawing picture : Nat)
    : planDrawings drawing picture sheets = planDrawings drawing picture sheets' := by
  induction both generalizing drawing picture with
  | nil => rfl
  | cons first _ ih => rw [planDrawings, planDrawings, first.pictures, ih, ih]

-----------------------------------------------------------------------------------------
-- Workbooks
-----------------------------------------------------------------------------------------

variable (both : List.Forall₂ Sheet.Matches w.sheets w'.sheets)

include both

theorem drawingPlan_eq : drawingPlan w = drawingPlan w' := planDrawings_eq both 1 1

theorem usedFormats_eq : usedFormats w = usedFormats w' := by
  rw [usedFormats, usedFormats]
  refine List.filter_congr fun format _ => ?_
  have any := congrArg (List.any · id) (map_congr_of_matches both
    (f := fun s => s.pictures.any (·.format == format)) fun s s' both => by rw [both.pictures])
  rwa [List.any_map, List.any_map] at any

theorem contentTypesNode_eq : contentTypesNode w = contentTypesNode w' := by
  rw [contentTypesNode, contentTypesNode, usedFormats_eq both, drawingPlan_eq both, both.length_eq]

theorem appNode_eq (properties : w.properties = w'.properties) : appNode w = appNode w' := by
  have titles : (w.sheets.map fun s => Node.textual "vt:lpstr" s.name)
      = w'.sheets.map fun s => Node.textual "vt:lpstr" s.name :=
    map_congr_of_matches both fun _ _ both => congrArg (Node.textual "vt:lpstr") both.name
  rw [appNode, appNode, properties, titles, both.length_eq]

theorem filterNames_eq : filterNames w = filterNames w' := by
  have each : (w.sheets.zipIdx.map fun entry => entry.1.filter.map (filterName entry.2 entry.1))
      = w'.sheets.zipIdx.map fun entry => entry.1.filter.map (filterName entry.2 entry.1) := by
    refine map_zipIdx_congr both fun s s' i _ _ both => ?_
    have name : filterName i s = filterName i s' := by
      funext filter
      rw [filterName, filterName, both.name]
    dsimp only
    rw [both.filter, name]
  have listed := congrArg (List.filterMap id) each
  rw [List.filterMap_map, List.filterMap_map] at listed
  exact listed

theorem sheetEntries_eq
    : (w.sheets.zipIdx.map fun (s, i) => sheetEntry i s)
      = w'.sheets.zipIdx.map fun (s, i) => sheetEntry i s := by
  refine map_zipIdx_congr both fun s s' i _ _ both => ?_
  dsimp only
  rw [sheetEntry, sheetEntry, both.name]

theorem workbookNode_eq : workbookNode w = workbookNode w' := by
  rw [workbookNode, workbookNode, filterNames_eq both, sheetEntries_eq both]

/-- The cells of all sheets show the same styles. -/
theorem cellStyles_eq : w.cellStyles = w'.cellStyles := by
  have each := map_congr_of_matches both (f := fun s => s.cells.cellStyles) fun s s' both => by
    rw [Grid.cellStyles_eq, Grid.cellStyles_eq, both.shown]
  exact congrArg List.flatten each

variable (comparable : ∀ style ∈ w.cellStyles, style.isComparable = true)

include comparable

/-- The cells of a row are the same, since their styles have the same places in the same list. -/
theorem rowCells_congr (found : w.sheets[index]? = some s) (found' : w'.sheets[index]? = some s')
    (here : s.Matches s') (row : Nat)
    : rowCells (StyleTable.ofWorkbook w) index s row
      = rowCells (StyleTable.ofWorkbook w') index s' row := by
  obtain ⟨default, default'⟩ := default_of_matches both
  have comparable' := cellStyles_eq both ▸ comparable
  rw [rowCells_eq default comparable found, rowCells_eq default' comparable' found', here.shown,
    (StyleTable.ofWorkbook_agrees both comparable).styles]

/-- The parts of a sheet are the same, those of its pictures among them. -/
theorem sheetParts_congr (found : w.sheets[index]? = some s)
    (found' : w'.sheets[index]? = some s') (here : s.Matches s') (plan : Option DrawingNumbers)
    : sheetParts (StyleTable.ofWorkbook w) index s plan
      = sheetParts (StyleTable.ofWorkbook w') index s' plan := by
  have numbers := (StyleTable.ofWorkbook_agrees both comparable).ruleNumbers
  have node : sheetNode (StyleTable.ofWorkbook w) index s
      = sheetNode (StyleTable.ofWorkbook w') index s' := by
    refine sheetNode_eq here (rowCells_congr both comparable found found' here) fun i => ?_
    rw [StyleTable.ruleNumber?, StyleTable.ruleNumber?, numbers]
  have drawing : drawingParts index s = drawingParts index s' := by
    funext numbers
    rw [drawingParts, drawingParts, here.pictures]
  rw [sheetParts, sheetParts, node, drawing]

/-- The parts of all sheets are the same if drawings are numbered alike. -/
theorem map_sheetParts_congr (plans : List (Option DrawingNumbers))
    : ((w.sheets.zip plans).zipIdx.map fun ((s, plan), i) =>
        sheetParts (StyleTable.ofWorkbook w) i s plan)
      = (w'.sheets.zip plans).zipIdx.map fun ((s, plan), i) =>
        sheetParts (StyleTable.ofWorkbook w') i s plan := by
  refine map_zipIdx_congr (forall₂_zip both plans) ?_
  rintro ⟨s, plan⟩ ⟨s', plan'⟩ i found found' ⟨here, same⟩
  cases same
  exact sheetParts_congr both comparable (List.getElem?_zip_eq_some.mp found).1
    (List.getElem?_zip_eq_some.mp found').1 here plan

/-- Workbooks whose sheets match have the same package. -/
theorem ofWorkbook_congr (properties : w.properties = w'.properties) (now : Time.DateTime)
    : ofWorkbook now w = ofWorkbook now w' := by
  have agrees := StyleTable.ofWorkbook_agrees both comparable
  have styles : styleSheetNode (StyleTable.ofWorkbook w)
      = styleSheetNode (StyleTable.ofWorkbook w') := by
    rw [styleSheetNode, styleSheetNode, agrees.styles, agrees.ruleStyles]
  have relationships : workbookRelationships w = workbookRelationships w' := by
    rw [workbookRelationships, workbookRelationships, both.length_eq]
  rw [ofWorkbook, ofWorkbook, List.flatMap_def, List.flatMap_def,
    map_sheetParts_congr both comparable, drawingPlan_eq both, workbookParts, workbookParts,
    contentTypesNode_eq both, appNode_eq both properties, workbookNode_eq both, relationships,
    styles, properties]

end Spreadsheet.Package

namespace Spreadsheet

open Spreadsheet.Cell

namespace Workbook

variable {w w' : Workbook}

/-- The styles of kept cells are styles at positions. -/
theorem exists_style_of_mem {style : Style} (member : style ∈ w.cellStyles)
    : ∃ s ∈ w.sheets, ∃ row column, s.style row column = style := by
  obtain ⟨s, inside, member⟩ := List.mem_flatMap.mp member
  obtain ⟨⟨⟨row, column⟩, e⟩, kept, rfl⟩ := List.mem_map.mp member
  have found := Grid.mem_entries_iff.mp kept
  exact ⟨s, inside, row, column, congrArg Prod.snd (Grid.contents_of_kept found)⟩

/-- Workbooks that look the same have the same package when they are written at the same moment,
whatever operations made them, if the font sizes that their cells show are numbers.
-/
theorem ofWorkbook_eq_of_looksLike (reached : w.Reachable) (reached' : w'.Reachable)
    (alike : w.LooksLike w')
    (comparable : ∀ s ∈ w.sheets, ∀ row column, (s.style row column).isComparable = true)
    (now : Time.DateTime)
    : Package.ofWorkbook now w = Package.ofWorkbook now w' := by
  refine Package.ofWorkbook_congr (alike.matches reached reached') (fun style member => ?_)
    alike.properties now
  obtain ⟨s, inside, row, column, rfl⟩ := exists_style_of_mem member
  exact comparable s inside row column

/-- A bold cell with a text, and an italic one. -/
def directEdits : List Sheet.Edit :=
  [.setValue 0 0 (.text "Total"), .setStyle 0 0 { font := { bold := true } },
    .setStyle 0 1 { font := { italic := true } }]

/-- The same by a detour: the italic cell comes first, a color and a value are taken back, and a
row is hidden and shown again.
-/
def detourEdits : List Sheet.Edit :=
  [.setStyle 0 1 { font := { italic := true } }, .setStyle 4 4 { fill := .solid .black },
    .setStyle 4 4 {}, .setValue 2 2 (.boolean true), .setValue 2 2 .empty,
    .setHidden .rows 7 true, .setHidden .rows 7 false,
    .setStyle 0 0 { font := { bold := true } }, .setValue 0 0 (.text "Total")]

/-- The detour leaves other pools and settings, and still the package is the same. -/
theorem ofWorkbook_directEdits
    : (edited "Data" directEdits).cells.pool ≠ (edited "Data" detourEdits).cells.pool
      ∧ (edited "Data" directEdits).rows ≠ (edited "Data" detourEdits).rows
      ∧ Package.ofWorkbook ⟨⟨2024, 3, 7⟩, 0, 0⟩ { sheets := [edited "Data" directEdits] }
        = Package.ofWorkbook ⟨⟨2024, 3, 7⟩, 0, 0⟩ { sheets := [edited "Data" detourEdits] } := by
  have free : ({} : Workbook).checkNewName "Data" = .ok () := by decide
  have reached := reachable_edited free directEdits
  have reached' := reachable_edited free detourEdits
  have compact := reached.compact _ (List.mem_singleton_self _)
  have compact' := reached'.compact _ (List.mem_singleton_self _)
  have alike := (Sheet.looksLike_iff compact compact').mpr
    ⟨by decide +kernel, fun axis => by cases axis <;> decide +kernel, by decide +kernel⟩
  have comparable : ∀ style ∈ (edited "Data" directEdits).cells.cellStyles,
      style.isComparable = true := by decide +kernel
  refine ⟨by decide +kernel, by decide +kernel,
    ofWorkbook_eq_of_looksLike reached reached' ⟨rfl, .cons alike .nil⟩ ?_ _⟩
  intro s member row column
  cases List.mem_singleton.mp member
  rcases compact.sound.style_cases row column with plain | kept
  · exact congrArg Style.isComparable plain
  · exact comparable _ kept

end Workbook

end Spreadsheet
