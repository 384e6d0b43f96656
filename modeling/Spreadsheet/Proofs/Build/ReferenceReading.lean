import Spreadsheet.Proofs.Build.ReportBounds
import Spreadsheet.Proofs.Request.ReferenceTexts

/-! Building a workbook reads texts of the request one after the other, each when it is needed.
What it reads is accepted or ends the building; what it has no use for makes no difference.
-/

namespace Spreadsheet.Build

open Spreadsheet.Request Spreadsheet.Sheet Spreadsheet.Style

-----------------------------------------------------------------------------------------
-- Texts that make no difference: styles, rules and validations
-----------------------------------------------------------------------------------------

/-- Parts are converted alike if what is dropped from them was not converted. -/
theorem optionally_map {f : α → Except BuildError β} {part : α → α}
    (same : ∀ a, f (part a) = f a) (a : Option α)
    : optionally f (a.map part) = optionally f a := by
  cases a with
  | none => rfl
  | some a => simp only [Option.map_some, optionally, same]

theorem fill_usedPart (spec : FillSpec) : fill spec.usedPart = fill spec := by
  simp only [FillSpec.usedPart]
  split
  all_goals
    next known => simp [fill, known]

theorem overlaid_usedPart (spec : StyleSpec) (style : Style)
    : overlaid spec.usedPart style = overlaid spec style := by
  have layered (x : Layered)
      : layer (spec.fill.map FillSpec.usedPart) fill (fun s fill => { s with fill }) x
          = layer spec.fill fill (fun s fill => { s with fill }) x := by
    obtain ⟨s, result⟩ := x
    cases result <;> cases spec.fill <;> simp [layer, fill_usedPart]
  simp only [overlaid, overlay, StyleSpec.usedPart, layered]

theorem withOverlay_usedPart (spec : Option StyleSpec) (style : Style)
    : withOverlay (spec.map StyleSpec.usedPart) style = withOverlay spec style := by
  cases spec with
  | none => rfl
  | some spec => exact overlaid_usedPart spec style

theorem ruleFill_usedPart (spec : RuleFillSpec) : ruleFill spec.usedPart = ruleFill spec := by
  simp only [RuleFillSpec.usedPart]
  split
  · next without => simp only [ruleFill, without, if_true]
  · next filled =>
      cases background : spec.background <;> simp [ruleFill, filled, background]

theorem ruleStyle_usedPart (spec : RuleStyleSpec) : ruleStyle spec.usedPart = ruleStyle spec := by
  simp only [ruleStyle, RuleStyleSpec.usedPart, optionally_map ruleFill_usedPart]

/-- A rule keeps the style of its cells and the color of its bar, by the kinds of rules. -/
theorem rule_usedPart (priority : Nat) (spec : RuleSpec)
    : rule priority spec.usedPart = rule priority spec := by
  have styled := optionally_map ruleStyle_usedPart spec.style
  simp only [RuleSpec.usedPart]
  cases kind : spec.kind with
  | cellIs | expression => simp [rule, condition, cellIsCondition, firstFormula, kind, styled]
  | dataBar => simp [rule, condition, dataBar, kind, styled]
  | iconSet => simp [rule, condition, kind, bind, Except.bind, Condition.usesFormat]
  | colorScale =>
      simp only [rule, condition, kind]
      cases spec.colorScale with
      | none => rfl
      | some scale =>
          cases stops : colorStops spec.range scale <;>
            simp [stops, Except.map, bind, Except.bind, Condition.usesFormat]

-----------------------------------------------------------------------------------------
-- Texts that make no difference: sheets
-----------------------------------------------------------------------------------------

/-- Steps that come to the same for changed items do so for all of them, by list induction. -/
theorem forEachFrom_map {step : Nat → β → σ → Except BuildError σ}
    {step' : Nat → α → σ → Except BuildError σ} {f : α → β}
    (same : ∀ i a s, step i (f a) s = step' i a s) (i : Nat) (list : List α) (s : σ)
    : forEachFrom step i (list.map f) s = forEachFrom step' i list s := by
  induction list generalizing i s with
  | nil => rfl
  | cons a rest ih => simp only [List.map_cons, forEachFrom, same, ih]

theorem writeHeaderCell_usedPart (i : Nat) (column : ColumnSpec) (s : Sheet)
    : writeHeaderCell i column.usedPart s = writeHeaderCell i column s := by
  simp only [writeHeaderCell, ColumnSpec.usedPart, withOverlay_usedPart]

theorem columnStyle_usedPart (column : ColumnSpec)
    : columnStyle column.usedPart = columnStyle column := by
  have format : columnFormat column.usedPart = columnFormat column := rfl
  simp only [columnStyle, format]
  exact withOverlay_usedPart ..

theorem writeRows_usedPart (spec : SheetSpec) (s : Sheet)
    : writeRows spec.usedPart s = writeRows spec s := by
  have row (styles : List Style)
      : writeRow ((spec.columns.map ColumnSpec.usedPart).zip styles)
          = writeRow (spec.columns.zip styles) := by
    funext i data t
    have cells (row : Nat)
        : forEachFrom (writeDataCell row data) 0
              ((spec.columns.zip styles).map (Prod.map ColumnSpec.usedPart id)) t
            = forEachFrom (writeDataCell row data) 0 (spec.columns.zip styles) t :=
      forEachFrom_map (fun _ _ _ => rfl) 0 (spec.columns.zip styles) t
    simp only [writeRow, List.zip_map_left, cells]
  simp only [writeRows, SheetSpec.usedPart, List.mapM_map, Function.comp_def,
    columnStyle_usedPart, row]

theorem attachValidations_usedPart (spec : SheetSpec) (s : Sheet)
    : attachValidations spec.usedPart s = attachValidations spec s := by
  have kept (last i : Nat) (t : Sheet)
      : forEachFrom (attachValidation last) i (spec.columns.map ColumnSpec.usedPart) t
          = forEachFrom (attachValidation last) i spec.columns t :=
    forEachFrom_map (fun _ _ _ => rfl) i spec.columns t
  simp only [attachValidations, SheetSpec.usedPart, kept]

theorem columnPosition?_usedPart (spec : SheetSpec) (key : String)
    : spec.usedPart.columnPosition? key = spec.columnPosition? key := by
  simp only [SheetSpec.columnPosition?, SheetSpec.usedPart, List.findIdx?_map]
  rfl

theorem applyFormatting_usedPart (spec : SheetSpec) (f : FormattingSpec) (s : Sheet)
    : applyFormatting spec.usedPart f.usedPart s = applyFormatting spec f s := by
  have filtered (wanted : Option Bool) (t : Sheet)
      : applyFilter spec.usedPart wanted t = applyFilter spec wanted t := by
    simp [applyFilter, SheetSpec.usedPart]
  have total (row : Nat) : writeTotal spec.usedPart row = writeTotal spec row := by
    funext total t
    simp only [writeTotal, columnPosition?_usedPart]
  have totals (declared : Option (List (String × String))) (t : Sheet)
      : writeTotals spec.usedPart declared t = writeTotals spec declared t := by
    simp only [writeTotals, total]
    rfl
  have rules (i : Nat) (t : Sheet)
      : forEachFrom addRule i (f.rules.map RuleSpec.usedPart) t
          = forEachFrom addRule i f.rules t :=
    forEachFrom_map (fun _ _ _ => by simp only [addRule, rule_usedPart]) i f.rules t
  simp only [applyFormatting, filtered, totals]
  simp only [FormattingSpec.usedPart, rules]
  rfl

theorem tableCells_usedPart (spec : SheetSpec) : tableCells spec.usedPart = tableCells spec := by
  have header (t : Sheet) : writeHeader spec.usedPart t = writeHeader spec t := by
    simp only [writeHeader, SheetSpec.usedPart,
      forEachFrom_map writeHeaderCell_usedPart]
  simp only [tableCells, header, writeRows_usedPart, attachValidations_usedPart]
  cases formatting : spec.formatting with
  | none => simp [SheetSpec.usedPart, formatting]
  | some f =>
      have formatted : spec.usedPart.formatting = some f.usedPart := by
        simp [SheetSpec.usedPart, formatting]
      simp only [formatted, applyFormatting_usedPart]
      rfl

/-- Pictures without data are passed over, by list induction. -/
theorem addPictures_usedPart (can : Capabilities) (index : Nat) (specs : List PictureSpec)
    (s : Sheet)
    : addPictures can index (specs.map PictureSpec.usedPart) s = addPictures can index specs s := by
  induction specs generalizing index s with
  | nil => rfl
  | cons spec rest ih =>
      have first : addPicture can index spec.usedPart s = addPicture can index spec s := by
        cases payload : spec.base64 <;> simp [addPicture, PictureSpec.usedPart, payload]
      simp only [List.map_cons, addPictures, first, ih]

theorem tableSheet_usedPart (can : Capabilities) (spec : SheetSpec)
    : tableSheet can spec.usedPart = tableSheet can spec := by
  simp only [tableSheet, tableCells_usedPart]
  simp only [SheetSpec.usedPart, addPictures_usedPart]

theorem decorate_usedPart (today : Time.Date) (spec : SheetSpec) (s : Sheet)
    : decorate today spec.usedPart s = decorate today spec s := by
  simp only [decorate, stripeRows, writeTitle, SheetSpec.title?, SheetSpec.usedPart,
    List.length_map]

theorem addSheets_usedPart (setting : Setting) (generator : Generator) (specs : List SheetSpec)
    (w : Workbook)
    : addSheets setting generator (specs.map SheetSpec.usedPart) w
        = addSheets setting generator specs w := by
  have built (spec : SheetSpec)
      : sheet setting generator spec.usedPart = sheet setting generator spec := by
    cases generator <;>
      simp only [sheet, reportSheet, tableSheet_usedPart, decorate_usedPart]
  have first (w : Workbook) (spec : SheetSpec)
      : addSheet setting generator w spec.usedPart = addSheet setting generator w spec := by
    simp only [addSheet, built]
    rfl
  induction specs generalizing w with
  | nil => rfl
  | cons spec rest ih => simp only [List.map_cons, addSheets, first, ih]

/-- The texts that are left out of the part that is read make no difference at all. -/
theorem workbook_usedPart (setting : Setting) (r : Request)
    : workbook setting r.usedPart = workbook setting r := by
  have warned : layoutWarnings r.usedPart = layoutWarnings r := by
    simp only [layoutWarnings, usedPart, List.filterMap_map]
    rfl
  have chosen : chooseGenerator r.usedPart = chooseGenerator r := by
    simp only [chooseGenerator, usedPart, List.any_map]
    rfl
  have built (generator : Generator)
      : workbookIn setting generator r.usedPart = workbookIn setting generator r := by
    simp only [workbookIn, usedPart, addSheets_usedPart]
  simp only [workbook, warned, chosen, built]

-----------------------------------------------------------------------------------------
-- Texts that are read: styles, rules and validations
-----------------------------------------------------------------------------------------

theorem isOk_of_eq_ok {x : Except ε α} {a : α} (done : x = .ok a) : x.isOk = true := by
  subst done
  rfl

/-- What is there is converted. -/
theorem optionally_eq_ok {f : α → Except BuildError β} {declared : Option α} {result : Option β}
    (done : optionally f declared = .ok result) {a : α} (there : declared = some a)
    : ∃ b, f a = .ok b := by
  subst there
  obtain ⟨b, converted, -⟩ := map_eq_ok.mp done
  exact ⟨b, converted⟩

theorem color_accepted {text : ColorText} {c : Color} (done : color text = .ok c)
    : (Reference.color text).isAccepted = true := by
  simp only [color] at done
  split at done
  · next read => simp [Reference.isAccepted, read]
  · cases done

theorem optionalColor_accepted {declared : Option ColorText} {result : Option Color}
    (done : optionally color declared = .ok result)
    : AllAccepted (declared.toList.map .color) := by
  simp only [allAccepted_map, Option.mem_toList]
  intro text there
  obtain ⟨_, read⟩ := optionally_eq_ok done there
  exact color_accepted read

theorem font_accepted {spec : FontSpec} {f : Font} (done : font spec = .ok f)
    : AllAccepted spec.references := by
  obtain ⟨c, colored, _⟩ := bind_eq_ok.mp done
  exact optionalColor_accepted colored

theorem fill_accepted {spec : FillSpec} {f : Fill} (done : fill spec = .ok f)
    : AllAccepted spec.usedPart.references := by
  simp only [fill] at done
  split at done
  · cases done
  · next pattern known =>
      obtain ⟨c, colored, done⟩ := bind_eq_ok.mp done
      have named : (Reference.pattern spec.pattern).isAccepted = true := by
        simp [Reference.isAccepted, known]
      have first := color_accepted colored
      split at done
      · simp [FillSpec.usedPart, FillSpec.references, known, named, first]
      · simp [FillSpec.usedPart, FillSpec.references, known, named, first]
      · next notNone notSolid =>
          obtain ⟨_, second, _⟩ := bind_eq_ok.mp done
          have whole : spec.usedPart = spec := by
            simp only [FillSpec.usedPart]
            split
            · next named => exact absurd (Option.some.inj (known.symm.trans named)) notNone
            · next named => exact absurd (Option.some.inj (known.symm.trans named)) notSolid
            · rfl
          simp only [whole, FillSpec.references, allAccepted_cons]
          exact ⟨named, first, optionalColor_accepted second⟩

theorem edge_accepted {spec : EdgeSpec} {e : Edge} (done : edge spec = .ok e)
    : AllAccepted spec.references := by
  simp only [edge] at done
  split at done
  · cases done
  · next line known =>
      obtain ⟨c, colored, _⟩ := bind_eq_ok.mp done
      have named : (Reference.line spec.line).isAccepted = true := by
        simp [Reference.isAccepted, known]
      simp [EdgeSpec.references, color_accepted colored, named]

theorem border_accepted {spec : BorderSpec} {b : Border} (done : border spec = .ok b)
    : AllAccepted spec.references := by
  obtain ⟨_, top, done⟩ := bind_eq_ok.mp done
  obtain ⟨_, bottom, done⟩ := bind_eq_ok.mp done
  obtain ⟨_, left, done⟩ := bind_eq_ok.mp done
  obtain ⟨_, right, _⟩ := bind_eq_ok.mp done
  have side {declared : Option EdgeSpec} {result : Option Edge}
      (done : optionally edge declared = .ok result)
      : ∀ spec, declared = some spec → AllAccepted spec.references := by
    intro spec there
    obtain ⟨_, made⟩ := optionally_eq_ok done there
    exact edge_accepted made
  simp only [BorderSpec.references, List.flatMap_append, allAccepted_append, allAccepted_flatMap,
    Option.mem_toList]
  exact ⟨⟨⟨side top, side bottom⟩, side left⟩, side right⟩

theorem overlaid_accepted {spec : StyleSpec} {below style : Style}
    (done : overlaid spec below = .ok style)
    : AllAccepted spec.usedPart.references := by
  have laid := overlaid_laidOver done
  simp only [StyleSpec.references, StyleSpec.usedPart, allAccepted_append, allAccepted_flatMap,
    Option.toList_map, List.forall_mem_map, Option.mem_toList]
  refine ⟨⟨?font, ?fill⟩, ?border⟩
  case font =>
    intro declared there
    exact font_accepted (by simpa [Slot, there] using laid.font)
  case fill =>
    intro declared there
    exact fill_accepted (by simpa [Slot, there] using laid.fill)
  case border =>
    intro declared there
    exact border_accepted (by simpa [Slot, there] using laid.border)

/-- The fill of a rule reads the color that it shows, by whether it has a second one. -/
theorem ruleFill_accepted {spec : RuleFillSpec} {f : Fill} (done : ruleFill spec = .ok f)
    : AllAccepted spec.usedPart.references := by
  simp only [ruleFill] at done
  simp only [RuleFillSpec.usedPart]
  split at done
  · next without =>
      cases declared : spec.pattern with
      | none => simp [declared] at without
      | some name =>
          have plain : Text.lowerAscii name = "none" := by simpa [declared] using without
          have lower : Text.lowerAscii Pattern.none.name = "none" := by decide
          simp [RuleFillSpec.references, plain, Reference.isAccepted, Pattern.ofName?, Pattern.all,
            lower]
  · next filled =>
      split at done
      · next text shown =>
          obtain ⟨_, colored, -⟩ := map_eq_ok.mp done
          have read := color_accepted colored
          cases second : spec.background <;>
            simp_all [RuleFillSpec.references]
      · next unshown =>
          obtain ⟨second, first⟩ := Option.or_eq_none_iff.mp unshown
          simp [RuleFillSpec.references, filled, first, second]

theorem ruleStyle_accepted {spec : RuleStyleSpec} {style : Style}
    (done : ruleStyle spec = .ok style)
    : AllAccepted spec.usedPart.references := by
  obtain ⟨_, fonts, done⟩ := bind_eq_ok.mp done
  obtain ⟨_, fills, done⟩ := bind_eq_ok.mp done
  obtain ⟨_, borders, _⟩ := bind_eq_ok.mp done
  simp only [RuleStyleSpec.references, RuleStyleSpec.usedPart, allAccepted_append,
    allAccepted_flatMap, Option.toList_map, List.forall_mem_map, Option.mem_toList]
  refine ⟨⟨?font, ?fill⟩, ?border⟩
  case font =>
    intro declared there
    obtain ⟨_, made⟩ := optionally_eq_ok fonts there
    exact font_accepted made
  case fill =>
    intro declared there
    obtain ⟨_, made⟩ := optionally_eq_ok fills there
    exact ruleFill_accepted made
  case border =>
    intro declared there
    obtain ⟨_, made⟩ := optionally_eq_ok borders there
    exact border_accepted made

/-- A scale reads the colors of all of its stops. -/
theorem colorStops_accepted {range : String} {spec : ColorScaleSpec} {stops : List ColorStop}
    (done : colorStops range spec = .ok stops)
    : AllAccepted spec.references := by
  simp only [colorStops] at done
  split at done
  · cases done
  · next shape =>
      have paired : spec.colors.length ≤ spec.stops.length := by omega
      simp only [ColorScaleSpec.references, allAccepted_map]
      intro text member
      rw [← List.map_snd_zip paired] at member
      obtain ⟨⟨stop, _⟩, place, rfl⟩ := List.mem_map.mp member
      obtain ⟨_, read⟩ := exists_of_mem_of_mapM done place
      obtain ⟨_, colored, _⟩ := bind_eq_ok.mp read
      exact color_accepted colored

/-- Rules on the values of cells show themselves by a style. -/
theorem condition_usesFormat {spec : RuleSpec} {shown : Condition}
    (kind : spec.kind = .cellIs ∨ spec.kind = .expression) (looked : condition spec = .ok shown)
    : shown.usesFormat = true := by
  simp only [condition] at looked
  rcases kind with cells | formula
  · simp only [cells] at looked
    split at looked
    · obtain ⟨_, -, rfl⟩ := map_eq_ok.mp looked
      rfl
    · simp only [cellIsCondition] at looked
      split at looked
      · cases looked
      · obtain ⟨_, -, looked⟩ := bind_eq_ok.mp looked
        cases looked
        rfl
    · cases looked
  · simp only [formula] at looked
    obtain ⟨_, -, rfl⟩ := map_eq_ok.mp looked
    rfl

theorem ranges_accepted {text : String} {ranges : List Cell.Range}
    (placed
      : (Text.words text).mapM (fun part => onModel (ModelError.parseRange part)) = .ok ranges)
    (notNone : ranges.isEmpty = false)
    : (Reference.ranges text).isAccepted = true := by
  have each := mapM_eq_ok.mp placed
  simp only [Reference.isAccepted, Bool.and_eq_true, Bool.not_eq_true', List.all_eq_true]
  constructor
  · simpa [List.isEmpty_eq_false_iff, ← List.length_pos_iff, each.length_eq] using notNone
  · intro part member
    obtain ⟨_, read⟩ := exists_of_mem_of_mapM placed member
    exact isOk_of_eq_ok (mapError_eq_ok.mp (onModel_eq_ok.mp read))

/-- A rule reads its ranges and whatever of its looks its kind shows, by the kinds of rules. -/
theorem rule_accepted {priority : Nat} {spec : RuleSpec} {r : Rule}
    (done : rule priority spec = .ok r)
    : AllAccepted spec.usedPart.references := by
  obtain ⟨looked, placed, notNone, -, -, styled⟩ := rule_eq_ok.mp done
  have ranges := ranges_accepted placed notNone
  have style {result : Option Style} (done : optionally ruleStyle spec.style = .ok result)
      : ∀ declared, spec.style = some declared → AllAccepted declared.usedPart.references := by
    intro declared there
    obtain ⟨_, made⟩ := optionally_eq_ok done there
    exact ruleStyle_accepted made
  cases kind : spec.kind with
  | cellIs =>
      rw [if_pos (condition_usesFormat (.inl kind) looked)] at styled
      have shown := style styled
      simpa [RuleSpec.usedPart, RuleSpec.references, kind, ranges] using shown
  | expression =>
      rw [if_pos (condition_usesFormat (.inr kind) looked)] at styled
      have shown := style styled
      simpa [RuleSpec.usedPart, RuleSpec.references, kind, ranges] using shown
  | dataBar =>
      simp only [condition, kind] at looked
      obtain ⟨_, bar, -⟩ := map_eq_ok.mp looked
      obtain ⟨_, made, -⟩ := bind_eq_ok.mp bar
      simpa [RuleSpec.usedPart, RuleSpec.references, kind, ranges] using style made
  | colorScale =>
      simp only [condition, kind] at looked
      split at looked
      · cases looked
      · next scale there =>
          obtain ⟨_, stops, -⟩ := map_eq_ok.mp looked
          simpa [RuleSpec.usedPart, RuleSpec.references, kind, ranges, there]
            using colorStops_accepted stops
  | iconSet => simp [RuleSpec.usedPart, RuleSpec.references, kind, ranges]

theorem validation_accepted {spec : ValidationSpec} {range : Cell.Range} {v : Validation}
    (done : validation spec range = .ok v)
    : AllAccepted spec.references := by
  obtain ⟨c, named, _⟩ := bind_eq_ok.mp done
  cases declared : spec.comparison with
  | none => simp [ValidationSpec.references, declared]
  | some name =>
      simp only [declared, comparison] at named
      split at named
      · next known =>
          simp [ValidationSpec.references, declared, Reference.isAccepted, known]
      · cases named

-----------------------------------------------------------------------------------------
-- Texts that are read: sheets
-----------------------------------------------------------------------------------------

/-- Steps for all items succeed only if there is one that succeeds for each, by list induction. -/
theorem exists_step_of_forEachFrom {step : Nat → α → σ → Except BuildError σ} {i : Nat}
    {list : List α} {s s' : σ} (done : forEachFrom step i list s = .ok s') {a : α}
    (member : a ∈ list)
    : ∃ j t t', step j a t = .ok t' := by
  induction list generalizing i s with
  | nil => cases member
  | cons b rest ih =>
      obtain ⟨t, first, done⟩ := bind_eq_ok.mp done
      rcases List.mem_cons.mp member with rfl | later
      · exact ⟨i, s, t, first⟩
      · exact ih done later

theorem applyFreeze_accepted {cell : Option String} {s s' : Sheet}
    (done : applyFreeze cell s = .ok s')
    : AllAccepted (cell.toList.map .address) := by
  rcases applyFreeze_eq_ok.mp done with ⟨rfl, -⟩ | ⟨text, rfl, _, read, -⟩
  · exact nofun
  · simp [Reference.isAccepted, isOk_of_eq_ok (mapError_eq_ok.mp read)]

theorem mergeCells_accepted {text : String} {s s' : Sheet} (done : mergeCells text s = .ok s')
    : (Reference.range text).isAccepted = true := by
  obtain ⟨_, read, -⟩ := mergeCells_eq_ok.mp done
  exact isOk_of_eq_ok (mapError_eq_ok.mp read)

theorem setRowHeight_accepted {entry : String × Number.Binary64} {s s' : Sheet}
    (done : setRowHeight entry s = .ok s')
    : (Reference.rowNumber entry.1).isAccepted = true := by
  obtain ⟨number, known, _, read, -⟩ := setRowHeight_eq_ok.mp done
  have read := mapError_eq_ok.mp (onModel_eq_ok.mp read)
  simp [Reference.isAccepted, known, isOk_of_eq_ok read]

theorem columnOfLetters_accepted {letters : String} {column : Nat}
    (done : columnOfLetters letters = .ok column)
    : (Reference.column letters).isAccepted = true :=
  isOk_of_eq_ok (mapError_eq_ok.mp (onModel_eq_ok.mp done))

theorem hideColumn_accepted {letters : String} {s s' : Sheet}
    (done : hideColumn letters s = .ok s')
    : (Reference.column letters).isAccepted = true := by
  obtain ⟨_, read, -⟩ := hideColumn_eq_ok.mp done
  exact columnOfLetters_accepted read

theorem groupColumns_accepted {g : ColumnGroupSpec} {s s' : Sheet}
    (done : groupColumns g s = .ok s')
    : AllAccepted g.references := by
  obtain ⟨_, first, _, last, -⟩ := groupColumns_eq_ok.mp done
  simp [ColumnGroupSpec.references, columnOfLetters_accepted first, columnOfLetters_accepted last]

/-- Whatever is declared for a sheet as a whole is read, in the order of its steps. -/
theorem applyFormatting_accepted {spec : SheetSpec} {f : FormattingSpec} {s s' : Sheet}
    (done : applyFormatting spec f s = .ok s')
    : AllAccepted f.usedPart.references := by
  obtain ⟨_, frozen, done⟩ := bind_eq_ok.mp done
  obtain ⟨_, _, done⟩ := bind_eq_ok.mp done
  obtain ⟨_, _, done⟩ := bind_eq_ok.mp done
  obtain ⟨_, rules, done⟩ := bind_eq_ok.mp done
  obtain ⟨_, merged, done⟩ := bind_eq_ok.mp done
  obtain ⟨_, heights, done⟩ := bind_eq_ok.mp done
  obtain ⟨_, _, done⟩ := bind_eq_ok.mp done
  obtain ⟨_, hidden, done⟩ := bind_eq_ok.mp done
  obtain ⟨_, _, groups⟩ := bind_eq_ok.mp done
  simp only [FormattingSpec.references, FormattingSpec.usedPart, allAccepted_append,
    allAccepted_flatMap, List.forall_mem_map]
  refine ⟨⟨⟨⟨⟨applyFreeze_accepted frozen, ?rules⟩, ?merged⟩, ?heights⟩, ?hidden⟩, ?groups⟩
  case rules =>
    intro declared member
    obtain ⟨_, _, _, added⟩ := exists_step_of_forEachFrom rules member
    obtain ⟨_, made, -⟩ := addRule_eq_ok.mp added
    exact rule_accepted made
  case merged =>
    rw [allAccepted_map]
    intro text member
    obtain ⟨_, _, _, joined⟩ := exists_step_of_forEachFrom merged member
    exact mergeCells_accepted joined
  case heights =>
    rw [allAccepted_map]
    intro entry member
    obtain ⟨_, _, _, sized⟩ := exists_step_of_forEachFrom heights member
    exact setRowHeight_accepted sized
  case hidden =>
    rw [allAccepted_map]
    intro letters member
    obtain ⟨_, _, _, hid⟩ := exists_step_of_forEachFrom hidden member
    exact hideColumn_accepted hid
  case groups =>
    intro declared member
    obtain ⟨_, _, _, grouped⟩ := exists_step_of_forEachFrom groups member
    exact groupColumns_accepted grouped

/-- The style of a column is read with its header. -/
theorem columnStyles_accepted {spec : SheetSpec} {s s' : Sheet}
    (done : writeHeader spec s = .ok s')
    : ∀ column ∈ spec.columns, ∀ style, column.style = some style
        → AllAccepted style.usedPart.references := by
  intro column member style there
  obtain ⟨_, cells, _⟩ := bind_eq_ok.mp done
  obtain ⟨_, _, _, cell⟩ := exists_step_of_forEachFrom cells member
  obtain ⟨-, _, -, _, -, _, styled, -⟩ := writeHeaderCell_eq_ok.mp cell
  rw [there] at styled
  exact overlaid_accepted styled

/-- The operator of a column is read as soon as there are data. -/
theorem columnOperators_accepted {spec : SheetSpec} {s s' : Sheet}
    (hasData : spec.data.isEmpty = false) (done : attachValidations spec s = .ok s')
    : ∀ column ∈ spec.columns, ∀ validation, column.validation = some validation
        → AllAccepted validation.references := by
  intro column member declared there
  simp only [attachValidations, hasData] at done
  obtain ⟨_, _, done⟩ := bind_eq_ok.mp done
  obtain ⟨_, _, _, attached⟩ := exists_step_of_forEachFrom done member
  rcases attachValidation_eq_ok.mp attached with ⟨none, -⟩ | ⟨other, found, -, _, made, -⟩
  · rw [there] at none
    cases none
  · cases there.symm.trans found
    exact validation_accepted made

theorem columns_accepted {spec : SheetSpec} {s t u v : Sheet}
    (header : writeHeader spec s = .ok t) (validated : attachValidations spec u = .ok v)
    : ∀ column ∈ spec.readPart.columns, AllAccepted column.references := by
  have styles := columnStyles_accepted header
  cases hasData : spec.data.isEmpty with
  | true =>
      simpa [SheetSpec.readPart, SheetSpec.usedPart, hasData, ColumnSpec.references,
        ColumnSpec.withoutOperator, ColumnSpec.usedPart, ValidationSpec.references] using styles
  | false =>
      have operators := columnOperators_accepted hasData validated
      have both := fun column member => And.intro (styles column member) (operators column member)
      simpa [SheetSpec.readPart, SheetSpec.usedPart, hasData, ColumnSpec.references,
        ColumnSpec.usedPart] using both

theorem anchor_accepted {spec : AnchorSpec} {a : Anchor} (done : anchor spec = .ok a)
    : AllAccepted spec.references := by
  obtain ⟨first, second⟩ := anchor_eq_ok.mp done
  have first := isOk_of_eq_ok (mapError_eq_ok.mp first)
  have second := isOk_of_eq_ok (mapError_eq_ok.mp second)
  simp [AnchorSpec.references, Reference.isAccepted, first, second]

/-- Charts are placed even if the target cannot show them. -/
theorem addCharts_accepted {can : Capabilities} {specs : List ChartSpec} {s s' : Sheet}
    (done : (addCharts can specs s).result = .ok s')
    : ∀ spec ∈ specs, AllAccepted spec.position.references := by
  intro spec member
  obtain ⟨_, made, -⟩ := addCharts_eq_ok.mp done
  obtain ⟨_, chart⟩ := exists_of_mem_of_mapM made member
  exact anchor_accepted (anchor_of_chart chart)

theorem addPicture_accepted {can : Capabilities} {index : Nat} {spec : PictureSpec}
    {s s' : Sheet} (done : (addPicture can index spec s).result = .ok s')
    : AllAccepted spec.usedPart.position.references := by
  rcases addPicture_eq_ok.mp done with ⟨noData, -⟩ | ⟨payload, hasData, p, made, -⟩
  · have passed : spec.usedPart.position = ⟨"A1", "A1"⟩ := by
      simp [PictureSpec.usedPart, noData]
    have accepted : (Reference.address "A1").isAccepted = true := by decide
    simp [passed, AnchorSpec.references, accepted]
  · obtain ⟨-, -, placed⟩ := picture_eq_ok.mp made
    simpa [PictureSpec.usedPart, hasData] using anchor_accepted placed

/-- Pictures are added one by one, by list induction. -/
theorem addPictures_accepted {can : Capabilities} {index : Nat} {specs : List PictureSpec}
    {s s' : Sheet} (done : (addPictures can index specs s).result = .ok s')
    : ∀ spec ∈ specs, AllAccepted spec.usedPart.position.references := by
  induction specs generalizing index s with
  | nil => exact nofun
  | cons spec rest ih =>
      obtain ⟨_, first, done⟩ := Logged.bind_result_eq_ok.mp done
      exact List.forall_mem_cons.mpr ⟨addPicture_accepted first, ih done⟩

theorem tableCells_accepted {spec : SheetSpec} {s : Sheet} (done : tableCells spec = .ok s)
    : (∀ column ∈ spec.readPart.columns, AllAccepted column.references)
      ∧ ∀ f, spec.formatting = some f → AllAccepted f.usedPart.references := by
  obtain ⟨_, header, done⟩ := bind_eq_ok.mp done
  obtain ⟨_, _, done⟩ := bind_eq_ok.mp done
  obtain ⟨_, validated, formatted⟩ := bind_eq_ok.mp done
  refine ⟨columns_accepted header validated, fun f there => ?_⟩
  simp only [there] at formatted
  exact applyFormatting_accepted formatted

theorem tableSheet_accepted {can : Capabilities} {spec : SheetSpec} {s : Sheet}
    (done : (tableSheet can spec).result = .ok s)
    : AllAccepted spec.readPart.references := by
  obtain ⟨_, cells, done⟩ := Logged.bind_result_eq_ok.mp done
  obtain ⟨columns, formatting⟩ := tableCells_accepted cells
  have drawings
      : (∀ chart ∈ spec.charts, AllAccepted chart.position.references)
        ∧ ∀ picture ∈ spec.pictures, AllAccepted picture.usedPart.position.references := by
    split at done
    · next noCharts =>
        exact ⟨by simp [List.isEmpty_iff.mp noCharts], addPictures_accepted done⟩
    · obtain ⟨_, charts, pictures⟩ := Logged.bind_result_eq_ok.mp done
      exact ⟨addCharts_accepted charts, addPictures_accepted pictures⟩
  -- Operators aside, the part that is read is the part that is used.
  have rest
      : spec.readPart.formatting = spec.usedPart.formatting
        ∧ spec.readPart.charts = spec.usedPart.charts
        ∧ spec.readPart.pictures = spec.usedPart.pictures := by
    simp only [SheetSpec.readPart]
    split <;> exact ⟨rfl, rfl, rfl⟩
  simp only [SheetSpec.references, rest, allAccepted_append, allAccepted_flatMap]
  simp only [SheetSpec.usedPart, Option.toList_map, List.forall_mem_map, Option.mem_toList]
  exact ⟨⟨⟨columns, formatting⟩, drawings.1⟩, drawings.2⟩

/-- Every sheet is built as a table first of all. -/
theorem sheet_accepted {setting : Setting} {generator : Generator} {spec : SheetSpec} {s : Sheet}
    (done : (sheet setting generator spec).result = .ok s)
    : AllAccepted spec.readPart.references := by
  cases generator with
  | table => exact tableSheet_accepted done
  | report =>
      obtain ⟨_, table, _⟩ := Logged.bind_result_eq_ok.mp done
      exact tableSheet_accepted table

/-- A workbook is built only if all texts that building reads are accepted. -/
theorem workbook_accepted {setting : Setting} {r : Request} {w : Workbook}
    (done : (workbook setting r).result = .ok w)
    : AllAccepted r.readPart.references := by
  obtain ⟨_, _, done⟩ := Logged.bind_result_eq_ok.mp done
  have built := workbookIn_sheets done
  simp only [references, readPart, allAccepted_flatMap, List.forall_mem_map]
  intro spec member
  obtain ⟨i, inside, rfl⟩ := List.getElem_of_mem member
  exact sheet_accepted (built.get inside (built.length_eq ▸ inside))

/-- A text that is not accepted ends the building, wherever it stands in the part of the request
that is read. The texts that the request has no use for make no difference: with and without
them the workbook, or the failure, and the warnings are the same.
-/
theorem workbook_rejects (setting : Setting) (r : Request)
    : (∀ text ∈ r.readPart.references, text.isAccepted = false
          → ∃ e, (workbook setting r).result = .error e)
      ∧ workbook setting r.usedPart = workbook setting r := by
  refine ⟨fun text member rejected => ?_, workbook_usedPart setting r⟩
  cases built : (workbook setting r).result with
  | error e => exact ⟨e, rfl⟩
  | ok w =>
      rw [workbook_accepted built text member] at rejected
      cases rejected

/-- A request whose sheet has a column with a line that there is not, under its header. -/
def unknownLineRequest : Request where
  fileName := "r.xlsx"
  sheets := [{
    name := "S"
    columns := [{
      header := "H"
      key := "k"
      style := some { border := some { bottom := some ⟨"wavy", "FF000000"⟩ } }
    }]
    data := [] }]

theorem workbook_unknownLine_rejected
    : ∃ e, (workbook sampleSetting unknownLineRequest).result = .error e :=
  (workbook_rejects sampleSetting unknownLineRequest).1 (.line "wavy") (by decide +kernel)
    (by decide +kernel)

/-- A request for a picture that is to be fetched and to stand at a cell that there is not. -/
def fetchedPictureRequest : Json.Value :=
  .object
    [("file_name", .string "r.xlsx"),
      ("sheets",
        .array
          [.object
            [("columns", .array []), ("data", .array []),
              ("images",
                .array
                  [.object
                    [("position",
                        .object [("from", .string "nowhere"), ("to", .string "B2")]),
                      ("url", .string "http://x")]]),
              ("name", .string "S")]])]

/-- Pictures are not fetched, and the workbook is built without it. -/
theorem workbook_fetchedPicture_built
    : ∃ r w, Request.validate fetchedPictureRequest = .ok r
        ∧ Reference.address "nowhere" ∈ r.references
        ∧ (Reference.address "nowhere").isAccepted = false
        ∧ (workbook sampleSetting r).result = .ok w := by
  have found : ((Request.validate fetchedPictureRequest).toOption.bind fun r =>
      (workbook sampleSetting r).result.toOption.map fun _ => r.references)
        = some [.address "nowhere", .address "B2"] := by
    decide +kernel
  obtain ⟨r, valid, found⟩ := Option.bind_eq_some_iff.mp found
  obtain ⟨w, built, texts⟩ := Option.map_eq_some_iff.mp found
  refine ⟨r, w, eq_ok_of_toOption valid, ?_, by decide +kernel, eq_ok_of_toOption built⟩
  rw [texts]
  exact List.mem_cons_self

end Spreadsheet.Build
