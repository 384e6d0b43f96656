import Spreadsheet.Proofs.Build.ShownDrawings

/-! Which declarations come to a rule of conditional formatting, and to which one. Requests may
leave out parts of a rule that its kind needs, and a rule is made just if nothing is missing, so
that the rules of a finished sheet have all that they need.
-/

namespace Spreadsheet.Build

open Spreadsheet.Cell Spreadsheet.Request Spreadsheet.Sheet Spreadsheet.Style

variable {spec : RuleSpec} {shown : Condition}

-----------------------------------------------------------------------------------------
-- What is optional, and what has formulas
-----------------------------------------------------------------------------------------

/-- The style is the declared one, and there is one just if one is declared. -/
abbrev Styled : Option RuleStyleSpec → Option Style → Prop :=
  Option.Rel fun declared style => ruleStyle declared = .ok style

theorem styled_iff {declared : Option RuleStyleSpec} {style : Option Style}
    : optionally ruleStyle declared = .ok style ↔ Styled declared style := by
  cases declared with
  | none =>
      constructor
      · intro done
        cases done
        exact .none
      · intro styled
        cases styled
        rfl
  | some declared =>
      constructor
      · intro done
        obtain ⟨converted, made, rfl⟩ := map_eq_ok.mp done
        exact .some made
      · intro styled
        cases styled with
        | some made => exact map_eq_ok.mpr ⟨_, made, rfl⟩

theorem exists_styled_iff {declared : Option RuleStyleSpec}
    : (∃ style, Styled declared style)
      ↔ ∀ spec, declared = some spec → ∃ style, ruleStyle spec = .ok style := by
  constructor
  · rintro ⟨_, styled⟩ spec rfl
    cases styled with
    | some made => exact ⟨_, made⟩
  · intro converts
    cases declared with
    | none => exact ⟨none, .none⟩
    | some spec =>
        obtain ⟨style, made⟩ := converts spec rfl
        exact ⟨some style, .some made⟩

theorem firstFormula_eq_ok {text : String}
    : firstFormula spec = .ok text
      ↔ ∃ first rest, spec.formulas = first :: rest ∧ text = termText first := by
  rw [firstFormula]
  cases spec.formulas with
  | nil => exact iff_of_false nofun nofun
  | cons first rest => simp [eq_comm]

theorem needsTwo_iff {comparison : Comparison}
    : comparison.needsTwo ↔ comparison = .between ∨ comparison = .notBetween := by
  cases comparison <;> decide

theorem cellIsCondition_eq_ok {comparison : Comparison}
    : cellIsCondition spec comparison = .ok shown
      ↔ ∃ first rest, spec.formulas = first :: rest
        ∧ (comparison = .between ∨ comparison = .notBetween → rest ≠ [])
        ∧ shown = .cellIs comparison (termText first) (rest.head?.map termText) := by
  rw [cellIsCondition, firstFormula]
  cases spec.formulas with
  | nil =>
      refine iff_of_false ?_ nofun
      split <;> nofun
  | cons first rest =>
      have second : (first :: rest)[1]? = rest.head? := by cases rest <;> rfl
      simp only [second]
      constructor
      · intro done
        split at done
        · cases done
        · next enough =>
            cases done
            refine ⟨first, rest, rfl, fun two none => enough ?_, rfl⟩
            rw [needsTwo_iff.mpr two, none]
            rfl
      · rintro ⟨_, _, same, two, rfl⟩
        cases same
        refine if_neg fun short => ?_
        obtain ⟨needs, none⟩ := Bool.and_eq_true_iff.mp short
        refine two (needsTwo_iff.mp needs) ?_
        simpa using none

-----------------------------------------------------------------------------------------
-- Scales
-----------------------------------------------------------------------------------------

/-- The stops are those of a declared scale, two or three of them, each with the color at its
position.
-/
structure IsScale (scale : ColorScaleSpec) (stops : List ColorStop) : Prop where
  few : stops.length = 2 ∨ stops.length = 3
  thresholds : stops.map (·.threshold) = scale.stops.map threshold
  colors
    : List.Forall₂ (fun text stop => Color.ofHex? text = some stop.color) scale.colors stops

theorem color_eq_ok {text : ColorText} {c : Color}
    : color text = .ok c ↔ Color.ofHex? text = some c := by
  rw [color]
  cases Color.ofHex? text <;> simp

/-- A stop has the threshold and the color of its pair. -/
theorem stop_eq_ok {declared : ThresholdSpec} {text : ColorText} {stop : ColorStop}
    : (do
          let c ← color text
          return (⟨threshold declared, c⟩ : ColorStop))
        = .ok stop
      ↔ stop.threshold = threshold declared ∧ Color.ofHex? text = some stop.color := by
  rw [bind_eq_ok]
  constructor
  · rintro ⟨c, read, done⟩
    cases done
    exact ⟨rfl, color_eq_ok.mp read⟩
  · rintro ⟨same, read⟩
    refine ⟨stop.color, color_eq_ok.mpr read, ?_⟩
    rw [← same]
    rfl

/-- Stops are made of thresholds and colors pair by pair, by induction on the thresholds. -/
theorem stops_eq_ok {thresholds : List ThresholdSpec} {colors : List ColorText}
    (matched : thresholds.length = colors.length) {stops : List ColorStop}
    : ((thresholds.zip colors).mapM fun (declared, text) => do
          let c ← color text
          return (⟨threshold declared, c⟩ : ColorStop))
        = .ok stops
      ↔ stops.map (·.threshold) = thresholds.map threshold
        ∧ List.Forall₂ (fun text stop => Color.ofHex? text = some stop.color) colors stops := by
  rw [mapM_eq_ok]
  induction thresholds generalizing colors stops with
  | nil =>
      cases List.length_eq_zero_iff.mp matched.symm
      cases stops <;> simp
  | cons declared rest ih =>
      cases colors with
      | nil => cases matched
      | cons text others =>
          cases stops with
          | nil => exact iff_of_false nofun nofun
          | cons stop more =>
              rw [List.zip_cons_cons, List.forall₂_cons, ih (Nat.succ.inj matched)]
              simp only [stop_eq_ok, List.map_cons, List.cons.injEq, List.forall₂_cons]
              exact and_and_and_comm

theorem colorStops_eq_ok {range : String} {scale : ColorScaleSpec} {stops : List ColorStop}
    : colorStops range scale = .ok stops ↔ IsScale scale stops := by
  rw [colorStops]
  constructor
  · intro done
    split at done
    · cases done
    · next shape =>
        obtain ⟨thresholds, colors⟩ := (stops_eq_ok (by omega)).mp done
        have length : stops.length = scale.stops.length := by
          simpa using congrArg List.length thresholds
        exact ⟨by omega, thresholds, colors⟩
  · intro isScale
    have length : stops.length = scale.stops.length := by
      simpa using congrArg List.length isScale.thresholds
    have matched : scale.stops.length = scale.colors.length := by
      rw [← length, isScale.colors.length_eq]
    have few := isScale.few
    rw [if_neg (by omega)]
    exact (stops_eq_ok matched).mpr ⟨isScale.thresholds, isScale.colors⟩

-----------------------------------------------------------------------------------------
-- Data bars
-----------------------------------------------------------------------------------------

/-- The bar has the declared options, those left out as is usual, and the color of the solid fill
of the declared style, if there is one.
-/
structure IsBar (spec : RuleSpec) (bar : DataBar) : Prop where
  min : bar.min = ⟨.min, none⟩
  max : bar.max = ⟨.max, none⟩
  minLength : bar.minLength = spec.dataBar.bind (·.minLength)
  maxLength : bar.maxLength = spec.dataBar.bind (·.maxLength)
  showValue : bar.showValue = (spec.dataBar.bind (·.showValue)).getD true
  gradient : bar.gradient = (spec.dataBar.bind (·.gradient)).getD true
  border : bar.border = (spec.dataBar.bind (·.border)).getD false
  negativeSameAsPositive
    : bar.negativeSameAsPositive = (spec.dataBar.bind (·.negativeSameAsPositive)).getD false
  color
    : ∃ style, Styled spec.style style
        ∧ bar.color = (style.bind (·.fill.solidColor?)).getD (.rgb 0x63 0x8E 0xC6)

theorem dataBar_eq_ok {bar : DataBar} : dataBar spec = .ok bar ↔ IsBar spec bar := by
  simp only [dataBar, bind_eq_ok, styled_iff]
  constructor
  · rintro ⟨style, styled, done⟩
    cases done
    cases declared : spec.dataBar <;>
      exact {
        min := rfl
        max := rfl
        minLength := by simp [declared]
        maxLength := by simp [declared]
        showValue := by simp [declared]
        gradient := by simp [declared]
        border := by simp [declared]
        negativeSameAsPositive := by simp [declared]
        color := ⟨style, styled, rfl⟩
      }
  · obtain ⟨min, max, color, showValue, gradient, border, minLength, maxLength, negative⟩ := bar
    rintro ⟨rfl, rfl, rfl, rfl, rfl, rfl, rfl, rfl, style, styled, rfl⟩
    refine ⟨style, styled, ?_⟩
    cases spec.dataBar <;> rfl

-----------------------------------------------------------------------------------------
-- Conditions
-----------------------------------------------------------------------------------------

/-- What a declared rule looks at, by its kind and its operator. -/
inductive LooksAt (spec : RuleSpec) : Condition → Prop
  /-- A comparison has one bound, or two where it needs them; further formulas are not looked at. -/
  | comparison {comparison : Comparison} {first : FormulaTerm} {rest : List FormulaTerm}
      (kind : spec.kind = .cellIs) (operator : spec.operator = some (.compare comparison))
      (formulas : spec.formulas = first :: rest)
      (bounds : comparison = .between ∨ comparison = .notBetween → rest ≠ [])
    : LooksAt spec (.cellIs comparison (termText first) (rest.head?.map termText))
  | containsText {first : FormulaTerm} {rest : List FormulaTerm}
      (kind : spec.kind = .cellIs) (operator : spec.operator = some .containsText)
      (formulas : spec.formulas = first :: rest)
    : LooksAt spec (.containsText (termText first))
  | expression {first : FormulaTerm} {rest : List FormulaTerm}
      (kind : spec.kind = .expression) (formulas : spec.formulas = first :: rest)
    : LooksAt spec (.expression (termText first))
  | colorScale {scale : ColorScaleSpec} {stops : List ColorStop} (kind : spec.kind = .colorScale)
      (declared : spec.colorScale = some scale) (isScale : IsScale scale stops)
    : LooksAt spec (.colorScale stops)
  | dataBar {bar : DataBar} (kind : spec.kind = .dataBar) (isBar : IsBar spec bar)
    : LooksAt spec (.dataBar bar)
  | iconSet (kind : spec.kind = .iconSet)
    : LooksAt spec (.iconSet .trafficLights3 IconSet.trafficLights3.defaultThresholds false true)

/-- The condition of a declaration, by the kinds of rules. -/
theorem condition_eq_ok : condition spec = .ok shown ↔ LooksAt spec shown := by
  constructor
  · intro done
    simp only [condition] at done
    split at done
    · next kind =>
        split at done
        · next operator =>
            obtain ⟨_, formula, rfl⟩ := map_eq_ok.mp done
            obtain ⟨first, rest, formulas, rfl⟩ := firstFormula_eq_ok.mp formula
            exact .containsText kind operator formulas
        · next comparison operator =>
            obtain ⟨first, rest, formulas, bounds, rfl⟩ := cellIsCondition_eq_ok.mp done
            exact .comparison kind operator formulas bounds
        · cases done
    · next kind =>
        obtain ⟨_, formula, rfl⟩ := map_eq_ok.mp done
        obtain ⟨first, rest, formulas, rfl⟩ := firstFormula_eq_ok.mp formula
        exact .expression kind formulas
    · next kind =>
        split at done
        · cases done
        · next scale declared =>
            obtain ⟨stops, made, rfl⟩ := map_eq_ok.mp done
            exact .colorScale kind declared (colorStops_eq_ok.mp made)
    · next kind =>
        obtain ⟨bar, made, rfl⟩ := map_eq_ok.mp done
        exact .dataBar kind (dataBar_eq_ok.mp made)
    · next kind =>
        cases done
        exact .iconSet kind
  · intro looksAt
    cases looksAt with
    | comparison kind operator formulas bounds =>
        simp only [condition, kind, operator]
        exact cellIsCondition_eq_ok.mpr ⟨_, _, formulas, bounds, rfl⟩
    | containsText kind operator formulas =>
        simp only [condition, kind, operator]
        exact map_eq_ok.mpr ⟨_, firstFormula_eq_ok.mpr ⟨_, _, formulas, rfl⟩, rfl⟩
    | expression kind formulas =>
        simp only [condition, kind]
        exact map_eq_ok.mpr ⟨_, firstFormula_eq_ok.mpr ⟨_, _, formulas, rfl⟩, rfl⟩
    | colorScale kind declared isScale =>
        simp only [condition, kind, declared]
        exact map_eq_ok.mpr ⟨_, colorStops_eq_ok.mpr isScale, rfl⟩
    | dataBar kind isBar =>
        simp only [condition, kind]
        exact map_eq_ok.mpr ⟨_, dataBar_eq_ok.mpr isBar, rfl⟩
    | iconSet kind => simp only [condition, kind]

-----------------------------------------------------------------------------------------
-- Rules
-----------------------------------------------------------------------------------------

/-- The rule is the one that is declared: on its ranges in their order, with the given priority,
what its kind looks at, and with its style if it is of a kind that shows one.
-/
structure IsRule (priority : Nat) (spec : RuleSpec) (r : Rule) : Prop where
  ranges
    : List.Forall₂ (fun part range => Range.parse part = .ok range) (Text.words spec.range) r.ranges
  somewhere : r.ranges ≠ []
  priority : r.priority = priority
  goesOn : r.stopIfTrue = false
  looksAt : LooksAt spec r.condition
  format
    : if spec.kind = .cellIs ∨ spec.kind = .expression then Styled spec.style r.format
      else r.format = none

/-- Rules on values and expressions show a style, the others show themselves. -/
theorem LooksAt.usesFormat_iff (looksAt : LooksAt spec shown)
    : shown.usesFormat ↔ spec.kind = .cellIs ∨ spec.kind = .expression := by
  cases looksAt with
  | comparison kind | containsText kind | expression kind =>
      exact iff_of_true rfl (by simp [kind])
  | colorScale kind | dataBar kind | iconSet kind =>
      exact iff_of_false Bool.false_ne_true (by simp [kind])

theorem rule_iff {priority : Nat} {r : Rule}
    : rule priority spec = .ok r ↔ IsRule priority spec r := by
  have parsed {ranges : List Range}
      : (Text.words spec.range).mapM (fun part => onModel (ModelError.parseRange part)) = .ok ranges
        ↔ List.Forall₂ (fun part range => Range.parse part = .ok range)
            (Text.words spec.range) ranges := by
    simp only [mapM_eq_ok, onModel_eq_ok, ModelError.parseRange, mapError_eq_ok]
  have formatted (looksAt : LooksAt spec r.condition)
      : (if r.condition.usesFormat then optionally ruleStyle spec.style else .ok none)
          = .ok r.format
        ↔ if spec.kind = .cellIs ∨ spec.kind = .expression then Styled spec.style r.format
          else r.format = none := by
    simp only [looksAt.usesFormat_iff]
    split
    · exact styled_iff
    · exact ⟨fun same => (Except.ok.inj same).symm, fun none => congrArg Except.ok none.symm⟩
  rw [rule_eq_ok, condition_eq_ok, parsed, List.isEmpty_eq_false_iff]
  constructor
  · rintro ⟨looksAt, ranges, somewhere, same, goesOn, format⟩
    exact ⟨ranges, somewhere, same, goesOn, looksAt, (formatted looksAt).mp format⟩
  · rintro ⟨ranges, somewhere, same, goesOn, looksAt, format⟩
    exact ⟨looksAt, ranges, somewhere, same, goesOn, (formatted looksAt).mpr format⟩

/-- Nothing is missing in the declaration of a rule. -/
structure Complete (spec : RuleSpec) : Prop where
  ranges : Text.words spec.range ≠ []
    ∧ ∀ part ∈ Text.words spec.range, ∃ range, Range.parse part = .ok range
  cells : spec.kind = .cellIs → spec.operator ≠ none ∧ spec.formulas ≠ []
  bounds : spec.kind = .cellIs
    → spec.operator = some (.compare .between) ∨ spec.operator = some (.compare .notBetween)
    → 2 ≤ spec.formulas.length
  expression : spec.kind = .expression → spec.formulas ≠ []
  scale : spec.kind = .colorScale → ∃ scale, spec.colorScale = some scale
    ∧ scale.stops.length = scale.colors.length
    ∧ (scale.stops.length = 2 ∨ scale.stops.length = 3)
    ∧ ∀ text ∈ scale.colors, ∃ c, Color.ofHex? text = some c
  style : spec.kind ≠ .colorScale → spec.kind ≠ .iconSet
    → ∀ declared, spec.style = some declared → ∃ style, ruleStyle declared = .ok style

/-- A scale with a threshold for each color has its stops if all colors are read. -/
theorem exists_isScale {scale : ColorScaleSpec}
    (matched : scale.stops.length = scale.colors.length)
    (few : scale.stops.length = 2 ∨ scale.stops.length = 3)
    (read : ∀ text ∈ scale.colors, ∃ c, Color.ofHex? text = some c)
    : ∃ stops, IsScale scale stops := by
  obtain ⟨stops, each⟩ : ∃ stops : List ColorStop, List.Forall₂
      (fun pair stop => (do
          let c ← color pair.2
          return (⟨threshold pair.1, c⟩ : ColorStop)) = .ok stop)
      (scale.stops.zip scale.colors) stops := by
    refine exists_forall₂_iff.mpr fun pair member => ?_
    obtain ⟨c, known⟩ := read pair.2 (List.of_mem_zip member).2
    exact ⟨⟨threshold pair.1, c⟩, stop_eq_ok.mpr ⟨rfl, known⟩⟩
  obtain ⟨thresholds, colors⟩ := (stops_eq_ok matched).mp (mapM_eq_ok.mpr each)
  have length : stops.length = scale.stops.length := by
    simpa using congrArg List.length thresholds
  exact ⟨stops, by rwa [length], thresholds, colors⟩

theorem exists_isBar (converts : ∀ declared, spec.style = some declared
      → ∃ style, ruleStyle declared = .ok style)
    : ∃ bar, IsBar spec bar := by
  obtain ⟨style, styled⟩ := exists_styled_iff.mpr converts
  exact ⟨_, dataBar_eq_ok.mp (bind_eq_ok.mpr ⟨style, styled_iff.mpr styled, rfl⟩)⟩

/-- A complete declaration looks at something, by the kinds of rules. -/
theorem Complete.exists_looksAt (complete : Complete spec) : ∃ shown, LooksAt spec shown := by
  cases kind : spec.kind with
  | cellIs =>
      obtain ⟨chosen, filled⟩ := complete.cells kind
      obtain ⟨operator, operated⟩ := Option.ne_none_iff_exists'.mp chosen
      obtain ⟨first, rest, formulas⟩ := List.exists_cons_of_ne_nil filled
      cases operator with
      | containsText => exact ⟨_, .containsText kind operated formulas⟩
      | compare comparison =>
          refine ⟨_, .comparison kind operated formulas fun two none => ?_⟩
          have enough := complete.bounds kind (by simpa [operated] using two)
          simp [formulas, none] at enough
  | expression =>
      obtain ⟨first, rest, formulas⟩ := List.exists_cons_of_ne_nil (complete.expression kind)
      exact ⟨_, .expression kind formulas⟩
  | colorScale =>
      obtain ⟨scale, declared, matched, few, read⟩ := complete.scale kind
      obtain ⟨stops, isScale⟩ := exists_isScale matched few read
      exact ⟨_, .colorScale kind declared isScale⟩
  | dataBar =>
      obtain ⟨bar, isBar⟩ := exists_isBar (complete.style (by simp [kind]) (by simp [kind]))
      exact ⟨_, .dataBar kind isBar⟩
  | iconSet => exact ⟨_, .iconSet kind⟩

/-- A complete declaration comes to a rule of any priority. -/
theorem Complete.exists_isRule (complete : Complete spec) (priority : Nat)
    : ∃ r, IsRule priority spec r := by
  obtain ⟨shown, looksAt⟩ := complete.exists_looksAt
  obtain ⟨ranges, parsed⟩ := exists_forall₂_iff.mpr complete.ranges.2
  have somewhere : ranges ≠ [] := by
    rintro rfl
    exact complete.ranges.1 (List.forall₂_nil_right_iff.mp parsed)
  obtain ⟨format, formatted⟩ : ∃ format : Option Style,
      if spec.kind = .cellIs ∨ spec.kind = .expression then Styled spec.style format
      else format = none := by
    split
    · next shows =>
        refine exists_styled_iff.mpr (complete.style ?_ ?_) <;>
          rcases shows with kind | kind <;> simp [kind]
    · exact ⟨none, rfl⟩
  exact ⟨⟨shown, ranges, priority, false, format⟩, parsed, somewhere, rfl, rfl, looksAt, formatted⟩

/-- Where a rule is made, nothing is missing. -/
theorem IsRule.complete {priority : Nat} {r : Rule} (isRule : IsRule priority spec r)
    : Complete spec := by
  obtain ⟨shown, ranges, _, _, format⟩ := r
  have looksAt : LooksAt spec shown := isRule.looksAt
  have styled := isRule.format
  refine {
    ranges := ⟨fun none => ?_, exists_forall₂_iff.mp ⟨_, isRule.ranges⟩⟩
    cells := fun kind => ?_
    bounds := fun kind two => ?_
    expression := fun kind => ?_
    scale := fun kind => ?_
    style := fun notScale notIcons => ?_
  }
  · have ranges := isRule.ranges
    rw [none] at ranges
    exact isRule.somewhere (List.forall₂_nil_left_iff.mp ranges)
  · cases looksAt with
    | comparison _ operator formulas | containsText _ operator formulas =>
        simp [operator, formulas]
    | expression other | colorScale other | dataBar other | iconSet other =>
        cases kind.symm.trans other
  · cases looksAt with
    | comparison _ operator formulas bounds =>
        have filled := bounds (by simpa [operator] using two)
        simpa [formulas, Nat.succ_le_iff] using List.length_pos_iff.mpr filled
    | containsText _ operator => simp [operator] at two
    | expression other | colorScale other | dataBar other | iconSet other =>
        cases kind.symm.trans other
  · cases looksAt with
    | expression _ formulas => simp [formulas]
    | comparison other | containsText other | colorScale other | dataBar other | iconSet other =>
        cases kind.symm.trans other
  · cases looksAt with
    | colorScale _ declared isScale =>
        have thresholds := congrArg List.length isScale.thresholds
        simp only [List.length_map] at thresholds
        refine ⟨_, declared, ?_, ?_, fun text member => ?_⟩
        · rw [← thresholds, isScale.colors.length_eq]
        · rw [← thresholds]
          exact isScale.few
        · obtain ⟨stop, read⟩ := exists_forall₂_iff.mp ⟨_, isScale.colors⟩ text member
          exact ⟨_, read⟩
    | comparison other | containsText other | expression other | dataBar other | iconSet other =>
        cases kind.symm.trans other
  · cases looksAt with
    | comparison kind | containsText kind | expression kind =>
        rw [if_pos (by simp [kind])] at styled
        exact exists_styled_iff.mp ⟨_, styled⟩
    | dataBar _ isBar =>
        obtain ⟨style, styled, -⟩ := isBar.color
        exact exists_styled_iff.mp ⟨style, styled⟩
    | colorScale kind => exact absurd kind notScale
    | iconSet kind => exact absurd kind notIcons

theorem exists_rule_iff (priority : Nat) (spec : RuleSpec)
    : (∃ r, rule priority spec = .ok r) ↔ Complete spec := by
  simp only [rule_iff]
  exact ⟨fun ⟨_, isRule⟩ => isRule.complete, fun complete => complete.exists_isRule priority⟩

-----------------------------------------------------------------------------------------
-- Finished sheets
-----------------------------------------------------------------------------------------

/-- The rules are the declared ones in their order, with priorities from one on and on ranges some
rows further down.
-/
def HasRules (k : Nat) (declared : List RuleSpec) (rules : List Rule) : Prop :=
  List.Forall₂
    (fun declared r => ∃ made, IsRule (declared.2 + 1) declared.1 made
      ∧ r = { made with ranges := made.ranges.map (·.down k) })
    declared.zipIdx rules

/-- Only the declared rules are added to a sheet, and they move down with everything else. -/
theorem sheet_hasRules {setting : Setting} {generator : Generator} {spec : SheetSpec} {s : Sheet}
    (built : (sheet setting generator spec).result = .ok s)
    : HasRules (rowsAboveIn generator spec) (declaredRules spec) s.rules := by
  obtain ⟨table, finished, down⟩ := sheet_restDown built
  obtain ⟨t, charts, pictures, cells, -, -, rfl⟩ := tableSheet_parts finished
  obtain ⟨start, _, before, ruled, behind⟩ := tableCells_parts cells
  obtain ⟨rules, rfl, each⟩ := addRules_eq_ok ruled
  have same : t.rules = rules := by
    rw [(sameLists_of_run behind).rules, (sameLists_of_run before).rules]
    rfl
  rw [down.rules, HasRules, List.forall₂_map_right_iff]
  change List.Forall₂ _ _ t.rules
  rw [same]
  exact each.imp fun _ r made => ⟨r, rule_iff.mp made, rfl⟩

/-- The rule stands somewhere, a comparison with two bounds has both of them, and a scale has two or
three stops.
-/
structure Usable (r : Rule) : Prop where
  somewhere : r.ranges ≠ []
  bounds
    : ∀ comparison first second, r.condition = .cellIs comparison first second
      → comparison = .between ∨ comparison = .notBetween → second ≠ none
  stops
    : ∀ stops, r.condition = .colorScale stops → stops.length = 2 ∨ stops.length = 3

theorem LooksAt.bounds {comparison : Comparison} {first : String} {second : Option String}
    (looksAt : LooksAt spec (.cellIs comparison first second))
    (two : comparison = .between ∨ comparison = .notBetween)
    : second ≠ none := by
  cases looksAt with
  | comparison _ _ _ bounds => simpa using bounds two

theorem LooksAt.stops {stops : List ColorStop} (looksAt : LooksAt spec (.colorScale stops))
    : stops.length = 2 ∨ stops.length = 3 := by
  cases looksAt with
  | colorScale _ _ isScale => exact isScale.few

theorem HasRules.usable {k : Nat} {declared : List RuleSpec} {rules : List Rule}
    (hasRules : HasRules k declared rules)
    : ∀ r ∈ rules, Usable r := by
  intro r member
  obtain ⟨_, made, isRule, rfl⟩ := exists_forall₂_iff.mp ⟨_, hasRules.flip⟩ r member
  exact {
    somewhere := fun none => isRule.somewhere (List.map_eq_nil_iff.mp none)
    bounds := fun _ _ _ same => (same ▸ isRule.looksAt : LooksAt _ _).bounds
    stops := fun _ same => (same ▸ isRule.looksAt : LooksAt _ _).stops
  }

/-- A declaration comes to a rule just if nothing is missing in it, and then to the rule that is
declared. So the rules of whatever sheet is finished in either layout are the declared ones, and all
of them can be used.
-/
theorem rules_made_iff_complete
    : (∀ priority spec, (∃ r, rule priority spec = .ok r) ↔ Complete spec)
      ∧ (∀ priority spec r, rule priority spec = .ok r ↔ IsRule priority spec r)
      ∧ ∀ setting generator request w, (workbookIn setting generator request).result = .ok w
        → List.Forall₂
              (fun spec s => HasRules (rowsAboveIn generator spec) (declaredRules spec) s.rules)
              request.sheets w.sheets
          ∧ ∀ s ∈ w.sheets, ∀ r ∈ s.rules, Usable r := by
  refine ⟨exists_rule_iff, fun _ _ _ => rule_iff, fun setting generator request w built => ?_⟩
  have hasRules := (workbookIn_sheets built).imp fun _ _ => sheet_hasRules
  refine ⟨hasRules, fun s member => ?_⟩
  obtain ⟨_, has⟩ := exists_forall₂_iff.mp ⟨_, hasRules.flip⟩ s member
  exact HasRules.usable has

/-- Two bounds that fill the cells between them on two ranges, and a scale with two stops. -/
def sampleRules : List RuleSpec :=
  [{ range := "A2:A9 C2", kind := .cellIs, operator := some (.compare .between),
     formulas := [.text "1", .text "$B$1"],
     style := some { fill := some { background := some "FFFFC7CE" } } },
    { range := "B2:B9", kind := .colorScale,
      colorScale := some ⟨[{ kind := .min }, { kind := .max }], ["FFFF0000", "FF00FF00"]⟩ }]

/-- A sheet with the sample's rules. -/
def sampleRuleSheet : SheetSpec where
  name := "Rules"
  columns := [{ header := "Sum", key := "sum" }]
  data := [[("sum", .int 7)]]
  formatting := some { rules := sampleRules }

/-- The sample is built, and both of its rules can be used; the first one could not without its
second bound.
-/
theorem rules_made_sampleRules
    : ∃ w,
        (workbookIn sampleSetting .table ⟨"rules.xlsx", [sampleRuleSheet], none, none⟩).result
          = .ok w
        ∧ List.Forall₂ (fun spec s => HasRules 0 (declaredRules spec) s.rules)
            [sampleRuleSheet] w.sheets
        ∧ (∀ s ∈ w.sheets, ∀ r ∈ s.rules, Usable r)
        ∧ ∀ spec ∈ sampleRules, spec.kind = .cellIs
          → ¬ Complete { spec with formulas := spec.formulas.take 1 } := by
  obtain ⟨-, -, sheets⟩ := rules_made_iff_complete
  obtain ⟨w, done⟩ := exists_of_isOk
    (x := (workbookIn sampleSetting .table ⟨"rules.xlsx", [sampleRuleSheet], none, none⟩).result)
    (by decide +kernel)
  obtain ⟨hasRules, usable⟩ := sheets _ _ _ w done
  refine ⟨w, done, hasRules, usable, fun spec member kind complete => ?_⟩
  rcases List.mem_pair.mp member with rfl | rfl
  · have enough : 2 ≤ 1 := complete.bounds kind (.inl rfl)
    omega
  · cases kind

end Spreadsheet.Build
