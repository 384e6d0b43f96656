import Spreadsheet.Build.StyleOverlay
import Spreadsheet.Number.Layout

/-! Conditional formatting rules and validations from their declarations.
-/

namespace Spreadsheet.Build

open Spreadsheet.Request Spreadsheet.Sheet

/-- The text of a term inside a rule. -/
def termText : FormulaTerm → String
  | .text s => s
  | .number x => x.display

/-- The first formula of a rule, which must have one. -/
def firstFormula (spec : RuleSpec) : Except BuildError String :=
  match spec.formulas with
  | [] => .error (.ruleNeedsFormula spec.range)
  | term :: _ => .ok (termText term)

/-- A comparison with one bound, or with two where it needs them. -/
def cellIsCondition (spec : RuleSpec) (comparison : Comparison) : Except BuildError Condition :=
  let second := spec.formulas[1]?.map termText
  if comparison.needsTwo && second.isNone then
    .error (.ruleNeedsTwoFormulas spec.range comparison.name)
  else do
    let first ← firstFormula spec
    return .cellIs comparison first second

def threshold (spec : ThresholdSpec) : Threshold := ⟨spec.kind, spec.value.map (·.display)⟩

/-- The stops of a color scale: two or three thresholds with a color each. -/
def colorStops (range : String) (spec : ColorScaleSpec) : Except BuildError (List ColorStop) :=
  if spec.stops.length ≠ spec.colors.length ∨ spec.stops.length < 2 ∨ 3 < spec.stops.length then
    .error (.scaleMismatch range)
  else
    (spec.stops.zip spec.colors).mapM fun (stop, text) => do
      let c ← color text
      return ⟨threshold stop, c⟩

/-- A data bar in the color of the rule's solid fill, if it has one. -/
def dataBar (spec : RuleSpec) : Except BuildError DataBar := do
  let base : DataBar := {}
  let options := spec.dataBar.getD {}
  let style ← optionally ruleStyle spec.style
  return {
    base with
    color := ((style.bind (·.fill.solidColor?)).getD base.color)
    minLength := options.minLength
    maxLength := options.maxLength
    showValue := options.showValue.getD base.showValue
    gradient := options.gradient.getD base.gradient
    border := options.border.getD base.border
    negativeSameAsPositive := options.negativeSameAsPositive.getD base.negativeSameAsPositive
  }

/-- What a declared rule looks at. -/
def condition (spec : RuleSpec) : Except BuildError Condition :=
  match spec.kind with
  | .cellIs =>
    match spec.operator with
    | some .containsText => (firstFormula spec).map .containsText
    | some (.compare comparison) => cellIsCondition spec comparison
    | none => .error (.ruleNeedsOperator spec.range)
  | .expression => (firstFormula spec).map .expression
  | .colorScale =>
    match spec.colorScale with
    | none => .error (.ruleNeedsScale spec.range)
    | some scale => (colorStops spec.range scale).map .colorScale
  | .dataBar => (dataBar spec).map .dataBar
  | .iconSet =>
    .ok (.iconSet .trafficLights3 IconSet.trafficLights3.defaultThresholds false true)

/-- A rule with its condition, the ranges of its range text and, if it shows one, its style. -/
def rule (priority : Nat) (spec : RuleSpec) : Except BuildError Rule := do
  let condition ← condition spec
  let ranges ← (Text.words spec.range).mapM fun part => onModel (ModelError.parseRange part)
  if ranges.isEmpty then throw .ruleWithoutRange
  let format ← if condition.usesFormat then optionally ruleStyle spec.style else .ok none
  return { condition, ranges, priority, format }

/-- The comparison of a validation; without a name it is the first one. -/
def comparison : Option String → Except BuildError Comparison
  | none => .ok .between
  | some name =>
    match Comparison.ofName? name with
    | some c => .ok c
    | none => .error (.unknownComparison name)

/-- A validation on one range. -/
def validation (spec : ValidationSpec) (range : Cell.Range) : Except BuildError Validation := do
  let comparison ← comparison spec.comparison
  return {
    kind := spec.kind
    comparison
    first := spec.first
    second := spec.second
    ranges := [range]
    allowBlank := spec.allowBlank.getD false
    showInput := spec.showInput.getD false
    promptTitle := spec.promptTitle
    prompt := spec.prompt
    showError := spec.showError.getD false
    errorTitle := spec.errorTitle
    error := spec.error
  }

end Spreadsheet.Build
