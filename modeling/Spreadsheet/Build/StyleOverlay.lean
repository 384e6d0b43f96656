import Spreadsheet.Build.Error
import Spreadsheet.Request.Spec

/-! Styles declared in requests, and how they are laid over the style of a cell: each declared
slot takes the place of the whole slot below it.
-/

namespace Spreadsheet.Build

open Spreadsheet.Request Spreadsheet.Style

/-- The color of a text. -/
def color (text : ColorText) : Except BuildError Color :=
  match Color.ofHex? text with
  | some c => .ok c
  | none => .error (.badColor text)

/-- Something optional, converted if it is there. -/
def optionally (f : α → Except BuildError β) : Option α → Except BuildError (Option β)
  | none => .ok none
  | some a => (f a).map some

def font (spec : FontSpec) : Except BuildError Font := do
  let base : Font := {}
  let color ← optionally color spec.color
  return {
    name := spec.name.getD base.name
    size := spec.size.getD base.size
    bold := spec.bold.getD base.bold
    italic := spec.italic.getD base.italic
    underline := spec.underline.getD base.underline
    color := color.getD base.color
  }

def horizontal : HorizontalSpec → Horizontal
  | .left => .left
  | .center => .center
  | .right => .right
  | .justify => .justify

def vertical : VerticalSpec → Vertical
  | .top => .top
  | .middle => .center
  | .bottom => .bottom

def alignment (spec : AlignmentSpec) : Style.Alignment :=
  let base : Style.Alignment := {}
  { horizontal := (spec.horizontal.map Build.horizontal).getD base.horizontal
    vertical := (spec.vertical.map Build.vertical).getD base.vertical
    wrap := spec.wrap.getD base.wrap }

/-- The second color of a pattern is looked at only where the pattern shows it. -/
def fill (spec : FillSpec) : Except BuildError Fill := do
  match Pattern.ofName? spec.pattern with
  | none => .error (.unknownPattern spec.pattern)
  | some pattern =>
    let foreground ← color spec.foreground
    match pattern with
    | .none => return .none
    | .solid => return .solid foreground
    | pattern =>
      let background ← optionally color spec.background
      return .pattern pattern foreground (background.getD .auto)

def edge (spec : EdgeSpec) : Except BuildError Edge := do
  match LineKind.ofName? spec.line with
  | none => .error (.unknownLine spec.line)
  | some line => return ⟨line, ← color spec.color⟩

def border (spec : BorderSpec) : Except BuildError Border := do
  let top ← optionally edge spec.top
  let bottom ← optionally edge spec.bottom
  let left ← optionally edge spec.left
  let right ← optionally edge spec.right
  return { left, right, top, bottom }

/-- A style after some of the layers, and the failure that stopped the others. -/
abbrev Layered := Style × Except BuildError Unit

/-- Lays one declared slot over a style unless an earlier one failed. -/
def layer (slot : Option α) (convert : α → Except BuildError β) (set : Style → β → Style)
    : Layered → Layered
  | (style, .error e) => (style, .error e)
  | (style, .ok ()) =>
    match slot with
    | none => (style, .ok ())
    | some a =>
      match convert a with
      | .ok b => (set style b, .ok ())
      | .error e => (style, .error e)

/-- Lays the slots of a declared style over a style, one after the other. After a failure the
slots before it stay changed. -/
def overlay (spec : StyleSpec) (style : Style) : Layered :=
  (style, .ok ())
    |> layer spec.font font (fun s font => { s with font })
    |> layer spec.alignment (fun a => .ok (alignment a)) (fun s alignment => { s with alignment })
    |> layer spec.fill fill (fun s fill => { s with fill })
    |> layer spec.border border (fun s border => { s with border })

/-- The style with a declared style laid over it. -/
def overlaid (spec : StyleSpec) (style : Style) : Except BuildError Style :=
  match overlay spec style with
  | (style, .ok ()) => .ok style
  | (_, .error e) => .error e

/-- The same line on all four sides. -/
def boxSpec (line : String) (color : ColorText) : BorderSpec :=
  let edge := some ⟨line, color⟩
  ⟨edge, edge, edge, edge⟩

/-- A thin black line on all four sides. -/
def defaultBoxSpec : BorderSpec := boxSpec "thin" "FF000000"

/-- The fill of a rule is solid: it shows the background color, or else the foreground one. -/
def ruleFill (spec : RuleFillSpec) : Except BuildError Fill :=
  if (spec.pattern.map fun p => Text.lowerAscii p == "none").getD false then .ok .none
  else
    match spec.background.or spec.foreground with
    | some c => (color c).map .solid
    | none => .ok .none

/-- The style that a rule shows. -/
def ruleStyle (spec : RuleStyleSpec) : Except BuildError Style := do
  let font ← optionally font spec.font
  let fill ← optionally ruleFill spec.fill
  let border ← optionally border spec.border
  let base : Style := {}
  return {
    base with
    font := font.getD base.font
    fill := fill.getD base.fill
    border := border.getD base.border
  }

end Spreadsheet.Build
