import Spreadsheet.Cell.Range
import Spreadsheet.Sheet.Comparison
import Spreadsheet.Style.Basic

/-! Conditional formatting rules.
-/

namespace Spreadsheet.Sheet

inductive ThresholdKind where
  | min
  | max
  | number
  | percent
  | percentile
deriving DecidableEq, Repr

def ThresholdKind.name : ThresholdKind → String
  | .min => "min"
  | .max => "max"
  | .number => "num"
  | .percent => "percent"
  | .percentile => "percentile"

/-- A point on the scale of the values in a range. -/
structure Threshold where
  kind : ThresholdKind
  value : Option String := none
deriving DecidableEq, Repr

/-- A threshold and the color there. -/
structure ColorStop where
  threshold : Threshold
  color : Style.Color
deriving DecidableEq, Repr

/-- Bars in cells that show how large their values are. -/
structure DataBar where
  min : Threshold := ⟨.min, none⟩
  max : Threshold := ⟨.max, none⟩
  color : Style.Color := .rgb 0x63 0x8E 0xC6
  showValue : Bool := true
  gradient : Bool := true
  border : Bool := false
  minLength : Option Nat := none
  maxLength : Option Nat := none
  negativeSameAsPositive : Bool := false
deriving DecidableEq, Repr

inductive IconSet where
  | arrows3
  | flags3
  | trafficLights3
  | symbols3
  | arrows4
  | arrows5
deriving DecidableEq, Repr

namespace IconSet

/-- The name in files. -/
def name : IconSet → String
  | .arrows3 => "3Arrows"
  | .flags3 => "3Flags"
  | .trafficLights3 => "3TrafficLights1"
  | .symbols3 => "3Symbols"
  | .arrows4 => "4Arrows"
  | .arrows5 => "5Arrows"

/-- The number of icons. -/
def size : IconSet → Nat
  | .arrows4 => 4
  | .arrows5 => 5
  | _ => 3

/-- One threshold for each icon, in equal steps of whole percents. -/
def defaultThresholds (set : IconSet) : List Threshold :=
  (List.range set.size).map fun i => ⟨.percent, some (Nat.repr (i * 100 / set.size))⟩

end IconSet

/-- What a rule looks at, and for scales, bars and icons also what it shows. -/
inductive Condition where
  | cellIs (comparison : Comparison) (first : String) (second : Option String)
  | expression (formula : String)
  | containsText (text : String)
  | colorScale (stops : List ColorStop)
  | dataBar (bar : DataBar)
  | iconSet (icons : IconSet) (thresholds : List Threshold) (reversed showValue : Bool)
deriving DecidableEq, Repr

namespace Condition

/-- The name of the kind of rule. -/
def kindName : Condition → String
  | .cellIs .. => "cellIs"
  | .expression _ => "expression"
  | .containsText _ => "containsText"
  | .colorScale _ => "colorScale"
  | .dataBar _ => "dataBar"
  | .iconSet .. => "iconSet"

/-- Rules of this kind show themselves by a style. -/
def usesFormat : Condition → Bool
  | .cellIs .. | .expression _ | .containsText _ => true
  | _ => false

end Condition

structure Rule where
  condition : Condition
  ranges : List Cell.Range := []
  priority : Nat := 1
  stopIfTrue : Bool := false
  format : Option Style := none
deriving DecidableEq, Repr

def Rule.shiftRows (start count : Nat) (r : Rule) : Rule :=
  { r with ranges := r.ranges.map (·.shiftRows start count) }

end Spreadsheet.Sheet
