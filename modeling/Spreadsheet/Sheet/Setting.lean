import Spreadsheet.Cell.Numbered
import Spreadsheet.Sheet.Error
import Spreadsheet.Sheet.Layout

/-! Settings of rows and columns: size, visibility and place in the outline. Rows and columns
differ only in how many of them a sheet has, so both are lines along an axis here.
-/

namespace Spreadsheet.Sheet

open Spreadsheet.Cell Spreadsheet.Number

/-- The setting of a row or column; the size is a height or a width. -/
structure Setting where
  size : Option Binary64 := none
  hidden : Bool := false
  outlineLevel : Nat := 0
  collapsed : Bool := false
deriving DecidableEq, Repr

namespace Setting

instance : Inhabited Setting := ⟨{}⟩

def isDefault (s : Setting) : Bool := s == {}

end Setting

inductive Axis where
  | rows
  | columns
deriving DecidableEq, Repr

namespace Axis

/-- The number of lines on a sheet. -/
def limit : Axis → Nat
  | .rows => maxRows
  | .columns => maxColumns

/-- Line numbers are words of this many values. -/
def modulus : Axis → Nat
  | .rows => rowNumberLimit
  | .columns => wordLimit 16

def outOfBounds : Axis → Nat → ModelError
  | .rows, i => .address (.rowOutOfBounds i)
  | .columns, i => .address (.columnOutOfBounds i)

end Axis

/-- The settings of the rows or columns that have one. -/
abbrev Settings := Numbered Setting

namespace Settings

/-- The setting of any line. -/
def get (m : Settings) (i : Nat) : Setting := m.getD i {}

/-- Changes the setting of a line that lies on the sheet. -/
def update (axis : Axis) (i : Nat) (f : Setting → Setting) (m : Settings)
    : Except ModelError Settings :=
  if axis.limit ≤ i then .error (axis.outOfBounds i) else .ok (m.insert i (f (get m i)))

def setSize (axis : Axis) (i : Nat) (size : Binary64) : Settings → Except ModelError Settings :=
  update axis i fun s => { s with size := some size }

def setHidden (axis : Axis) (i : Nat) (hidden : Bool) : Settings → Except ModelError Settings :=
  update axis i fun s => { s with hidden }

/-- Outline levels are limited, and that is checked before the line. -/
def setOutline (axis : Axis) (i level : Nat) (m : Settings) : Except ModelError Settings :=
  if maxOutlineLevel < level then .error (.outlineTooDeep level)
  else update axis i (fun s => { s with outlineLevel := level }) m

/-- Takes a line one level deeper into the outline and hides it if its group is collapsed. -/
def deepen (axis : Axis) (collapsed : Bool) (i : Nat) (m : Settings)
    : Except ModelError Settings := do
  let m ← setOutline axis i ((get m i).outlineLevel + 1) m
  if collapsed then setHidden axis i true m else return m

/-- Takes `count` lines from line `i` on one level deeper. The first failure ends the run and
leaves what was done before it. -/
def deepenFrom (axis : Axis) (collapsed : Bool)
    : Nat → Nat → Settings → Settings × Except ModelError Unit
  | 0, _, m => (m, .ok ())
  | count + 1, i, m =>
    match deepen axis collapsed i m with
    | .error e => (m, .error e)
    | .ok m => deepenFrom axis collapsed count (i + 1) m

/-- The group with its first line cut to a word. -/
def cut (axis : Axis) (g : OutlineGroup) : OutlineGroup :=
  { g with first := g.first % axis.modulus }

/-- Groups a span of lines. The line behind a collapsed group is marked, if there is one. A
failure in the middle of the span leaves the lines before it grouped. The first line is cut to a
word, which matters only where it does not stand before the last one. -/
def group (axis : Axis) (g : OutlineGroup) (m : Settings) : Settings × Except ModelError Unit :=
  if axis.modulus ≤ g.last then (m, .error (axis.outOfBounds g.last))
  else
    let g := cut axis g
    match deepenFrom axis g.collapsed (g.last + 1 - g.first) g.first m with
    | (m, .error e) => (m, .error e)
    | (m, .ok ()) =>
      if g.collapsed && g.last + 1 < axis.limit then
        (m.insert (g.last + 1) { get m (g.last + 1) with collapsed := true }, .ok ())
      else (m, .ok ())

/-- The greatest outline level of any line. -/
def maxLevel (m : Settings) : Nat := m.values.foldl (fun n s => max n s.outlineLevel) 0

end Settings

end Spreadsheet.Sheet
