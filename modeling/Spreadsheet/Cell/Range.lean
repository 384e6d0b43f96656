import Spreadsheet.Cell.Address

/-! Rectangles of cells such as `A2:D100`, given by two corners.
-/

namespace Spreadsheet.Cell

open Spreadsheet.Text

structure Range where
  topLeft : Address
  bottomRight : Address
deriving DecidableEq, Repr

/-- Why a text names no range: too many corners, or one that is no address. -/
inductive RangeError where
  | shape (text : String)
  | corner (text : String) (cause : AddressError)
deriving DecidableEq, Repr

def RangeError.message : RangeError → String
  | .shape text => "Invalid cell range: " ++ text
  | .corner text cause => "Invalid cell range: " ++ text ++ ": " ++ cause.message

namespace Range

/-- The range with two opposite corners, in whatever order they are given. -/
def ofCorners (a b : Address) : Range where
  topLeft := ⟨min a.row b.row, min a.column b.column⟩
  bottomRight := ⟨max a.row b.row, max a.column b.column⟩

/-- The range of one cell. -/
def single (a : Address) : Range := ⟨a, a⟩

/-- Reads one address, or two of them with a colon between. -/
def parse (s : String) : Except RangeError Range :=
  let text := trim s
  let corner (s : String) := (Address.parse s).mapError (RangeError.corner text)
  match splitAtChar ':' text with
  | [a] => do
    let a ← corner a
    return single a
  | [a, b] => do
    let a ← corner a
    let b ← corner b
    return ofCorners a b
  | _ => .error (.shape text)

/-- Both corners are the same cell. -/
def isSingle (r : Range) : Bool := r.topLeft == r.bottomRight

/-- The two cells that a range is given by. -/
def corners (r : Range) : List Address := [r.topLeft, r.bottomRight]

/-- The row numbers of both corners fit in their words. -/
def IsNumbered (r : Range) : Prop := ∀ a ∈ r.corners, a.IsNumbered

instance (r : Range) : Decidable r.IsNumbered :=
  inferInstanceAs (Decidable (∀ a ∈ r.corners, a.IsNumbered))

/-- One address for a single cell, else both corners with a colon between. -/
def text (r : Range) : String :=
  if r.isSingle then r.topLeft.text else r.topLeft.text ++ ":" ++ r.bottomRight.text

/-- The address lies in the range. -/
def contains (r : Range) (a : Address) : Bool :=
  r.topLeft.row ≤ a.row && a.row ≤ r.bottomRight.row &&
    r.topLeft.column ≤ a.column && a.column ≤ r.bottomRight.column

/-- Neither range lies wholly above, below, left or right of the other. -/
def overlaps (r s : Range) : Bool :=
  r.topLeft.row ≤ s.bottomRight.row && s.topLeft.row ≤ r.bottomRight.row &&
    r.topLeft.column ≤ s.bottomRight.column && s.topLeft.column ≤ r.bottomRight.column

/-- The range after `count` rows are put in above row `start`. -/
def shiftRows (start count : Nat) (r : Range) : Range where
  topLeft := r.topLeft.shiftRows start count
  bottomRight := r.bottomRight.shiftRows start count

/-- The numbers from `first` to `last`. -/
def interval (first last : Nat) : List Nat := List.range' first (last + 1 - first)

/-- All addresses of the range, row by row. -/
def cells (r : Range) : List Address :=
  (interval r.topLeft.row r.bottomRight.row).flatMap fun row =>
    (interval r.topLeft.column r.bottomRight.column).map fun column => ⟨row, column⟩

/-- The number of cells. -/
def size (r : Range) : Nat :=
  (r.bottomRight.row + 1 - r.topLeft.row) * (r.bottomRight.column + 1 - r.topLeft.column)

end Range

end Spreadsheet.Cell
