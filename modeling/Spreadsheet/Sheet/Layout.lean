import Spreadsheet.Cell.Address
import Spreadsheet.Number.Binary64

/-! How a sheet is shown, printed and protected.
-/

namespace Spreadsheet.Sheet

open Spreadsheet.Number

/-- The number of rows and columns that stay in view. -/
structure Freeze where
  rows : Nat
  columns : Nat
deriving DecidableEq, Repr

/-- The first cell that scrolls. -/
def Freeze.topLeftCell (f : Freeze) : Cell.Address := ⟨f.rows, f.columns⟩

inductive Orientation where
  | portrait
  | landscape
deriving DecidableEq, Repr

def Orientation.name : Orientation → String
  | .portrait => "portrait"
  | .landscape => "landscape"

/-- A decimal fraction with two places. -/
def hundredths (n : Nat) : Binary64 := .nearest false n 100

/-- Page margins in inches. -/
structure Margins where
  top : Binary64 := hundredths 75
  bottom : Binary64 := hundredths 75
  left : Binary64 := hundredths 70
  right : Binary64 := hundredths 70
  header : Binary64 := hundredths 30
  footer : Binary64 := hundredths 30
deriving DecidableEq, Repr

/-- All six margins, those of the paper's edges first. -/
def Margins.toList (m : Margins) : List Binary64 :=
  [m.top, m.bottom, m.left, m.right, m.header, m.footer]

/-- Margins from a list in the same order. What is missing stays at its default. -/
def Margins.ofList (given : List (Option Binary64)) : Margins :=
  let base : Margins := {}
  let margin (i : Nat) (default : Binary64) : Binary64 := given[i]?.join.getD default
  { top := margin 0 base.top
    bottom := margin 1 base.bottom
    left := margin 2 base.left
    right := margin 3 base.right
    header := margin 4 base.header
    footer := margin 5 base.footer }

structure PageSetup where
  orientation : Orientation := .portrait
  paperSize : Option Nat := none
  fitToPage : Bool := false
  fitToWidth : Option Nat := none
  fitToHeight : Option Nat := none
  margins : Margins := {}
deriving DecidableEq, Repr

/-- Texts at the head and foot of odd pages, and of even ones where they differ. -/
structure HeaderFooter where
  oddHeader : Option String := none
  oddFooter : Option String := none
  evenHeader : Option String := none
  evenFooter : Option String := none
deriving DecidableEq, Repr

namespace HeaderFooter

def differsOnEvenPages (h : HeaderFooter) : Bool := h.evenHeader.isSome || h.evenFooter.isSome

def isEmpty (h : HeaderFooter) : Bool :=
  h.oddHeader.isNone && h.oddFooter.isNone && h.evenHeader.isNone && h.evenFooter.isNone

end HeaderFooter

/-- A password and what stays allowed on a protected sheet. -/
structure Protection where
  password : String := ""
  formatCells : Bool := false
  formatColumns : Bool := false
  formatRows : Bool := false
  insertColumns : Bool := false
  insertRows : Bool := false
  deleteColumns : Bool := false
  deleteRows : Bool := false
deriving DecidableEq, Repr

namespace Protection

/-- What is allowed, in the order of the fields. -/
def permissions (p : Protection) : List Bool :=
  [p.formatCells, p.formatColumns, p.formatRows, p.insertColumns, p.insertRows, p.deleteColumns,
    p.deleteRows]

/-- A protection from what it allows, in the same order. What is missing is not allowed. -/
def ofPermissions (password : String) (allowed : List Bool) : Protection :=
  let allows (i : Nat) : Bool := allowed[i]?.getD false
  { password
    formatCells := allows 0
    formatColumns := allows 1
    formatRows := allows 2
    insertColumns := allows 3
    insertRows := allows 4
    deleteColumns := allows 5
    deleteRows := allows 6 }

/-- Rotates a word of 15 bits left by one place. -/
def rotate15 (n : Nat) : Nat := (n >>> 14 &&& 1) ||| (n <<< 1 &&& 0x7FFF)

/-- The password check word: the bytes from the last to the first, rotated in one by one, then
their number and a constant. -/
def hashBytes (bytes : List Nat) : Nat :=
  rotate15 (bytes.foldr (fun b h => rotate15 h ^^^ b) 0) ^^^ bytes.length % 65536 ^^^ 0xCE4B

/-- The check word of the password's bytes; there is none without a password. -/
def hash? (p : Protection) : Option Nat :=
  if p.password.isEmpty then none
  else some (hashBytes (p.password.toUTF8.toList.map UInt8.toNat))

end Protection

/-- A span of rows or columns that can be folded away, its ends in order. -/
structure OutlineGroup where
  first : Nat
  last : Nat
  collapsed : Bool
deriving DecidableEq, Repr

/-- The group between two ends in any order. -/
def OutlineGroup.ofEnds (a b : Nat) (collapsed : Bool) : OutlineGroup :=
  ⟨min a b, max a b, collapsed⟩

end Spreadsheet.Sheet
