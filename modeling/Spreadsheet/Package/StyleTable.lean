import Spreadsheet.Package.Part
import Spreadsheet.Workbook.Basic

/-! The styles of a whole workbook. Each sheet numbers its styles by itself; in files the styles
of all sheets share one list, and the styles of rules share another.
-/

namespace Spreadsheet.Package

open Spreadsheet.Cell Spreadsheet.Style

/-- All styles of cells, the default one first, and the styles of rules. For each sheet there
are the numbers in the list of the styles of its own pool that cells use, and for each of its
rules the number of the rule's style. -/
structure StyleTable where
  styles : Array Style
  cellNumbers : List (Numbered Nat)
  ruleStyles : Array Style
  ruleNumbers : List (List (Option Nat))
deriving DecidableEq

namespace StyleTable

/-- The styles listed so far and the numbers of a pool's styles among them. -/
abbrev Numbering := Array Style × Numbered Nat

/-- Gives the style of a cell its number unless it has one. -/
def numberCell (pool : Pool) (n : Numbering) (local' : Nat) : Numbering :=
  if n.2.contains local' then n
  else
    let (i, styles) := intern Style.isComparable n.1 (pool.get local')
    (styles, n.2.insert local' i)

/-- Numbers the styles of a sheet's cells, row by row. -/
def numberCells (styles : Array Style) (sheet : Sheet) : Numbering :=
  (sheet.cells.entries.map (·.2.style)).foldl (numberCell sheet.cells.pool)
    (styles, Numbered.single 0 0)

/-- The numbers of the styles of rules, if they have one and show it. -/
def numberRules (styles : Array Style) : List Sheet.Rule → Array Style × List (Option Nat)
  | [] => (styles, [])
  | rule :: rules =>
    match if rule.condition.usesFormat then rule.format else none with
    | none =>
      let (styles, numbers) := numberRules styles rules
      (styles, none :: numbers)
    | some style =>
      let (i, styles) := intern Style.isComparable styles style
      let (styles, numbers) := numberRules styles rules
      (styles, some i :: numbers)

/-- Adds a sheet's styles to the table. -/
def addSheet (t : StyleTable) (sheet : Sheet) : StyleTable :=
  let (styles, cells) := numberCells t.styles sheet
  let (ruleStyles, rules) := numberRules t.ruleStyles sheet.rules
  ⟨styles, t.cellNumbers ++ [cells], ruleStyles, t.ruleNumbers ++ [rules]⟩

def empty : StyleTable := ⟨#[{}], [], #[], []⟩

/-- The table of a workbook's styles. -/
def ofWorkbook (w : Workbook) : StyleTable := w.sheets.foldl addSheet empty

/-- The number of a style of a sheet's own pool in the list of all styles. -/
def cellNumber (t : StyleTable) (sheet local' : Nat) : Nat :=
  (t.cellNumbers[sheet]?.getD ∅).getD local' 0

/-- The number of the style of a rule of a sheet. -/
def ruleNumber? (t : StyleTable) (sheet rule : Nat) : Option Nat :=
  ((t.ruleNumbers[sheet]?.getD [])[rule]?).join

end StyleTable

end Spreadsheet.Package
