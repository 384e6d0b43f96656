import Spreadsheet.Cell.Numbered
import Spreadsheet.Cell.Value
import Spreadsheet.Style.Pool

/-! The cells of a sheet. Only cells with a value or a style of their own are kept, row by row;
every other position is empty and has the default style. Styles are kept once each in a pool.
-/

namespace Spreadsheet.Cell

/-- What is kept of a cell: its value and the number of its style. -/
structure Entry where
  value : Value := .empty
  style : Nat := 0
deriving DecidableEq, Repr

/-- Nothing tells the cell from one that is not kept. -/
def Entry.isBlank (e : Entry) : Bool := e.value.isEmpty && e.style == 0

structure Grid where
  rows : Numbered (Numbered Entry) := ∅
  pool : Style.Pool := .empty
deriving DecidableEq

namespace Grid

instance : Inhabited Grid := ⟨{}⟩

/-- The kept cells of a row. -/
def row (g : Grid) (row : Nat) : Numbered Entry := g.rows.getD row ∅

/-- The kept cell at a position. -/
def entry? (g : Grid) (row column : Nat) : Option Entry := (g.row row)[column]?

/-- The value at any position. -/
def value (g : Grid) (row column : Nat) : Value := ((g.entry? row column).getD {}).value

/-- The style at any position. -/
def style (g : Grid) (row column : Nat) : Style :=
  g.pool.get ((g.entry? row column).getD {}).style

/-- Changes the cell at a position; a cell that is then blank is not kept, and neither is a row
without cells. -/
def update (g : Grid) (row column : Nat) (f : Entry → Entry) : Grid :=
  let cells := g.row row
  let entry := f (cells.getD column {})
  let cells := if entry.isBlank then cells.erase column else cells.insert column entry
  { g with rows := if cells.isEmpty then g.rows.erase row else g.rows.insert row cells }

def setValue (g : Grid) (row column : Nat) (value : Value) : Grid :=
  g.update row column fun e => { e with value }

/-- Gives a cell a style, which joins the pool unless it is there already. -/
def setStyle (g : Grid) (row column : Nat) (style : Style) : Grid :=
  let (index, pool) := g.pool.insert style
  { g with pool }.update row column fun e => { e with style := index }

/-- The kept cells with their positions, row by row. -/
def entries (g : Grid) : List (Address × Entry) :=
  g.rows.toList.flatMap fun (row, cells) =>
    cells.toList.map fun (column, entry) => (⟨row, column⟩, entry)

/-- The number of kept cells. -/
def size (g : Grid) : Nat := g.rows.toList.foldl (fun n row => n + row.2.size) 0

def isEmpty (g : Grid) : Bool := g.rows.isEmpty

/-- The last row with a kept cell. -/
def lastRow? (g : Grid) : Option Nat := Numbered.lastKey? g.rows

/-- The last column with a kept cell. -/
def lastColumn? (g : Grid) : Option Nat :=
  (g.rows.toList.filterMap fun row => Numbered.lastKey? row.2).max?

/-- Moves all rows from `start` on down by `count` rows. -/
def shiftRows (g : Grid) (start count : Nat) : Grid :=
  { g with rows := g.rows.shiftRows start count }

end Grid

end Spreadsheet.Cell
