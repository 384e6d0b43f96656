import Spreadsheet.Style.Basic

/-! Lists in which every entry has a number: its position. A new entry goes to the end, and an
entry that is there already keeps its number. The pool of styles is such a list that starts
with the default style.
-/

namespace Spreadsheet.Style

/-- The position of an entry: that of an equal one, if entries like it can be found again, or
the end of the list, where it is then added. -/
def intern [DecidableEq α] (comparable : α → Bool) (list : Array α) (item : α) : Nat × Array α :=
  match if comparable item then list.findIdx? (· == item) else none with
  | some i => (i, list)
  | none => (list.size, list.push item)

/-- The distinct styles in use; the first is the default one. -/
structure Pool where
  styles : Array Style
deriving DecidableEq, Repr

namespace Pool

def empty : Pool := ⟨#[{}]⟩

instance : Inhabited Pool := ⟨empty⟩

/-- The number of a style, and the pool that holds it. -/
def insert (pool : Pool) (style : Style) : Nat × Pool :=
  let (i, styles) := intern Style.isComparable pool.styles style
  (i, ⟨styles⟩)

def size (pool : Pool) : Nat := pool.styles.size

/-- The style with a number; the default style if there is none. -/
def get (pool : Pool) (index : Nat) : Style := pool.styles[index]?.getD {}

end Pool

end Spreadsheet.Style
