import Spreadsheet.Number.Binary64

/-! The shortest decimal that reads back as a given binary number.
A positive number stands for the interval of reals that round to it, its ends included when
the significand is even. Decimal grids are tried from coarse to fine; on each, only the two
neighbours of the number can be the nearest point inside the interval.
-/

namespace Spreadsheet.Number

/-- The decimal `digits · 10 ^ exponent`. -/
structure Decimal where
  digits : Nat
  exponent : Int
deriving DecidableEq, Repr

/-- Which of two equally near neighbours is taken. -/
inductive Tie where
  | up
  | even
deriving DecidableEq, Repr

/-- An interval around `mid · 2 ^ scale` in quarters of the last binary place. -/
structure RoundingInterval where
  low : Nat
  mid : Nat
  high : Nat
  closed : Bool
  scale : Int
deriving DecidableEq, Repr

namespace RoundingInterval

/-- The reals that round to `x`. Below a power of two the neighbour is half as far. -/
def of (x : Binary64) : RoundingInterval :=
  let m := x.significand
  let below := if m = Nat.pow 2 52 ∧ -1074 < x.scale then 1 else 2
  ⟨4 * m - below, 4 * m, 4 * m + 2, m % 2 == 0, x.scale - 2⟩

/-- Left side of a comparison of `n · 2 ^ scale` with a multiple of `10 ^ grid`. -/
def binarySide (i : RoundingInterval) (grid : Int) (n : Nat) : Nat :=
  n * Nat.pow 2 i.scale.toNat * Nat.pow 10 (-grid).toNat

/-- Right side of that comparison for the grid point `q · 10 ^ grid`. -/
def gridSide (i : RoundingInterval) (grid : Int) (q : Nat) : Nat :=
  q * Nat.pow 2 (-i.scale).toNat * Nat.pow 10 grid.toNat

/-- The grid point `q · 10 ^ grid` rounds to the number of the interval. -/
def contains (i : RoundingInterval) (grid : Int) (q : Nat) : Bool :=
  let low := i.binarySide grid i.low
  let high := i.binarySide grid i.high
  let point := i.gridSide grid q
  if i.closed then decide (low ≤ point ∧ point ≤ high) else decide (low < point ∧ point < high)

/-- The greatest grid point not above the number. -/
def floor (i : RoundingInterval) (grid : Int) : Nat :=
  i.binarySide grid i.mid / i.gridSide grid 1

/-- The nearest of the number's two neighbours on a grid, if one lies in the interval. -/
def hit? (i : RoundingInterval) (tie : Tie) (grid : Int) : Option Nat :=
  let q := i.floor grid
  match i.contains grid q, i.contains grid (q + 1) with
  | false, false => none
  | true, false => some q
  | false, true => some (q + 1)
  | true, true =>
    let twice := 2 * (i.binarySide grid i.mid - i.gridSide grid q)
    let unit := i.gridSide grid 1
    if twice < unit then some q
    else if unit < twice then some (q + 1)
    else match tie with
      | .up => some (q + 1)
      | .even => some (q + q % 2)

/-- The first hit on the grids from `grid` downwards. -/
def search (i : RoundingInterval) (tie : Tie) : Nat → Int → Decimal
  | 0, grid => ⟨i.floor grid, grid⟩
  | fuel + 1, grid =>
    match i.hit? tie grid with
    | some q => ⟨q, grid⟩
    | none => search i tie fuel (grid - 1)

/-- A grid whose first positive point lies above the interval. -/
def coarseGrid (i : RoundingInterval) : Int :=
  ((i.high.log2 : Int) + 1 + i.scale) * 30103 / 100000 + 1

end RoundingInterval

/-- The shortest decimal that rounds to a positive finite number, and of those the nearest.
Seventeen digits always suffice, and the first grid is at most two places too coarse. -/
def Binary64.shortest (tie : Tie) (x : Binary64) : Decimal :=
  let i := RoundingInterval.of x
  i.search tie 20 i.coarseGrid

end Spreadsheet.Number
