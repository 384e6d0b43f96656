/-! Reading bits from bytes, lowest bits first, and reading them in prefix codes: strings of bits
for symbols, none the start of another, given by their lengths alone.
-/

namespace Spreadsheet.Archive

/-- Why no more is read from deflated data. -/
inductive Stop where
  /-- The data come to an end before they are complete. -/
  | cut
  /-- The data mean nothing, which so many bytes of them tell. -/
  | corrupt (taken : Nat)
deriving DecidableEq, Repr

/-- The bits of the last byte taken that are still to come, the bytes behind it, and how many
bytes were taken so far. -/
structure BitSource where
  bits : List Bool
  bytes : List UInt8
  taken : Nat
deriving DecidableEq, Repr

namespace BitSource

def ofBytes (bytes : List UInt8) : BitSource := ⟨[], bytes, 0⟩

/-- The number of bits still to come. -/
def size (s : BitSource) : Nat := s.bits.length + 8 * s.bytes.length

/-- The bits of a byte. -/
def bitsOf (b : UInt8) : List Bool := (List.range 8).map fun i => b.toNat.testBit i

/-- The next bit. -/
def next (s : BitSource) : Except Stop (Bool × BitSource) :=
  match s.bits, s.bytes with
  | b :: bits, _ => .ok (b, { s with bits })
  | [], b :: bytes =>
    match bitsOf b with
    | bit :: bits => .ok (bit, ⟨bits, bytes, s.taken + 1⟩)
    | [] => .error .cut
  | [], [] => .error .cut

/-- The number in the next bits, lowest first. -/
def number : Nat → BitSource → Except Stop (Nat × BitSource)
  | 0, s => .ok (0, s)
  | width + 1, s => do
    let (bit, s) ← s.next
    let (rest, s) ← number width s
    return (bit.toNat + 2 * rest, s)

end BitSource

/-- A prefix code: for each length from one on, the symbols with codes of that length in the
order of their codes. Nothing follows the longest code. -/
abbrev PrefixCode := List (List Nat)

namespace PrefixCode

/-- Codes have at most this many bits. -/
def maxLength : Nat := 15

/-- The code in which each symbol has a code of a given length, or none if that is zero. -/
def ofLengths (lengths : List Nat) : PrefixCode :=
  let byLength := (List.range maxLength).map fun i =>
    (lengths.zipIdx.filter (·.1 == i + 1)).map (·.2)
  (byLength.reverse.dropWhile List.isEmpty).reverse

/-- The share of all strings of bits that start with a code of some lengths, in units of the
longest ones. -/
def share (lengths : List Nat) : Nat :=
  lengths.foldl (fun n length => if length = 0 then n else n + Nat.pow 2 (maxLength - length)) 0

/-- Every string of bits starts with one code, and with no more than one. -/
def isComplete (lengths : List Nat) : Bool := share lengths == Nat.pow 2 maxLength

/-- There is at most one code. -/
def isSingle (lengths : List Nat) : Bool := (lengths.filter (· != 0)).length ≤ 1

/-- The code of some lengths if it is complete. -/
def ofLengthsComplete? (lengths : List Nat) : Option PrefixCode :=
  if isComplete lengths then some (ofLengths lengths) else none

/-- The code of some lengths if it is complete or has no more than one code. -/
def ofLengths? (lengths : List Nat) : Option PrefixCode :=
  if isComplete lengths || isSingle lengths then some (ofLengths lengths) else none

/-- Looks for the symbol of the next bits. The value of the bits read so far is counted from the
first code of their length that is not taken by a shorter one. -/
def find : PrefixCode → Nat → BitSource → Except Stop (Option Nat × BitSource)
  | [], _, s => .ok (none, s)
  | symbols :: longer, value, s => do
    let (bit, s) ← s.next
    let value := value + bit.toNat
    match symbols[value]? with
    | some symbol => return (symbol, s)
    | none => find longer (2 * (value - symbols.length)) s

/-- Reads one symbol. That no code is there can be told only if the longest one would fit. -/
def read (code : PrefixCode) (s : BitSource) : Except Stop (Nat × BitSource) := do
  match ← code.find 0 s with
  | (some symbol, s) => return (symbol, s)
  | (none, _) =>
    let (_, s) ← s.number maxLength
    throw (.corrupt s.taken)

end PrefixCode

end Spreadsheet.Archive
