import Spreadsheet.Archive.PrefixCode

/-! Inflating: deflated data are blocks of bytes as they are, or of codes for bytes and for
copies of what came before. What comes before a stop counts, apart from what was not handed out
yet when data turn out to mean nothing. Data are handed out when a window of them is full, and
when another portion of the deflated data has to be taken.
-/

namespace Spreadsheet.Archive

/-- The codes of bytes and lengths, and those of distances. -/
structure Codes where
  symbols : PrefixCode
  distances : PrefixCode
deriving DecidableEq, Repr

namespace Codes

/-- The codes where a block brings none of its own. -/
def fixed : Codes where
  symbols := .ofLengths
    (List.replicate 144 8 ++ List.replicate 112 9 ++ List.replicate 24 7 ++ List.replicate 8 8)
  distances := .ofLengths (List.replicate 32 5)

end Codes

/-- The shortest copy and the number of bits that tell how much longer it is, by symbol. -/
def copyLengths : List (Nat × Nat) :=
  [(3, 0), (4, 0), (5, 0), (6, 0), (7, 0), (8, 0), (9, 0), (10, 0), (11, 1), (13, 1), (15, 1),
    (17, 1), (19, 2), (23, 2), (27, 2), (31, 2), (35, 3), (43, 3), (51, 3), (59, 3), (67, 4),
    (83, 4), (99, 4), (115, 4), (131, 5), (163, 5), (195, 5), (227, 5), (258, 0)]

/-- The least distance and the number of bits that tell how much farther it is, by symbol. -/
def copyDistances : List (Nat × Nat) :=
  [(1, 0), (2, 0), (3, 0), (4, 0), (5, 1), (7, 1), (9, 2), (13, 2), (17, 3), (25, 3), (33, 4),
    (49, 4), (65, 5), (97, 5), (129, 6), (193, 6), (257, 7), (385, 7), (513, 8), (769, 8),
    (1025, 9), (1537, 9), (2049, 10), (3073, 10), (4097, 11), (6145, 11), (8193, 12),
    (12289, 12), (16385, 13), (24577, 13)]

/-- The amount that an entry of a table and the next bits give. -/
def amount (table : List (Nat × Nat)) (symbol : Nat) (s : BitSource)
    : Except Stop (Nat × BitSource) :=
  match table[symbol]? with
  | none => .error (.corrupt s.taken)
  | some (least, width) => do
    let (more, s) ← s.number width
    return (least + more, s)

/-- What a block of codes is made of. -/
inductive Token where
  | byte (b : UInt8)
  | copy (distance length : Nat)
  | finish
deriving DecidableEq, Repr

/-- Reads what the next codes stand for. -/
def Token.read (codes : Codes) (s : BitSource) : Except Stop (Token × BitSource) := do
  let (symbol, s) ← codes.symbols.read s
  if symbol < 256 then return (.byte (.ofNat symbol), s)
  else if symbol = 256 then return (.finish, s)
  else
    let (length, s) ← amount copyLengths (symbol - 257) s
    let (symbol, s) ← codes.distances.read s
    let (distance, s) ← amount copyDistances symbol s
    return (.copy distance length, s)

/-- Appends a copy of what stands some distance before the end. Before the start all is zero. -/
def copy (distance : Nat) : Nat → Array UInt8 → Array UInt8
  | 0, data => data
  | count + 1, data =>
    let b := if data.size < distance then 0 else data[data.size - distance]?.getD 0
    copy distance count (data.push b)

/-- Deflated data are taken in portions of this many bytes. -/
def portionSize : Nat := 8192

/-- The number of the portion that a byte belongs to, where so many bytes are taken with it. -/
def portionOf (taken : Nat) : Nat := (taken - 1) / portionSize

/-- The data so far. -/
structure Output where
  data : Array UInt8 := #[]
  /-- How much of the data was there when the last portion was taken. -/
  handed : Nat := 0
  /-- How many bytes were taken for the data. -/
  taken : Nat := 0
deriving DecidableEq, Repr

namespace Output

/-- What is to come needs so many bytes to be taken. -/
def reach (out : Output) (taken : Nat) : Output :=
  if portionOf out.taken < portionOf taken then { out with handed := out.data.size, taken }
  else { out with taken }

/-- Appends what a code stands for. -/
def write (out : Output) (f : Array UInt8 → Array UInt8) (taken : Nat) : Output :=
  let ⟨data, handed, _⟩ := out.reach taken
  ⟨f data, handed, taken⟩

/-- Appends bytes as they were taken. -/
def append (out : Output) (bytes : List UInt8) : Output :=
  let starts := (List.range bytes.length).filter fun i => (out.taken + i) % portionSize == 0
  { data := out.data ++ bytes.toArray
    handed := (starts.getLast?.map (out.data.size + ·)).getD out.handed
    taken := out.taken + bytes.length }

end Output

/-- All data so far, and where to go on or why not. -/
abbrev Progress := Output × Except Stop BitSource

/-- Reads codes up to the one that ends the block. Each takes a bit at least, so that there are
no more of them than bits. -/
def inflateCodes (codes : Codes) : Nat → BitSource → Output → Progress
  | 0, _, out => (out, .error .cut)
  | fuel + 1, s, out =>
    match Token.read codes s with
    | .error stop => (out, .error stop)
    | .ok (.byte b, s) => inflateCodes codes fuel s (out.write (·.push b) s.taken)
    | .ok (.copy distance length, s) =>
      inflateCodes codes fuel s (out.write (copy distance length) s.taken)
    | .ok (.finish, s) => (out, .ok s)

/-- The order in which the lengths of the codes for lengths are given. -/
def lengthOrder : List Nat :=
  [16, 17, 18, 0, 8, 7, 9, 6, 10, 5, 11, 4, 12, 3, 13, 2, 14, 1, 15]

/-- Reads some numbers of three bits. -/
def smallNumbers : Nat → BitSource → Except Stop (List Nat × BitSource)
  | 0, s => .ok ([], s)
  | count + 1, s => do
    let (n, s) ← s.number 3
    let (rest, s) ← smallNumbers count s
    return (n :: rest, s)

/-- Reads code lengths, of which runs are given by their number, until there are `count`. -/
def codeLengths (code : PrefixCode) (count : Nat)
    : Nat → BitSource → Array Nat → Except Stop (Array Nat × BitSource)
  | 0, _, _ => .error .cut
  | fuel + 1, s, lengths =>
    if count < lengths.size then .error (.corrupt s.taken)
    else if count = lengths.size then .ok (lengths, s)
    else do
      let (symbol, s) ← code.read s
      if symbol < 16 then codeLengths code count fuel s (lengths.push symbol)
      else if symbol = 16 then
        match lengths.back? with
        | none => .error (.corrupt s.taken)
        | some last =>
          let (more, s) ← s.number 2
          codeLengths code count fuel s (lengths ++ Array.replicate (3 + more) last)
      else if symbol = 17 then
        let (more, s) ← s.number 3
        codeLengths code count fuel s (lengths ++ Array.replicate (3 + more) 0)
      else
        let (more, s) ← s.number 7
        codeLengths code count fuel s (lengths ++ Array.replicate (11 + more) 0)

/-- There are at most this many symbols for bytes and lengths. -/
def maxSymbols : Nat := 286

/-- There are at most this many symbols for distances. -/
def maxDistances : Nat := 30

/-- Goes on with a code that there should be. -/
def required (code : Option PrefixCode) (s : BitSource) : Except Stop PrefixCode :=
  match code with
  | some code => .ok code
  | none => .error (.corrupt s.taken)

/-- Reads the codes that a block brings with it. -/
def Codes.read (s : BitSource) : Except Stop (Codes × BitSource) := do
  let (symbols, s) ← s.number 5
  let (distances, s) ← s.number 5
  let (given, s) ← s.number 4
  let symbols := symbols + 257
  let distances := distances + 1
  if maxSymbols < symbols ∨ maxDistances < distances then throw (.corrupt s.taken)
  let (numbers, s) ← smallNumbers (given + 4) s
  let given := (List.range 19).map fun i => ((lengthOrder.zip numbers).lookup i).getD 0
  let code ← required (PrefixCode.ofLengthsComplete? given) s
  let (all, s) ← codeLengths code (symbols + distances) (s.size + 1) s #[]
  let lengths := all.toList
  let distances ← required (PrefixCode.ofLengths? (lengths.drop symbols)) s
  let symbols ← required (PrefixCode.ofLengths? (lengths.take symbols)) s
  return ({ symbols, distances }, s)

/-- Reads a block of bytes as they are. -/
def inflateStored (s : BitSource) (out : Output) : Progress :=
  match s.bytes with
  | a :: b :: c :: d :: rest =>
    let length := a.toNat + 256 * b.toNat
    let taken := s.taken + 4
    if length + (c.toNat + 256 * d.toNat) ≠ 65535 then (out, .error (.corrupt taken))
    else
      ((out.reach taken).append (rest.take length),
        if rest.length < length then .error .cut
        else .ok ⟨[], rest.drop length, taken + length⟩)
  | _ => (out, .error .cut)

/-- Reads a block of some kind. -/
def inflateBlock (kind : Nat) (s : BitSource) (out : Output) : Progress :=
  if kind = 0 then inflateStored s out
  else if kind = 1 then inflateCodes .fixed (s.size + 1) s out
  else if kind = 2 then
    match Codes.read s with
    | .ok (codes, s) => inflateCodes codes (s.size + 1) s out
    | .error stop => (out, .error stop)
  else (out, .error (.corrupt s.taken))

/-- The head of a block: if it is the last one, and its kind. -/
def blockHead (s : BitSource) : Except Stop (Bool × Nat × BitSource) := do
  let (isLast, s) ← s.next
  let (kind, s) ← s.number 2
  return (isLast, kind, s)

/-- Reads blocks up to the last one, and tells why there are no more if that is not read. -/
def inflateBlocks : Nat → BitSource → Output → Output × Option Stop
  | 0, _, out => (out, some .cut)
  | fuel + 1, s, out =>
    match blockHead s with
    | .error stop => (out, some stop)
    | .ok (isLast, kind, s) =>
      match inflateBlock kind s out with
      | (out, .error stop) => (out, some stop)
      | (out, .ok s) => if isLast then (out, none) else inflateBlocks fuel s out

/-- Data are handed out when a window of this many bytes is full. -/
def windowSize : Nat := 32768

/-- How much of the data is handed out before more come. -/
def Output.handedOut (out : Output) : Nat :=
  max out.handed ((out.data.size - 1) / windowSize * windowSize)

/-- Data that were unpacked; if they are torn, what should come behind them cannot be had. -/
structure Unpacked where
  data : List UInt8
  isTorn : Bool
deriving DecidableEq, Repr

/-- The data that were deflated. Data that are cut end where they are cut. -/
def inflate (deflated : List UInt8) : Unpacked :=
  let s := BitSource.ofBytes deflated
  match inflateBlocks (s.size + 1) s {} with
  | (out, some (.corrupt taken)) =>
    let out := out.reach taken
    ⟨out.data.toList.take out.handedOut, true⟩
  | (out, _) => ⟨out.data.toList, false⟩

end Spreadsheet.Archive
