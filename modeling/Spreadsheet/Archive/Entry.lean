import Spreadsheet.Archive.Container
import Spreadsheet.Text.Utf8

/-! Entries of an archive's directory, read from numbers and bytes at places in a file. What does
not fit into an entry stands in extra fields behind its name; fields that are cut off are passed
over, others must make sense.
-/

namespace Spreadsheet.Archive

/-- The number in some bytes, lowest first. -/
def numberAt? (bytes : Array UInt8) (start : Nat) : Nat → Option Nat
  | 0 => some 0
  | width + 1 => do
    let b ← bytes[start]?
    let rest ← numberAt? bytes (start + 1) width
    return b.toNat + 256 * rest

/-- Some bytes from a place on. -/
def slice? (bytes : Array UInt8) (start count : Nat) : Option (List UInt8) :=
  if bytes.size < start + count then none else some (bytes.extract start (start + count)).toList

/-- Some bytes from a place on, or fewer at the end of the file. -/
def sliceUpTo (bytes : Array UInt8) (start count : Nat) : List UInt8 :=
  (bytes.extract start (start + count)).toList

/-- The number in the first bytes, lowest first, and what stands behind them. -/
def takeNumber? : Nat → List UInt8 → Option (Nat × List UInt8)
  | 0, s => some (0, s)
  | _ + 1, [] => none
  | width + 1, b :: rest => do
    let (high, rest) ← takeNumber? width rest
    return (b.toNat + 256 * high, rest)

/-- So many bytes, and what stands behind them. -/
def takeBytes? (count : Nat) (s : List UInt8) : Option (List UInt8 × List UInt8) :=
  if s.length < count then none else some (s.take count, s.drop count)

/-- What the directory says of a file. -/
structure Entry where
  name : String
  /-- The name as it is spelled in the directory. -/
  spelling : List UInt8
  comment : List UInt8
  isEncrypted : Bool
  method : Nat
  /-- The method of encryption is given by a field of its own. -/
  isSealed : Bool
  sum : Nat
  packedSize : Nat
  size : Nat
  start : Nat
deriving DecidableEq, Repr

/-- Why the extra fields of an entry are not read to their end. -/
inductive FieldStop where
  /-- They are cut off; what was read of them counts. -/
  | cut (entry : Entry)
  | refused
deriving DecidableEq, Repr

namespace Entry

/-- An entry that was changed by a field, and the fields behind it. -/
abbrev Reading := Except FieldStop (Entry × List UInt8)

/-- Goes on with a number in some bytes. -/
def withNumber (e : Entry) (width : Nat) (s : List UInt8)
    (go : Nat → List UInt8 → Except FieldStop α) : Except FieldStop α :=
  match takeNumber? width s with
  | some (n, s) => go n s
  | none => .error (.cut e)

/-- Goes on with some bytes. -/
def withBytes (e : Entry) (count : Nat) (s : List UInt8)
    (go : List UInt8 → List UInt8 → Except FieldStop α) : Except FieldStop α :=
  match takeBytes? count s with
  | some (taken, s) => go taken s
  | none => .error (.cut e)

def require (condition : Bool) : Except FieldStop Unit :=
  if condition then .ok () else .error .refused

/-- The number that stands for one too long for its place. -/
def tooLong : Nat := 0xFFFFFFFF

/-- A long number that may be given. The length of the field counts down. -/
def longNumber (isGiven : Bool) (put : Entry → Nat → Entry) (e : Entry) (length : Int)
    (s : List UInt8) : Except FieldStop (Entry × Int × List UInt8) :=
  if isGiven then e.withNumber 8 s fun n s => .ok (put e n, length - 8, s)
  else .ok (e, length, s)

/-- Sizes and the start of the file where they are long: all of them in a field that has room for
all, else those that need it. -/
def longNumbers (e : Entry) (length : Nat) (s : List UInt8) : Reading := do
  let hasAll := decide (24 ≤ length)
  let (e, left, s) ←
    longNumber (hasAll || e.size == tooLong) (fun e n => { e with size := n }) e length s
  let (e, left, s) ←
    longNumber (hasAll || e.packedSize == tooLong) (fun e n => { e with packedSize := n }) e left s
  let (e, left, s) ←
    longNumber (hasAll || e.start == tooLong) (fun e n => { e with start := n }) e left s
  require (0 ≤ left)
  e.withBytes left.toNat s fun _ s => .ok (e, s)

/-- Three times of a file system. -/
def fileTimes (e : Entry) (length : Nat) (s : List UInt8) : Reading := do
  require (length == 32)
  e.withNumber 4 s fun _ s =>
    e.withNumber 2 s fun kind s => do
      require (kind == 1)
      e.withNumber 2 s fun size s => do
        require (size == 24)
        e.withBytes 24 s fun _ s => .ok (e, s)

/-- How a file is encrypted. -/
def encryption (e : Entry) (length : Nat) (s : List UInt8) : Reading := do
  require (length == 7)
  e.withNumber 2 s fun version s =>
    e.withNumber 2 s fun vendor s =>
      e.withNumber 1 s fun strength s =>
        e.withNumber 2 s fun method s => do
          require (vendor == 0x4541)
          require (version == 1 || version == 2)
          require (1 ≤ strength && strength ≤ 3)
          return ({ e with method, isSealed := true }, s)

/-- The flags tell which of three times are given; a field of one time needs none. -/
def timestamps (e : Entry) (length : Nat) (s : List UInt8) : Reading :=
  e.withNumber 1 s fun flags s => do
    let set := (List.range 8).filter flags.testBit
    require (length == 5 || length == 1 + 4 * set.length)
    let isGiven (i : Nat) : Bool := (flags.testBit i && 5 < length) || (i == 0 && length == 5)
    e.withBytes (4 * ((List.range 3).filter isGiven).length) s fun _ s => .ok (e, s)

/-- A text that replaces another one, which it names by its checksum. -/
def unicode (old : List UInt8) (put : List UInt8 → String → Entry) (e : Entry) (length : Nat)
    (s : List UInt8) : Reading :=
  e.withBytes 1 s fun _ s =>
    e.withNumber 4 s fun sum s => do
      require (5 ≤ length)
      e.withBytes (length - 5) s fun content s => do
        require ((checksum old).toNat == sum)
        match Text.ofUtf8? content with
        | some text => return (put content text, s)
        | none => throw .refused

/-- Reads one extra field. -/
def field (e : Entry) (s : List UInt8) : Reading :=
  e.withNumber 2 s fun kind s =>
    e.withNumber 2 s fun length s =>
      match kind with
      | 0x0001 => e.longNumbers length s
      | 0x000A => e.fileTimes length s
      | 0x9901 => e.encryption length s
      | 0x5455 => e.timestamps length s
      | 0x6375 => e.unicode e.comment (fun content _ => { e with comment := content }) length s
      | 0x7075 =>
        e.unicode e.spelling (fun content text => { e with spelling := content, name := text })
          length s
      | _ => e.withBytes length s fun _ s => .ok (e, s)

/-- Reads extra fields, of which there are fewer than bytes. -/
def fields : Nat → Entry → List UInt8 → Option Entry
  | 0, e, _ => some e
  | fuel + 1, e, s =>
    if s.isEmpty then some e
    else
      match e.field s with
      | .ok (e, s) => fields fuel e s
      | .error (.cut e) => some e
      | .error .refused => none

/-- The method that stands for encryption. -/
def encryptedMethod : Nat := 99

/-- The entry with its extra fields. Encryption must be told by a field. -/
def complete? (e : Entry) (extra : List UInt8) : Option Entry := do
  let e ← fields extra.length e extra
  if e.method = encryptedMethod && !e.isSealed then none else return e

/-- The entry at a place of a directory, and the place behind it. -/
def at? (bytes : Array UInt8) (place : Nat) : Option (Entry × Nat) := do
  let signature ← numberAt? bytes place 4
  let flags ← numberAt? bytes (place + 8) 2
  let method ← numberAt? bytes (place + 10) 2
  let sum ← numberAt? bytes (place + 16) 4
  let packedSize ← numberAt? bytes (place + 20) 4
  let size ← numberAt? bytes (place + 24) 4
  let nameSize ← numberAt? bytes (place + 28) 2
  let extraSize ← numberAt? bytes (place + 30) 2
  let commentSize ← numberAt? bytes (place + 32) 2
  let start ← numberAt? bytes (place + 42) 4
  let spelling ← slice? bytes (place + 46) nameSize
  let extra ← slice? bytes (place + 46 + nameSize) extraSize
  let comment ← slice? bytes (place + 46 + nameSize + extraSize) commentSize
  let text := if flags.testBit 11 then Text.ofUtf8 else Text.ofCodePage
  if signature ≠ entrySignature then none
  else
    let e : Entry := {
      name := text spelling, spelling, comment := (text comment).toUTF8.toList,
      isEncrypted := flags.testBit 0, method, isSealed := false, sum, packedSize, size, start }
    let e ← e.complete? extra
    return (e, place + 46 + nameSize + extraSize + commentSize)

/-- The packed data of an entry, given where the archive starts. -/
def packed? (bytes : Array UInt8) (shift : Nat) (e : Entry) : Option (List UInt8) := do
  let place := shift + e.start
  let signature ← numberAt? bytes place 4
  let nameSize ← numberAt? bytes (place + 26) 2
  let extraSize ← numberAt? bytes (place + 28) 2
  if signature ≠ localSignature then none
  else return sliceUpTo bytes (place + 30 + nameSize + extraSize) e.packedSize

/-- The data of an entry, unless they cannot be opened at all. Data with the wrong checksum are
torn at their end. -/
def unpacked? (bytes : Array UInt8) (shift : Nat) (e : Entry) : Option Unpacked := do
  let method ← if e.isEncrypted || e.isSealed then none else Method.ofNumber? e.method
  let packed ← e.packed? bytes shift
  let unpacked := method.unpack packed
  return { unpacked with isTorn := unpacked.isTorn || (checksum unpacked.data).toNat != e.sum }

end Entry

end Spreadsheet.Archive
