import Spreadsheet.Archive.Entry

/-! Archives as they are found in files. The directory is told by a record at the end, before
and behind which other bytes may stand; where a record makes no sense the one before it is tried.
-/

namespace Spreadsheet.Archive

/-- Where a directory starts, how many entries it has, and by how many bytes the archive is
shifted from the places that it names. -/
structure Location where
  start : Nat
  count : Nat
  shift : Nat
deriving DecidableEq, Repr

/-- A file that was found. It has no data if they cannot be opened. -/
structure Found where
  name : String
  unpacked : Option Unpacked
deriving DecidableEq, Repr

/-- A mark stands at a place and ends before a limit. -/
def isMarkedAt (bytes : Array UInt8) (signature place limit : Nat) : Bool :=
  place + 4 ≤ limit && numberAt? bytes place 4 == some signature

/-- The answer for the first place, from some on, that has one. -/
def firstFrom? (answer : Nat → Option α) : Nat → Nat → Option α
  | 0, _ => none
  | count + 1, place =>
    match answer place with
    | some a => some a
    | none => firstFrom? answer count (place + 1)

def endSignature64 : Nat := 0x06064B50

def locatorSignature : Nat := 0x07064B50

/-- The size of the record at the end without its comment. -/
def endSize : Nat := 22

/-- The record at the end of an archive, at its place. -/
structure EndRecord where
  place : Nat
  disk : Nat
  directoryDisk : Nat
  countHere : Nat
  count : Nat
  start : Nat
deriving DecidableEq, Repr

namespace EndRecord

def at? (bytes : Array UInt8) (place : Nat) : Option EndRecord := do
  let signature ← numberAt? bytes place 4
  let disk ← numberAt? bytes (place + 4) 2
  let directoryDisk ← numberAt? bytes (place + 6) 2
  let countHere ← numberAt? bytes (place + 8) 2
  let count ← numberAt? bytes (place + 10) 2
  let start ← numberAt? bytes (place + 16) 4
  let commentSize ← numberAt? bytes (place + 20) 2
  if signature ≠ endSignature || bytes.size < place + endSize + commentSize then none
  else return ⟨place, disk, directoryDisk, countHere, count, start⟩

/-- The directory of a short record: the first entry at or behind the place that is named tells
the shift. -/
def location? (bytes : Array UInt8) (r : EndRecord) : Option Location := do
  let start ←
    if r.count = 0 then some (max r.place r.start)
    else
      firstFrom?
        (fun place => if isMarkedAt bytes entrySignature place r.place then some place else none)
        (r.place - r.start) r.start
  if r.disk ≠ r.directoryDisk then none else return ⟨start, r.countHere, start - r.start⟩

end EndRecord

/-- What leads from the record at the end to one with longer numbers. -/
structure Locator where
  place : Nat
  disk : Nat
  start : Nat
  disks : Nat
deriving DecidableEq, Repr

namespace Locator

def size : Nat := 20

/-- The locator right before a record, which has one only if a number is too long for it. -/
def before? (bytes : Array UInt8) (r : EndRecord) : Option Locator := do
  if (r.count ≠ 0xFFFF && r.start ≠ Entry.tooLong) || r.place < size then none
  else
    let place := r.place - size
    let signature ← numberAt? bytes place 4
    let disk ← numberAt? bytes (place + 4) 4
    let start ← numberAt? bytes (place + 8) 8
    let disks ← numberAt? bytes (place + 16) 4
    if signature ≠ locatorSignature then none else return ⟨place, disk, start, disks⟩

end Locator

/-- The record with long numbers, at its place. -/
structure LongEndRecord where
  place : Nat
  madeBy : Nat
  needed : Nat
  disk : Nat
  directoryDisk : Nat
  countHere : Nat
  count : Nat
  start : Nat
deriving DecidableEq, Repr

namespace LongEndRecord

/-- The size of a directory entry without its texts. -/
def entrySize : Nat := 46

/-- The record at a place: it reaches up to the locator, agrees with it, and leaves room for its
entries. -/
def at? (bytes : Array UInt8) (l : Locator) (place : Nat) : Option LongEndRecord := do
  let size ← numberAt? bytes (place + 4) 8
  let madeBy ← numberAt? bytes (place + 12) 2
  let needed ← numberAt? bytes (place + 14) 2
  let disk ← numberAt? bytes (place + 16) 4
  let directoryDisk ← numberAt? bytes (place + 20) 4
  let countHere ← numberAt? bytes (place + 24) 8
  let count ← numberAt? bytes (place + 32) 8
  let start ← numberAt? bytes (place + 48) 8
  if isMarkedAt bytes endSignature64 place l.place && 44 ≤ size && place + 12 + size == l.place &&
      directoryDisk == l.disk && start + entrySize * count ≤ place then
    return ⟨place, madeBy, needed, disk, directoryDisk, countHere, count, start⟩
  else none

/-- The directory of a locator: the first record at or behind the place that it names tells the
shift. -/
def location? (bytes : Array UInt8) (l : Locator) : Option Location :=
  if 1 < l.disks then none
  else do
    let r ← firstFrom? (at? bytes l) (l.place - l.start) l.start
    if r.count < r.countHere || r.madeBy < r.needed || r.disk ≠ r.directoryDisk then none
    else
      let shift := r.place - l.start
      return ⟨r.start + shift, r.count, shift⟩

end LongEndRecord

/-- So many entries from a place on. A file must start before the directory. -/
def entriesFrom? (bytes : Array UInt8) (l : Location) : Nat → Nat → Option (List Entry)
  | 0, _ => some []
  | count + 1, place => do
    let (entry, next) ← Entry.at? bytes place
    if l.start ≤ l.shift + entry.start then none
    else
      let rest ← entriesFrom? bytes l count next
      return entry :: rest

/-- The files of the archive whose record at the end stands at a place. -/
def foundAt? (bytes : Array UInt8) (place : Nat) : Option (List Found) := do
  let r ← EndRecord.at? bytes place
  let l ← match Locator.before? bytes r with
    | some l => LongEndRecord.location? bytes l
    | none => r.location? bytes
  let entries ← entriesFrom? bytes l l.count l.start
  return entries.map fun e => ⟨e.name, e.unpacked? bytes l.shift⟩

/-- The files of the archive whose record at the end stands last before a place. -/
def foundBefore? (bytes : Array UInt8) : Nat → Option (List Found)
  | 0 => none
  | place + 1 =>
    match foundAt? bytes place with
    | some found => some found
    | none => foundBefore? bytes place

/-- The files of an archive; nothing if the bytes are none. -/
def decode? (data : List UInt8) : Option (List Found) :=
  let bytes := data.toArray
  foundBefore? bytes bytes.size

end Spreadsheet.Archive
