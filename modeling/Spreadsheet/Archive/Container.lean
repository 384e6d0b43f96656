import Spreadsheet.Archive.Inflate

/-! Archives: named files one behind the other and a directory of them at the end. Data are deflated
in blocks of bytes as they are. They come with a cyclic redundancy check, the remainder by a
polynomial of degree 32, lowest bits first.
-/

namespace Spreadsheet.Archive

/-- The polynomial without its highest term, its bits reversed. -/
def polynomial : UInt32 := 0xEDB88320

/-- Divides one bit off. -/
def divideBit (r : UInt32) : UInt32 :=
  if r &&& 1 = 1 then (r >>> 1) ^^^ polynomial else r >>> 1

/-- Takes in one byte. -/
def divideByte (r : UInt32) (b : UInt8) : UInt32 :=
  Nat.repeat divideBit 8 (r ^^^ b.toUInt32)

/-- The checksum of data. -/
def checksum (data : List UInt8) : UInt32 := data.foldl divideByte 0xFFFFFFFF ^^^ 0xFFFFFFFF

/-- A number in so many bytes, lowest first. -/
def littleEndian : Nat → Nat → List UInt8
  | 0, _ => []
  | width + 1, n => .ofNat n :: littleEndian width (n / 256)

/-- A block takes at most this many bytes as they are. -/
def maxStored : Nat := 65535

/-- One block of bytes as they are. -/
def storedBlock (isLast : Bool) (data : List UInt8) : List UInt8 :=
  (if isLast then 1 else 0) ::
    (littleEndian 2 data.length ++ littleEndian 2 (maxStored - data.length) ++ data)

/-- Deflated data in blocks of bytes as they are. -/
def deflate (data : List UInt8) : List UInt8 :=
  if data.length ≤ maxStored then storedBlock true data
  else storedBlock false (data.take maxStored) ++ deflate (data.drop maxStored)
termination_by data.length
decreasing_by
  simp only [List.length_drop]
  have : 0 < maxStored := by decide
  omega

/-- How the data of a file are kept. -/
inductive Method where
  | stored
  | deflated
deriving DecidableEq, Repr

namespace Method

def number : Method → Nat
  | .stored => 0
  | .deflated => 8

def ofNumber? (n : Nat) : Option Method :=
  if n = 0 then some .stored else if n = 8 then some .deflated else none

def pack : Method → List UInt8 → List UInt8
  | .stored, data => data
  | .deflated, data => deflate data

def unpack : Method → List UInt8 → Unpacked
  | .stored, data => ⟨data, false⟩
  | .deflated, data => inflate data

end Method

structure File where
  name : String
  data : List UInt8
deriving DecidableEq, Repr

/-- The first day that archives can name. -/
def firstDay : Nat := 33

/-- What stands both before a file and in the directory. -/
def commonFields (method : Method) (file : File) : List UInt8 :=
  littleEndian 2 20 ++ littleEndian 2 0 ++ littleEndian 2 method.number ++
    littleEndian 2 0 ++ littleEndian 2 firstDay ++
    littleEndian 4 (checksum file.data).toNat ++
    littleEndian 4 (method.pack file.data).length ++ littleEndian 4 file.data.length ++
    littleEndian 2 file.name.utf8ByteSize ++ littleEndian 2 0

def localSignature : Nat := 0x04034B50

def entrySignature : Nat := 0x02014B50

def endSignature : Nat := 0x06054B50

/-- A file with its header. -/
def localRecord (method : Method) (file : File) : List UInt8 :=
  littleEndian 4 localSignature ++ commonFields method file ++ file.name.toUTF8.toList ++
    method.pack file.data

/-- The entry of the directory for a file that starts at some place. -/
def directoryEntry (method : Method) (start : Nat) (file : File) : List UInt8 :=
  littleEndian 4 entrySignature ++ littleEndian 2 20 ++ commonFields method file ++
    littleEndian 2 0 ++ littleEndian 2 0 ++ littleEndian 2 0 ++ littleEndian 4 0 ++
    littleEndian 4 start ++ file.name.toUTF8.toList

/-- The directory of files the first of which starts at some place. -/
def directory (method : Method) : Nat → List File → List UInt8
  | _, [] => []
  | start, file :: files =>
    directoryEntry method start file ++
      directory method (start + (localRecord method file).length) files

/-- The bytes of an archive. -/
def encode (method : Method) (files : List File) : List UInt8 :=
  let records := files.flatMap (localRecord method)
  let entries := directory method 0 files
  records ++ entries ++ littleEndian 4 endSignature ++ littleEndian 2 0 ++ littleEndian 2 0 ++
    littleEndian 2 files.length ++ littleEndian 2 files.length ++
    littleEndian 4 entries.length ++ littleEndian 4 records.length ++ littleEndian 2 0

end Spreadsheet.Archive
