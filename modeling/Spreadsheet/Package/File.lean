import Spreadsheet.Archive.Directory
import Spreadsheet.Package.Reader
import Spreadsheet.Package.Writer

/-! Packages as files.
-/

namespace Spreadsheet

namespace Package

/-- The method of keeping parts; they are deflated unless that is not wanted. -/
def method (compress : Bool) : Archive.Method := if compress then .deflated else .stored

/-- The bytes of a package. -/
def encode (compress : Bool) (p : Package) : List UInt8 :=
  Archive.encode (method compress) (p.map fun part => ⟨part.name, part.bytes⟩)

/-- The content of a file that was unpacked. -/
def contentOf (unpacked : Archive.Unpacked) : Content :=
  if unpacked.isTorn then .torn unpacked.data
  else
    match Text.ofUtf8? unpacked.data with
    | some text => .text text
    | none => .binary unpacked.data

/-- The parts of files. Of several files of a name the last one counts, and one that cannot be
opened is as good as not there. -/
def partsOf : List Archive.Found → Package
  | [] => []
  | found :: rest =>
    if rest.any (·.name == found.name) then partsOf rest
    else
      match found.unpacked with
      | some unpacked => ⟨found.name, contentOf unpacked⟩ :: partsOf rest
      | none => partsOf rest

/-- The package in some bytes. -/
def decode (data : List UInt8) : Except ReadError Package :=
  match Archive.decode? data with
  | some files => .ok (partsOf files)
  | none => .error .notArchive

end Package

namespace Workbook

/-- The bytes of the file of a workbook. -/
def toBytes (compress : Bool) (now : Time.DateTime) (w : Workbook)
    : Except ModelError (List UInt8) :=
  (Package.write now w).map (·.encode compress)

/-- The workbook in the bytes of a file. -/
def ofBytes (data : List UInt8) : Except Package.ReadError Workbook := do
  let p ← Package.decode data
  p.toWorkbook

end Workbook

end Spreadsheet
