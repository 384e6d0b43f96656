import Spreadsheet.Storage.FileTree
import Spreadsheet.Storage.Store
import Spreadsheet.Text.Utf8

/-! A machine in memory, and the disk and the object store that it offers.
-/

namespace Spreadsheet.Storage

/-- The files of a machine, the time on its clock, and what its object store was given: names
and data. -/
structure Machine where
  files : FileTree := {}
  time : Nat := 0
  uploads : List (String × List UInt8) := []
deriving DecidableEq, Repr

namespace Machine

/-- An operation that changes the files, or leaves them as they are if it is refused. -/
def change (f : FileTree → Except TreeFault FileTree) : StateM Machine (Answer Unit) := do
  let machine ← get
  match f machine.files with
  | .ok files =>
    set { machine with files }
    return .ok ()
  | .error e => return .error e.message

/-- The disk of a machine in memory, seen from a current directory. -/
def disk (current : Place) : Disk (StateM Machine) where
  clock := do
    let machine ← get
    return machine.time
  makeDirectories path := do
    let machine ← get
    let (made, files) := FileTree.makeDirectories current path machine.files
    set { machine with files }
    return made.mapError TreeFault.message
  write path data := change fun t => t.write current path data
  realPath path := do
    let machine ← get
    return (machine.files.realPath current path).mapError TreeFault.message
  remove path := change fun t => t.remove current path

/-- The text in a file. -/
def text (machine : Machine) (current : Place) (path : String) : Answer String :=
  match machine.files.read current path with
  | .error e => .error e.message
  | .ok data =>
    match Text.ofUtf8? data with
    | some text => .ok text
    | none => .error "stream did not contain valid UTF-8"

/-- The object store. Its files stay for ever; a step it refuses is told in the words given. -/
def bucket (refused : String → Option String) (expiry : Option Nat) : Store (StateM Machine) where
  upload data name := do
    match refused "upload" with
    | some reason => return .error (.storage reason)
    | none =>
      modify fun machine => { machine with uploads := machine.uploads ++ [(name, data)] }
      return .ok ("bucket/" ++ name)
  address locator :=
    return match refused "resolve" with
      | some reason => .error (.storage reason)
      | none => .ok ("mem://" ++ locator)
  delete _ := return .ok ()
  expiry

end Machine

end Spreadsheet.Storage
