import Spreadsheet.Service.Failure
import Spreadsheet.Storage.Path

/-! Stores of files. A store gives out a locator for each file it takes and tells later where the
file can be fetched. The one store of the program's own is a directory. It asks the machine for a
clock and a few operations on files, whose steps run in any monad, so that the same store works on a
real disk and on a tree of files in memory.
-/

namespace Spreadsheet.Storage

open Spreadsheet.Service

/-- The answer of the machine: a result or its own words for why there is none. -/
abbrev Answer := Except String

/-- The operations of a machine. -/
structure Disk (m : Type → Type) where
  /-- The time in milliseconds. -/
  clock : m Nat
  /-- Makes a directory and those around it, where they are missing. -/
  makeDirectories : String → m (Answer Unit)
  /-- Writes a whole file, in place of one that is there. -/
  write : String → List UInt8 → m (Answer Unit)
  /-- The path from the root of something that is there. -/
  realPath : String → m (Answer String)
  /-- Removes a file. -/
  remove : String → m (Answer Unit)

structure Store (m : Type → Type) where
  /-- Takes data under a suggested name and gives a locator. -/
  upload : List UInt8 → String → m (Except Failure String)
  /-- The address under which the file of a locator can be fetched. -/
  address : String → m (Except Failure String)
  delete : String → m (Except Failure Unit)
  /-- How many seconds addresses work, if not for ever. -/
  expiry : Option Nat := none

/-- The failure of an operation on the machine. -/
def onDisk (answer : Answer α) : Except Failure α := answer.mapError .system

/-- The file for a name in a directory at some time: the last name of the suggested path behind
the time, so that it always lies in the directory itself. -/
def storedPath (directory suggested : String) (time : Nat) : Except Failure String :=
  match lastName? suggested with
  | none => .error (.building (.badFileName suggested))
  | some name => .ok (inside directory (Nat.repr time ++ "_" ++ name))

namespace Directory

variable {m : Type → Type} [Monad m]

/-- Writes data to a new file. The directory is made before the name is looked at. -/
def upload (disk : Disk m) (directory : String) (data : List UInt8) (suggested : String)
    : m (Except Failure String) := do
  match ← disk.makeDirectories directory with
  | .error e => return .error (.system e)
  | .ok () =>
    let time ← disk.clock
    match storedPath directory suggested time with
    | .error e => return .error e
    | .ok path =>
      let written ← disk.write path data
      return (onDisk written).map fun () => path

/-- The address of a file on the machine itself. -/
def address (disk : Disk m) (locator : String) : m (Except Failure String) := do
  let path ← disk.realPath locator
  return (onDisk path).map ("file://" ++ ·)

def delete (disk : Disk m) (locator : String) : m (Except Failure Unit) := do
  let removed ← disk.remove locator
  return onDisk removed

end Directory

/-- The store in a directory. -/
def directoryStore [Monad m] (disk : Disk m) (directory : String) : Store m where
  upload := Directory.upload disk directory
  address := Directory.address disk
  delete := Directory.delete disk

end Spreadsheet.Storage
