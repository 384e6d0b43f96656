import Spreadsheet.Command.Run
import Spreadsheet.Time.Date
import Std.Time.Zoned

/-! The program on a real machine.
-/

namespace Spreadsheet.Terminal

open Spreadsheet.Storage Spreadsheet.Command

/-- The answer of an action: its result or the words of the machine. -/
def answer (action : IO α) : IO (Answer α) := do
  match ← action.toBaseIO with
  | .ok a => return .ok a
  | .error e => return .error (toString e)

/-- The time in milliseconds since the start of 1970. -/
def milliseconds : IO Nat := do
  let now ← Std.Time.Timestamp.now
  return now.toMillisecondsSinceUnixEpoch.val.toNat

/-- The moment at which the program runs. -/
def moment : IO Service.Moment := do
  let time ← milliseconds
  let day ← Std.Time.PlainDate.now
  let today : Time.Date := ⟨day.year, day.month.val.toNat, day.day.val.toNat⟩
  let start := Time.DateTime.ofDate ⟨1970, 1, 1⟩
  let now := start.minusSeconds (-(time / 1000 : Nat))
  return ⟨time, { now with nanosecond := time % 1000 * 1000000 }, today⟩

/-- Nothing is at the path. -/
def isMissing : IO.Error → Bool
  | .noFileOrDirectory .. => true
  | _ => false

def isDirectory (path : String) : IO Bool := do
  match ← (IO.FS.realPath path).toBaseIO with
  | .ok path => path.isDir
  | .error _ => return false

/-- The disk of the machine. -/
def disk : Disk IO where
  clock := milliseconds
  makeDirectories path := do
    let made ← makeOutward (fun path => (IO.FS.createDir path).toBaseIO) isMissing
      (fun path => isDirectory path) (outward path)
    return made.mapError toString
  write path data := answer (IO.FS.writeBinFile path ⟨data.toArray⟩)
  realPath path := answer do
    let path ← IO.FS.realPath path
    return path.toString
  remove path := answer (IO.FS.removeFile path)

/-- All text that is fed in. -/
def readInput : IO String := do
  let input ← IO.getStdin
  let mut text := ""
  let mut line ← input.getLine
  while !line.isEmpty do
    text := text ++ line
    line ← input.getLine
  return text

/-- The variables that the program reads. -/
def variableNames : List String :=
  ["STORAGE_TYPE", "DEV_STORAGE_PATH", "PRESIGNED_URL_EXPIRY", "LOG_LEVEL"]

def surroundings : IO (Surroundings IO) := do
  let mut found : List (String × String) := []
  for name in variableNames do
    if let some value ← IO.getEnv name then found := (name, value) :: found
  return {
    variableText? := fun name => found.lookup name
    inputText := answer readInput
    fileText := fun path => answer (IO.FS.readFile path)
    disk
    moment
  }

/-- How the program is called. -/
def usage : String :=
  "Generate XLSX workbooks from declarative JSON requests\n\n" ++
    "Usage: sheetforge [--log-level LEVEL] generate INPUT [-o DIR] [-s STORAGE]\n" ++
    "       sheetforge [--log-level LEVEL] validate INPUT [-p]"

/-- Prints the outcome of a run. -/
def print (outcome : Outcome) : IO Unit := do
  for w in outcome.log do IO.eprintln (logLine w)
  if let some output := outcome.output then IO.println output.pretty
  if let some error := outcome.error then IO.eprintln error

end Spreadsheet.Terminal

open Spreadsheet in
def main (arguments : List String) : IO UInt32 := do
  let surroundings ← Terminal.surroundings
  let outcome ← Command.run surroundings arguments
  Terminal.print outcome
  if outcome.output.isNone && outcome.error.isNone then IO.eprintln Terminal.usage
  return .ofNat outcome.code
