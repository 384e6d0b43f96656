import Spreadsheet.Build.Workbook
import Spreadsheet.Package.File
import Spreadsheet.Service.Failure

/-! From a request to the bytes of a file.
-/

namespace Spreadsheet.Service

open Spreadsheet.Build

/-- What files can hold: pictures, but no charts. -/
def fileCapabilities : Capabilities := ⟨false, true⟩

/-- When a request is carried out: the time in milliseconds, the same moment as a date and time,
and the day where the program runs. -/
structure Moment where
  time : Nat
  now : Time.DateTime
  today : Time.Date
deriving DecidableEq, Repr

/-- The file of a workbook before it is stored. -/
structure Generated where
  data : List UInt8
  fileName : String
  sheets : Nat
deriving DecidableEq, Repr

/-- The name of the file; a blank one is replaced by one with the time in it. -/
def fileName (time : Nat) (r : Request) : String :=
  if Text.isBlankText r.fileName then "report_" ++ Nat.repr time ++ ".xlsx" else r.fileName

/-- Files are never protected by a password, so that one that is asked for draws a warning. -/
def passwordWarnings (name : String) (r : Request) : List Warning :=
  match r.outputOptions.password with
  | some password => if password.isEmpty then [] else [.passwordIgnored name]
  | none => []

/-- The package of a workbook, with a warning for each sheet whose charts are left out. -/
def pack (now : Time.DateTime) (w : Workbook) : Logged BuildError Package := do
  for name in Package.sheetsWithCharts w do Logged.warn (.chartsNotWritten name)
  onModel (Package.write now w)

/-- Builds the workbook of a request and puts it into a file. -/
def generate (moment : Moment) (r : Request) : Logged Failure Generated := do
  let name := fileName moment.time r
  for w in passwordWarnings name r do Logged.warn w
  let setting : Setting := ⟨fileCapabilities, moment.today, moment.now⟩
  let w ← (Build.workbook setting r).mapError .building
  let package ← (pack moment.now w).mapError .building
  let data := package.encode (r.outputOptions.compress.getD true)
  return ⟨data, name, w.sheets.length⟩

end Spreadsheet.Service
