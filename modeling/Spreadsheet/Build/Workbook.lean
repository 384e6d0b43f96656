import Spreadsheet.Build.Report
import Spreadsheet.Workbook.Basic

/-! Workbooks from requests: all sheets in the layout that the request calls for, in the order
of their declaration, and the properties of its metadata.
-/

namespace Spreadsheet.Build

open Spreadsheet.Request

/-- The layout in which all sheets of a workbook are built. -/
inductive Generator where
  | table
  | report
deriving DecidableEq, Repr

/-- The name of a layout that is built as a table for want of a better way. -/
def plainLayout? : LayoutKind → Option String
  | .form => some (Named.name LayoutKind.form)
  | .dashboard => some (Named.name LayoutKind.dashboard)
  | .calendar => some (Named.name LayoutKind.calendar)
  | .table | .report => none

/-- The sheets whose layout is not built as such. -/
def layoutWarnings (r : Request) : List Warning :=
  r.sheets.filterMap fun s => (plainLayout? s.layout).map fun layout => .layoutIgnored s.name layout

/-- One sheet in report layout makes all sheets of the workbook reports. -/
def chooseGenerator (r : Request) : Generator :=
  if r.sheets.any (·.layout == .report) then .report else .table

/-- The circumstances of a run: what the target can show, the day for reports, the moment of
making for the properties. -/
structure Setting where
  can : Capabilities
  today : Time.Date
  now : Time.DateTime
deriving DecidableEq, Repr

/-- A sheet in the chosen layout. -/
def sheet (setting : Setting) (generator : Generator) (spec : SheetSpec)
    : Logged BuildError Sheet :=
  match generator with
  | .table => tableSheet setting.can spec
  | .report => reportSheet setting.can setting.today spec

/-- Builds a sheet and adds it. Its name is checked before anything else of it. -/
def addSheet (setting : Setting) (generator : Generator) (w : Workbook) (spec : SheetSpec)
    : Logged BuildError Workbook := do
  onModel (w.checkNewName spec.name)
  let s ← sheet setting generator spec
  return { w with sheets := w.sheets ++ [s] }

/-- Builds sheets and adds them one after the other. -/
def addSheets (setting : Setting) (generator : Generator)
    : List SheetSpec → Workbook → Logged BuildError Workbook
  | [], w => pure w
  | spec :: specs, w => do
    let w ← addSheet setting generator w spec
    addSheets setting generator specs w

/-- The properties that metadata declare; workbooks always have an author. -/
def properties (now : Time.DateTime) (metadata : Option MetadataSpec) : Properties :=
  let m := metadata.getD {}
  { title := m.title
    subject := m.subject
    creator := some m.author
    description := m.description
    company := m.company
    category := m.category
    keywords := m.keywords
    created := some now
    modified := some now }

/-- Builds all sheets in one layout. -/
def workbookIn (setting : Setting) (generator : Generator) (r : Request)
    : Logged BuildError Workbook := do
  let w ← addSheets setting generator r.sheets {}
  return { w with properties := properties setting.now r.metadata }

/-- Warns of layouts that are not built as such, then builds the workbook. -/
def workbook (setting : Setting) (r : Request) : Logged BuildError Workbook := do
  for w in layoutWarnings r do Logged.warn w
  workbookIn setting (chooseGenerator r) r

end Spreadsheet.Build
