import Spreadsheet.Build.Logged
import Spreadsheet.Build.StyleOverlay
import Spreadsheet.Encoding.Base64

/-! Charts and pictures from their declarations. Those that the target cannot show are checked
all the same and then left out with a warning.
-/

namespace Spreadsheet.Build

open Spreadsheet.Request Spreadsheet.Sheet

/-- What the target of a workbook can show. -/
structure Capabilities where
  charts : Bool
  pictures : Bool
deriving DecidableEq, Repr

def anchor (spec : AnchorSpec) : Except BuildError Anchor := do
  let topLeft ← onModel (ModelError.parseAddress spec.topLeft)
  let bottomRight ← onModel (ModelError.parseAddress spec.bottomRight)
  return ⟨topLeft, bottomRight⟩

/-- A chart; the legend stands on the right unless it says otherwise. -/
def chart (spec : ChartSpec) : Except BuildError Chart := do
  let anchor ← anchor spec.position
  let options := spec.options.getD {}
  let axes := options.axes.getD {}
  return {
    kind := spec.kind
    title := spec.title
    categories := spec.data.categories
    series := spec.data.series
    legend := (options.legend.bind (·.place)).getD .right
    xAxisTitle := axes.x.bind (·.title)
    yAxisTitle := axes.y.bind (·.title)
    anchor
  }

/-- Adds the declared charts to a sheet, or none of them. -/
def addCharts (can : Capabilities) (specs : List ChartSpec) (sheet : Sheet)
    : Logged BuildError Sheet := do
  let charts ← liftM (specs.mapM chart)
  if can.charts then return charts.foldl Sheet.addChart sheet
  else
    Logged.warn (.chartsSkipped sheet.name charts.length)
    return sheet

/-- The Base64 text of a payload: all of it, or what follows the comma of a data address. -/
def payloadText (payload : String) : List Char :=
  let s := Text.trimChars payload.toList
  if "data:".toList.isPrefixOf s then (s.dropWhile (· != ',')).drop 1 else s

/-- The bytes of a payload. -/
def pictureData (payload : String) : Except BuildError (List UInt8) :=
  match Encoding.Base64.decode? (payloadText payload) with
  | some bytes => .ok bytes
  | none => .error .badPictureData

/-- The format that a declaration names, or else the one that the data show. -/
def pictureFormat? (extension : Option PictureExtension) (data : List UInt8)
    : Option PictureFormat :=
  match extension with
  | some e => PictureFormat.ofExtension? (Named.name e)
  | none => PictureFormat.detect? data

/-- The picture number `index` of a sheet, given its payload. -/
def picture (sheet : String) (index : Nat) (spec : PictureSpec) (payload : String)
    : Except BuildError Picture := do
  let data ← pictureData payload
  match pictureFormat? spec.extension data with
  | none => .error (.unknownPictureFormat sheet index)
  | some format =>
    let anchor ← anchor spec.position
    return { anchor, format, data }

/-- Adds one declared picture to a sheet, if it has data and the target can show it. -/
def addPicture (can : Capabilities) (index : Nat) (spec : PictureSpec) (sheet : Sheet)
    : Logged BuildError Sheet :=
  match spec.base64 with
  | none => do
    Logged.warn <|
      if spec.url.isSome then .pictureByAddress sheet.name index
      else .pictureWithoutData sheet.name index
    return sheet
  | some payload => do
    let picture ← picture sheet.name index spec payload
    if can.pictures then return sheet.addPicture picture
    else
      Logged.warn (.pictureSkipped sheet.name index)
      return sheet

/-- Adds the declared pictures from number `index` on. -/
def addPictures (can : Capabilities) : Nat → List PictureSpec → Sheet → Logged BuildError Sheet
  | _, [], sheet => pure sheet
  | index, spec :: specs, sheet => do
    let sheet ← addPicture can index spec sheet
    addPictures can (index + 1) specs sheet

end Spreadsheet.Build
