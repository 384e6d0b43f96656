import Spreadsheet.Package.Part
import Spreadsheet.Sheet.Error
import Spreadsheet.Xml.Event

/-! Why no workbook can be read from a file or package, and how the events of a part are gone
through. What is done with the events before a fault comes first.
-/

namespace Spreadsheet.Package

inductive ReadError where
  | noFile
  | notArchive
  | malformed
  | noContentTypes
  | missingPart (name : String)
  | missingSheet (id : String)
  | cellWithoutReference
  | badStringNumber (text : String)
  | missingString (number : Nat)
  | badNumber (text : String)
  | unreadable (detail : String)
  | model (cause : ModelError)
deriving DecidableEq, Repr

namespace ReadError

def message : ReadError → String
  | .noFile => "IO error"
  | .notArchive => "ZIP error"
  | .malformed => "XML error"
  | .noContentTypes => "Invalid XLSX format: Missing [Content_Types].xml"
  | .missingPart name => missing name
  | .missingSheet id => missing ("worksheet for " ++ id)
  | .cellWithoutReference => parsing "cell without a reference"
  | .badStringNumber text => parsing ("bad shared string index '" ++ text ++ "'")
  | .missingString number => parsing ("shared string " ++ Nat.repr number ++ " missing")
  | .badNumber text => parsing ("bad number '" ++ text ++ "'")
  | .unreadable detail => parsing detail
  | .model cause => "Core error: " ++ cause.message
where
  missing (name : String) : String := "Missing required part: " ++ name
  parsing (detail : String) : String := "Parse error: " ++ detail

end ReadError

/-- A step of reading on the model of a workbook. -/
def onModel (step : Except ModelError α) : Except ReadError α := step.mapError .model

/-- A text that has to be known. -/
def known : Option String → Except ReadError String
  | some text => .ok text
  | none => .error .malformed

/-- Goes through the events of a part. -/
def foldEvents (step : σ → Xml.Event → Except ReadError σ) (start : σ) (content : Content)
    : Except ReadError σ := do
  let scan := Xml.events content.source
  let state ← scan.events.foldlM step start
  if scan.faulty then .error .malformed else .ok state

/-- Goes through the events of a part that may be missing. -/
def foldPart? (p : Package) (name : String) (step : σ → Xml.Event → Except ReadError σ)
    (start : σ) : Except ReadError σ :=
  match p.part? name with
  | none => .ok start
  | some part => foldEvents step start part.content

/-- Goes through the events of a part that must be there. -/
def foldPart (p : Package) (name : String) (step : σ → Xml.Event → Except ReadError σ)
    (start : σ) : Except ReadError σ :=
  match p.part? name with
  | none => .error (.missingPart name)
  | some part => foldEvents step start part.content

end Spreadsheet.Package
