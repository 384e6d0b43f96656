import Spreadsheet.Build.Error
import Spreadsheet.Package.ReadError
import Spreadsheet.Request.Validate
import Spreadsheet.Service.Config

/-! Why a request is not carried out, and what callers are told of it.
-/

namespace Spreadsheet.Service

/-- What callers are told: a message for readers and a code for programs. -/
structure Report where
  message : String
  code : String
deriving DecidableEq, Repr

/-- What went wrong: the request is none, its workbook cannot be built or put into a file,
storage is not there, the configuration is wrong, or the machine failed. -/
inductive Failure where
  | rejected (cause : Request.Rejection)
  | building (cause : Build.BuildError)
  | packing (cause : Package.ReadError)
  | storage (message : String)
  | configuration (message : String)
  | system (message : String)
deriving DecidableEq, Repr

namespace Failure

def message : Failure → String
  | .rejected cause => cause.message
  | .building cause => cause.message
  | .packing cause => "Failed to serialize workbook: " ++ cause.message
  | .storage message => message
  | .configuration message => "Invalid configuration: " ++ message
  | .system message => message

/-- The code of failures that are none of the program's own. -/
def unknownCode : String := "UNKNOWN_ERROR"

def code : Failure → String
  | .rejected _ => "VALIDATION_ERROR"
  | .building _ | .packing _ => "GENERATION_ERROR"
  | .storage _ => "STORAGE_UNAVAILABLE"
  | .configuration _ => "CONFIG_ERROR"
  | .system _ => unknownCode

def report (f : Failure) : Report := ⟨f.message, f.code⟩

/-- The failure of a wrong configuration. -/
def ofConfig (e : ConfigError) : Failure := .configuration e.message

/-- No object store is known. -/
def noObjectStore : Failure :=
  .storage "Object storage selected but no backend is configured"

end Failure

/-- What callers are told of a failure that is none of the program's own. -/
def Report.foreign (message : String) : Report :=
  ⟨if message.isEmpty then "An unknown error occurred" else message, Failure.unknownCode⟩

end Spreadsheet.Service
