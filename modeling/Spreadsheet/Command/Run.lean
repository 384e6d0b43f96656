import Spreadsheet.Command.Arguments
import Spreadsheet.Json.Writer
import Spreadsheet.Service.Handle

/-! The program behind the command line: what it prints and how it ends.
-/

namespace Spreadsheet.Command

open Spreadsheet.Build Spreadsheet.Service Spreadsheet.Storage

/-- What the program finds where it runs. -/
structure Surroundings (m : Type → Type) where
  /-- The variables that are set. -/
  variableText? : String → Option String
  /-- The text that is fed in. -/
  inputText : m (Answer String)
  /-- The text of a file. -/
  fileText : String → m (Answer String)
  disk : Disk m
  moment : m Moment

/-- What the program printed, what it told of its failure and of warnings, and its exit code. -/
structure Outcome where
  output : Option Json.Value := none
  error : Option String := none
  log : List Warning := []
  code : Nat
deriving Repr

namespace Outcome

def success (output : Json.Value) : Outcome := { output := some output, code := 0 }

def failure (output : Json.Value) : Outcome := { output := some output, code := 1 }

/-- The program could not do its task at all. -/
def broken (message : String) : Outcome := { error := some ("Error: " ++ message), code := 1 }

/-- The arguments were none of the program's. -/
def misused : Outcome := { code := 2 }

end Outcome

/-- A warning as a line of the log. -/
def logLine (w : Warning) : String := "[WARN  " ++ w.source ++ "] " ++ w.message

variable {m : Type → Type} [Monad m]

/-- The path stands for the text that is fed in. -/
def isStandardInput (path : String) : Bool :=
  path.toList.head? == some '-' && steps path == ["-"]

/-- The text of a request. -/
def readRequest (s : Surroundings m) (input : String) : m (Except Outcome String) := do
  if isStandardInput input then
    let text ← s.inputText
    return text.mapError fun e => .broken ("Failed to read request from stdin: " ++ e)
  else
    let text ← s.fileText input
    return text.mapError fun e => .broken ("Failed to read '" ++ input ++ "': " ++ e)

/-- Generates the file of a request. -/
def generate (s : Surroundings m) (config : Config) (input : String) : m Outcome := do
  match ← readRequest s input with
  | .error outcome => return outcome
  | .ok text =>
    let moment ← s.moment
    let service : Service m := { config, disk := s.disk }
    let answer ← service.handleText moment text
    let log := if config.logLevel.showsWarnings then answer.warnings else []
    match answer.result with
    | .ok stored => return { Outcome.success (.object stored.members) with log }
    | .error e => return { Outcome.failure (.object e.report.members) with log }

/-- What is said of a request that has been checked. -/
def verdict (lines : List String) : Outcome :=
  let members : Json.Members :=
    [("errors", .array (lines.map Json.Value.string)), ("valid", .bool lines.isEmpty)]
  if lines.isEmpty then .success (.object members) else .failure (.object members)

/-- The lines for the faults of a request or of a draft. -/
def faultLines (draft : Bool) (v : Json.Value) : List String :=
  if draft then Request.draftMessages v
  else
    match Request.validate v with
    | .ok _ => []
    | .error e => e.lines

/-- Checks a request. -/
def validate (s : Surroundings m) (input : String) (draft : Bool) : m Outcome := do
  match ← readRequest s input with
  | .error outcome => return outcome
  | .ok text =>
    match Json.Value.ofText? text with
    | none => return .broken ("'" ++ input ++ "' is not valid JSON")
    | some v => return verdict (faultLines draft v)

/-- The configuration of the variables. -/
def configOf (s : Surroundings m) : Except Outcome Config :=
  (Config.ofLookup s.variableText?).mapError fun e =>
    .broken ("Failed to read configuration from the environment: " ++ (Failure.ofConfig e).message)

/-- A setting from the arguments, if it is there. -/
def override (config : Config) (text : Option String) (read : String → Except ConfigError α)
    (set : Config → α → Config) : Except Outcome Config :=
  match text with
  | none => .ok config
  | some text =>
    match read text with
    | .ok a => .ok (set config a)
    | .error e => .error (.broken (Failure.ofConfig e).message)

/-- The configuration of the variables with the log level of the arguments. -/
def callConfig (s : Surroundings m) (call : Call) : Except Outcome Config := do
  let config ← configOf s
  override config call.logLevel LogLevel.ofText fun c logLevel => { c with logLevel }

/-- The configuration of a task that generates a file. -/
def taskConfig (config : Config) (directory storage : Option String) : Except Outcome Config :=
  override { config with directory := directory.getD config.directory } storage StorageKind.ofText
    fun c storage => { c with storage }

/-- Does the task of a call. -/
def perform (s : Surroundings m) (call : Call) : m Outcome :=
  match callConfig s call with
  | .error outcome => pure outcome
  | .ok config =>
    match call.task with
    | .generate input directory storage =>
      match taskConfig config directory storage with
      | .error outcome => pure outcome
      | .ok config => generate s config input
    | .validate input draft => validate s input draft

/-- Runs the program. -/
def run (s : Surroundings m) (arguments : List String) : m Outcome :=
  match Call.ofArguments arguments with
  | .error .misuse => pure .misused
  | .error .help | .error .version => pure { code := 0 }
  | .ok call => perform s call

end Spreadsheet.Command
