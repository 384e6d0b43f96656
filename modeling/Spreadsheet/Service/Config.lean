import Spreadsheet.Number.Reader
import Spreadsheet.Text.Blank
import Spreadsheet.Text.LowerCase

/-! The configuration of the program, read from variables by name.
-/

namespace Spreadsheet.Service

/-- Where files are put. -/
inductive StorageKind where
  | directory
  | objectStore
deriving DecidableEq, Repr

/-- How much is logged, from nothing to everything. -/
inductive LogLevel where
  | off
  | error
  | warn
  | info
  | debug
  | trace
deriving DecidableEq, Repr

/-- The name of a level in the log itself. -/
def LogLevel.name : LogLevel → String
  | .off => "OFF"
  | .error => "ERROR"
  | .warn => "WARN"
  | .info => "INFO"
  | .debug => "DEBUG"
  | .trace => "TRACE"

/-- Warnings are shown. -/
def LogLevel.showsWarnings : LogLevel → Bool
  | .off | .error => false
  | _ => true

inductive ConfigError where
  | unknownStorage (name : String)
  | badExpiry (text : String)
  | unknownLevel (name : String)
deriving DecidableEq, Repr

def ConfigError.message : ConfigError → String
  | .unknownStorage name => "unknown storage type '" ++ name ++ "' (expected local or s3)"
  | .badExpiry text => "PRESIGNED_URL_EXPIRY must be seconds, got '" ++ text ++ "'"
  | .unknownLevel name => "unknown log level '" ++ name ++ "'"

/-- A setting's text as it is compared: in lower case and without white space around it. -/
def settingName (text : String) : String := Text.lowerAscii (Text.trim text)

/-- The kind of storage of a name. -/
def StorageKind.ofText (text : String) : Except ConfigError StorageKind :=
  match settingName text with
  | "local" => .ok .directory
  | "s3" => .ok .objectStore
  | name => .error (.unknownStorage name)

/-- The log level of a name. -/
def LogLevel.ofText (text : String) : Except ConfigError LogLevel :=
  match settingName text with
  | "off" => .ok .off
  | "error" => .ok .error
  | "warn" | "warning" => .ok .warn
  | "info" => .ok .info
  | "debug" => .ok .debug
  | "trace" => .ok .trace
  | name => .error (.unknownLevel name)

structure Config where
  storage : StorageKind := .directory
  directory : String := "./temp-files"
  /-- How many seconds a link to an object store works. -/
  expiry : Nat := 3600
  logLevel : LogLevel := .info
deriving DecidableEq, Repr

namespace Config

/-- The number of seconds in a text. -/
def readExpiry (text : String) : Except ConfigError Nat :=
  match Number.readNat? (Number.wordLimit 64) (Text.trimChars text.toList) with
  | some seconds => .ok seconds
  | none => .error (.badExpiry text)

/-- The setting that a variable gives, or the given one if there is no variable. -/
def orDefault (f : String → Except ConfigError α) (default : α) : Option String
    → Except ConfigError α
  | none => .ok default
  | some text => f text

/-- Reads the configuration. Blank texts for storage and directory say nothing. -/
def ofLookup (lookup : String → Option String) : Except ConfigError Config := do
  let filled (name : String) := (lookup name).filter (!Text.isBlankText ·)
  let base : Config := {}
  let storage ← orDefault StorageKind.ofText base.storage (filled "STORAGE_TYPE")
  let directory := (filled "DEV_STORAGE_PATH").getD base.directory
  let expiry ← orDefault readExpiry base.expiry (lookup "PRESIGNED_URL_EXPIRY")
  let logLevel ← orDefault LogLevel.ofText base.logLevel (lookup "LOG_LEVEL")
  return { storage, directory, expiry, logLevel }

end Config

end Spreadsheet.Service
