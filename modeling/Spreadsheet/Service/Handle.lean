import Spreadsheet.Json.Reader
import Spreadsheet.Service.Generate
import Spreadsheet.Storage.Store

/-! Carrying out requests: check, generate, store.
-/

namespace Spreadsheet

open Spreadsheet.Build Spreadsheet.Storage

/-- What a request is carried out with: the configuration, the disk for files on the machine
itself and, if there is one, an object store. -/
structure Service (m : Type → Type) where
  config : Service.Config
  disk : Disk m
  objectStore : Option (Store m) := none

namespace Service

/-- What callers are told of a file that is stored. -/
structure Stored where
  address : String
  fileName : String
  fileSize : Nat
  sheets : Nat
  expiresIn : Option Nat
deriving DecidableEq, Repr

namespace Stored

def successMessage : String := "Excel file generated successfully"

/-- The members of the answer in their order. -/
def members (s : Stored) : Json.Members :=
  [("success", .bool true), ("download_url", .string s.address), ("file_name", .string s.fileName),
    ("file_size", .int s.fileSize), ("sheets_count", .int s.sheets),
    ("message", .string successMessage),
    ("expires_in", (s.expiresIn.map fun seconds => Json.Value.int seconds).getD .null)]

end Stored

/-- The members of a report in their order. -/
def Report.members (r : Report) : Json.Members :=
  [("message", .string r.message), ("code", .string r.code)]

variable {m : Type → Type} [Monad m]

/-- The kind of storage that a request asks for, or else the configured one. -/
def storageKind (config : Config) (r : Request) : StorageKind :=
  match r.outputOptions.storage with
  | some .objectStore => .objectStore
  | some .directory => .directory
  | none => config.storage

/-- The store for a request and how long its addresses work. -/
def chooseStore (s : Service m) (r : Request) : Except Failure (Store m × Option Nat) :=
  match storageKind s.config r with
  | .directory => .ok (directoryStore s.disk s.config.directory, none)
  | .objectStore =>
    match s.objectStore with
    | none => .error .noObjectStore
    | some store => .ok (store, store.expiry.or (some s.config.expiry))

/-- Stores a file and finds out its address. -/
def storeFile (store : Store m) (expiresIn : Option Nat) (file : Generated)
    : m (Except Failure Stored) := do
  match ← store.upload file.data file.fileName with
  | .error e => return .error e
  | .ok locator =>
    match ← store.address locator with
    | .error e => return .error e
    | .ok address =>
      return .ok ⟨address, file.fileName, file.data.length, file.sheets, expiresIn⟩

/-- Generates and stores the file of a request that has been checked. -/
def carryOut (s : Service m) (moment : Moment) (r : Request) : m (Logged Failure Stored) := do
  match s.chooseStore r with
  | .error e => return ⟨[], .error e⟩
  | .ok (store, expiresIn) =>
    let generated := generate moment r
    match generated.result with
    | .error e => return ⟨generated.warnings, .error e⟩
    | .ok file =>
      let stored ← storeFile store expiresIn file
      return ⟨generated.warnings, stored⟩

/-- Carries out a request given as a JSON value. -/
def handle (s : Service m) (moment : Moment) (v : Json.Value) : m (Logged Failure Stored) :=
  match Request.validate v with
  | .error e => pure ⟨[], .error (.rejected e)⟩
  | .ok r => s.carryOut moment r

/-- Carries out a request given as text. -/
def handleText (s : Service m) (moment : Moment) (text : String) : m (Logged Failure Stored) :=
  match Json.Value.ofText? text with
  | none => pure ⟨[], .error (.rejected .notJson)⟩
  | some v => s.handle moment v

end Service

end Spreadsheet
