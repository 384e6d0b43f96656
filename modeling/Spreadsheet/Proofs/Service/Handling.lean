import Spreadsheet.Proofs.Storage.Calls
import Spreadsheet.Service.Handle
import Spreadsheet.Storage.Machine

/-! What carrying out a request does to storage, whatever the machine and the object store answer.
Nothing is asked of them until a request has been checked and its file generated; then there is one
upload, and one question for the address. Nothing is ever taken back, so that a file whose address
is refused stays.
-/

namespace Spreadsheet

open Spreadsheet.Storage Spreadsheet.Storage.Calling

namespace Service

-----------------------------------------------------------------------------------------
-- Files that remain
-----------------------------------------------------------------------------------------

/-- The files after an exchange, by their paths or locators. -/
def leaves (files : List (String × List UInt8)) : Exchange → List (String × List UInt8)
  | ⟨.write path data, .ok ()⟩ => (path, data) :: files
  | ⟨.upload data _, .ok locator⟩ => (locator, data) :: files
  | ⟨.remove path, .ok ()⟩ => files.filter (·.1 != path)
  | ⟨.discard locator, .ok ()⟩ => files.filter (·.1 != locator)
  | _ => files

/-- The files that were stored in some exchanges and not removed again. -/
def remaining (exchanges : List Exchange) : List (String × List UInt8) := exchanges.foldl leaves []

/-- The call may store a file. -/
def stores : Call → Bool
  | .write .. | .upload .. => true
  | _ => false

/-- The number of calls that may store a file. -/
def attempts (exchanges : List Exchange) : Nat := exchanges.countP fun x => stores x.1

/-- The store takes a file by one call, or leaves nothing of it; an address is only looked up. -/
structure OneFile (store : Store Calling) : Prop where
  taken
    : ∀ {data name exchanges locator}, Yields (store.upload data name) exchanges (.ok locator)
        → remaining exchanges = [(locator, data)] ∧ attempts exchanges = 1
  refused
    : ∀ {data name exchanges e}, Yields (store.upload data name) exchanges (.error e)
        → remaining exchanges = []
  looks
    : ∀ {locator exchanges outcome}, Yields (store.address locator) exchanges outcome
        → (∀ files, exchanges.foldl leaves files = files) ∧ attempts exchanges = 0

theorem oneFile_directoryStore (directory : String)
    : OneFile (directoryStore askedDisk directory) where
  taken ended := by
    rcases Directory.yields_upload_iff.mp ended with ⟨_, -, failed⟩ | ⟨_, _, -, -, failed⟩
      | ⟨time, path, written, -, rfl, result⟩
    · cases failed
    · cases failed
    · cases written with
      | error e => cases result
      | ok _ =>
          cases result
          exact ⟨rfl, rfl⟩
  refused ended := by
    rcases Directory.yields_upload_iff.mp ended with ⟨_, rfl, -⟩ | ⟨_, _, -, rfl, -⟩
      | ⟨time, path, written, -, rfl, result⟩
    · rfl
    · rfl
    · cases written with
      | error e => rfl
      | ok _ => cases result
  looks ended := by
    obtain ⟨reply, rfl, -⟩ := Directory.yields_address_iff.mp ended
    exact ⟨fun _ => rfl, rfl⟩

theorem oneFile_askedStore (expiry : Option Nat) : OneFile (askedStore expiry) where
  taken ended := by
    obtain rfl := yields_one_iff.mp ended
    exact ⟨rfl, rfl⟩
  refused ended := by
    obtain rfl := yields_one_iff.mp ended
    rfl
  looks ended := by
    obtain rfl := yields_one_iff.mp ended
    exact ⟨fun _ => rfl, rfl⟩

-----------------------------------------------------------------------------------------
-- Requests call by call
-----------------------------------------------------------------------------------------

/-- The service whose machine and object store are asked call by call. An object store is known by
how long its addresses work.
-/
def asked (config : Config) (objectStore : Option (Option Nat)) : Service Calling where
  config
  disk := askedDisk
  objectStore := objectStore.map askedStore

section Runs

variable {m : Type → Type} [Monad m] [LawfulMonad m] {answer : (call : Call) → m call.Reply}

theorem run_storeFile {store : Store Calling} {store' : Store m}
    (upload : ∀ data name, (store.upload data name).run answer = store'.upload data name)
    (address : ∀ locator, (store.address locator).run answer = store'.address locator)
    (expiresIn : Option Nat) (file : Generated)
    : (storeFile store expiresIn file).run answer = storeFile store' expiresIn file := by
  simp only [storeFile, run_bind, upload]
  refine bind_congr fun uploaded => ?_
  cases uploaded with
  | error e => rfl
  | ok locator =>
      simp only [run_bind, address]
      refine bind_congr fun resolved => ?_
      cases resolved <;> rfl

/-- Carrying out a request anywhere is running its calls there. -/
theorem run_handle (config : Config) (disk : Disk m) (objectStore : Option (Store m))
    (other : Store m) (moment : Moment) (v : Json.Value)
    : ((asked config (objectStore.map (·.expiry))).handle moment v).run
        (answerBy disk (objectStore.getD other))
      = ({ config, disk, objectStore } : Service m).handle moment v := by
  simp only [handle]
  cases Request.validate v with
  | error e => rfl
  | ok r =>
      simp only [carryOut, chooseStore, asked]
      have stored (store : Store Calling) (store' : Store m) (expiresIn : Option Nat)
          (upload : ∀ data name,
            (store.upload data name).run (answerBy disk (objectStore.getD other))
              = store'.upload data name)
          (address : ∀ locator,
            (store.address locator).run (answerBy disk (objectStore.getD other))
              = store'.address locator) (file : Generated) (warnings : List Build.Warning)
          : (storeFile store expiresIn file >>= fun stored =>
              (pure ⟨warnings, stored⟩ : Calling (Build.Logged Failure Stored))).run
                (answerBy disk (objectStore.getD other))
            = storeFile store' expiresIn file >>= fun stored => pure ⟨warnings, stored⟩ := by
        rw [run_bind, run_storeFile upload address]
        rfl
      cases storageKind config r with
      | directory =>
          cases (generate moment r).result with
          | error e => rfl
          | ok file =>
              exact stored _ (directoryStore disk config.directory) none
                (Directory.run_upload disk _ config.directory) (Directory.run_address disk _) file _
      | objectStore =>
          cases objectStore with
          | none => rfl
          | some store =>
              cases (generate moment r).result with
              | error e => rfl
              | ok file =>
                  exact stored (askedStore store.expiry) store _
                    (fun data name => bind_pure (store.upload data name))
                    (fun locator => bind_pure (store.address locator)) file _

end Runs

/-- The request is sound, there is a store for it, and its file is generated. -/
def Prepared {m : Type → Type} [Monad m] (s : Service m) (moment : Moment) (v : Json.Value)
    (store : Store m) (expiresIn : Option Nat) (file : Generated) : Prop :=
  ∃ r, Request.validate v = .ok r ∧ s.chooseStore r = .ok (store, expiresIn)
    ∧ (generate moment r).result = .ok file

variable {config : Config} {objectStore : Option (Option Nat)} {moment : Moment} {v : Json.Value}
    {exchanges : List Exchange} {outcome : Build.Logged Failure Stored}

theorem oneFile_of_chooseStore {r : Request} {store : Store Calling} {expiresIn : Option Nat}
    (chosen : (asked config objectStore).chooseStore r = .ok (store, expiresIn))
    : OneFile store := by
  simp only [chooseStore, asked] at chosen
  split at chosen
  · cases chosen
    exact oneFile_directoryStore config.directory
  · cases objectStore with
    | none => cases chosen
    | some expiry =>
        cases chosen
        exact oneFile_askedStore expiry

/-- Storing a file is one upload, and one question for the address if that succeeds. -/
theorem yields_storeFile {store : Store Calling} {expiresIn : Option Nat} {file : Generated}
    {result : Except Failure Stored}
    (ended : Yields (storeFile store expiresIn file) exchanges result)
    : (∃ e, Yields (store.upload file.data file.fileName) exchanges (.error e) ∧ result = .error e)
      ∨ ∃ locator first rest resolved, exchanges = first ++ rest
        ∧ Yields (store.upload file.data file.fileName) first (.ok locator)
        ∧ Yields (store.address locator) rest resolved
        ∧ result = resolved.map fun address =>
          ⟨address, file.fileName, file.data.length, file.sheets, expiresIn⟩ := by
  obtain ⟨first, rest, uploaded, rfl, upload, ended⟩ := yields_bind_iff.mp ended
  cases uploaded with
  | error e =>
      obtain ⟨rfl, rfl⟩ := yields_done_iff.mp ended
      exact .inl ⟨e, by rwa [List.append_nil], rfl⟩
  | ok locator =>
      obtain ⟨middle, last, resolved, rfl, address, ended⟩ := yields_bind_iff.mp ended
      refine .inr ⟨locator, first, middle, resolved, ?_, upload, address, ?_⟩
      · cases resolved <;> obtain ⟨rfl, -⟩ := yields_done_iff.mp ended <;> rw [List.append_nil]
      · cases resolved <;> exact (yields_done_iff.mp ended).2

/-- A request is refused without a call, or it is prepared and its file is stored. -/
theorem yields_handle
    (ended : Yields ((asked config objectStore).handle moment v) exchanges outcome)
    : (∃ e, exchanges = [] ∧ outcome.result = .error e
        ∧ ∀ store expiresIn file,
          ¬ (asked config objectStore).Prepared moment v store expiresIn file)
      ∨ ∃ store expiresIn file, OneFile store
        ∧ (asked config objectStore).Prepared moment v store expiresIn file
        ∧ Yields (storeFile store expiresIn file) exchanges outcome.result := by
  simp only [handle] at ended
  cases valid : Request.validate v with
  | error e =>
      rw [valid] at ended
      obtain ⟨rfl, rfl⟩ := yields_done_iff.mp ended
      refine .inl ⟨_, rfl, rfl, fun store expiresIn file ⟨r, valid', _⟩ => ?_⟩
      cases valid.symm.trans valid'
  | ok r =>
      rw [valid] at ended
      simp only [carryOut] at ended
      cases chosen : (asked config objectStore).chooseStore r with
      | error e =>
          rw [chosen] at ended
          obtain ⟨rfl, rfl⟩ := yields_done_iff.mp ended
          refine .inl ⟨_, rfl, rfl, fun store expiresIn file ⟨r', valid', chosen', _⟩ => ?_⟩
          cases valid.symm.trans valid'
          cases chosen.symm.trans chosen'
      | ok choice =>
          obtain ⟨store, expiresIn⟩ := choice
          rw [chosen] at ended
          cases generated : (generate moment r).result with
          | error e =>
              simp only [generated] at ended
              obtain ⟨rfl, rfl⟩ := yields_done_iff.mp ended
              refine .inl ⟨_, rfl, rfl, ?_⟩
              rintro store expiresIn file ⟨r', valid', -, generated'⟩
              cases valid.symm.trans valid'
              cases generated.symm.trans generated'
          | ok file =>
              simp only [generated] at ended
              obtain ⟨first, rest, result, rfl, stored, ended⟩ := yields_bind_iff.mp ended
              obtain ⟨rfl, rfl⟩ := yields_done_iff.mp ended
              refine .inr ⟨store, expiresIn, file, oneFile_of_chooseStore chosen,
                ⟨r, valid, chosen, generated⟩, ?_⟩
              rwa [List.append_nil]

theorem remaining_append {first rest : List Exchange}
    (quiet : ∀ files, rest.foldl leaves files = files)
    : remaining (first ++ rest) = remaining first := by
  rw [remaining, List.foldl_append, quiet]
  rfl

/-- A file that a store takes is the one that remains, whether it has an address or not. -/
theorem storeFile_remaining {store : Store Calling} {expiresIn : Option Nat} {file : Generated}
    {result : Except Failure Stored} (oneFile : OneFile store)
    (ended : Yields (storeFile store expiresIn file) exchanges result)
    : (∃ e, result = .error e ∧ remaining exchanges = [])
      ∨ ∃ locator first rest resolved, exchanges = first ++ rest
        ∧ Yields (store.upload file.data file.fileName) first (.ok locator)
        ∧ Yields (store.address locator) rest resolved
        ∧ remaining exchanges = [(locator, file.data)] ∧ attempts exchanges = 1
        ∧ result = resolved.map fun address =>
          ⟨address, file.fileName, file.data.length, file.sheets, expiresIn⟩ := by
  rcases yields_storeFile ended with ⟨e, upload, failed⟩
    | ⟨locator, first, rest, resolved, rfl, upload, address, result⟩
  · exact .inl ⟨e, failed, oneFile.refused upload⟩
  · obtain ⟨taken, once⟩ := oneFile.taken upload
    obtain ⟨quiet, none⟩ := oneFile.looks address
    refine .inr ⟨locator, first, rest, resolved, rfl, upload, address, ?_, ?_, result⟩
    · rw [remaining_append quiet, taken]
    · rw [attempts, List.countP_append]
      exact congrArg₂ (· + ·) once none

/-- Whatever is answered: before a request is prepared, nothing is asked. A request that is refused
leaves nothing in storage unless its file was taken and then had no address; that one file stays. A
request that is carried out has made one upload of the generated file and tells of it.
-/
theorem handle_storage
    (ended : Yields ((asked config objectStore).handle moment v) exchanges outcome)
    : ((∀ store expiresIn file,
          ¬ (asked config objectStore).Prepared moment v store expiresIn file)
        → exchanges = [])
      ∧ (∀ e, outcome.result = .error e → remaining exchanges = []
        ∨ ∃ store expiresIn file locator first rest,
          (asked config objectStore).Prepared moment v store expiresIn file
          ∧ exchanges = first ++ rest
          ∧ Yields (store.upload file.data file.fileName) first (.ok locator)
          ∧ Yields (store.address locator) rest (.error e)
          ∧ remaining exchanges = [(locator, file.data)])
      ∧ ∀ stored, outcome.result = .ok stored → ∃ store expiresIn file locator first rest,
        (asked config objectStore).Prepared moment v store expiresIn file
        ∧ exchanges = first ++ rest
        ∧ Yields (store.upload file.data file.fileName) first (.ok locator)
        ∧ Yields (store.address locator) rest (.ok stored.address)
        ∧ remaining exchanges = [(locator, file.data)] ∧ attempts exchanges = 1
        ∧ stored = ⟨stored.address, file.fileName, file.data.length, file.sheets, expiresIn⟩ := by
  rcases yields_handle ended with ⟨e, rfl, failed, _⟩
    | ⟨store, expiresIn, file, oneFile, prepared, ended⟩
  · refine ⟨fun _ => rfl, fun _ _ => .inl rfl, fun stored done => ?_⟩
    rw [failed] at done
    cases done
  · refine ⟨fun unprepared => absurd prepared (unprepared store expiresIn file), ?_⟩
    rcases storeFile_remaining oneFile ended with ⟨e, failed, nothing⟩
      | ⟨locator, first, rest, resolved, rfl, upload, address, remains, once, result⟩
    · refine ⟨fun _ _ => .inl nothing, fun stored done => ?_⟩
      rw [failed] at done
      cases done
    · cases resolved with
      | error e =>
          refine ⟨fun e' failed => ?_, fun stored done => ?_⟩
          · cases failed.symm.trans result
            exact .inr ⟨store, expiresIn, file, locator, first, rest, prepared, rfl, upload,
              address, remains⟩
          · cases done.symm.trans result
      | ok place =>
          refine ⟨fun e failed => ?_, fun stored done => ?_⟩
          · cases failed.symm.trans result
          · cases done.symm.trans result
            exact ⟨store, expiresIn, file, locator, first, rest, prepared, rfl, upload, address,
              remains, once, rfl⟩

/-- A request for an empty sheet. -/
def emptySheetRequest : Json.Value :=
  .object [("file_name", .string "r.xlsx"),
    ("sheets", .array
      [.object [("columns", .array []), ("data", .array []), ("name", .string "S")]])]

def sampleMoment : Moment := ⟨0, ⟨⟨2024, 3, 7⟩, 0, 0⟩, ⟨2024, 3, 7⟩⟩

/-- Everything that is asked is granted. -/
def grant : (call : Call) → call.Reply
  | .clock => 0
  | .makeDirectories _ | .write .. | .remove _ => .ok ()
  | .realPath path => .ok path
  | .upload _ name => .ok ("bucket/" ++ name)
  | .resolve locator => .ok ("mem://" ++ locator)
  | .discard _ => .ok ()

/-- A service whose files go to an object store. -/
def remote : Service Calling := asked { storage := .objectStore } (some none)

/-- Where everything is granted, the request is carried out. -/
theorem handle_storage_granted
    : ∃ exchanges outcome stored locator, ∃ file : Generated,
        Yields (remote.handle sampleMoment emptySheetRequest) exchanges outcome
        ∧ outcome.result = .ok stored ∧ remaining exchanges = [(locator, file.data)]
        ∧ attempts exchanges = 1 ∧ stored.fileSize = file.data.length := by
  have ended := yields_follow grant (remote.handle sampleMoment emptySheetRequest)
  have granted
      : ((remote.handle sampleMoment emptySheetRequest).follow grant).2.result.isOk = true := by
    decide +kernel
  obtain ⟨stored, done⟩ := exists_of_isOk granted
  obtain ⟨_, _, file, locator, _, _, -, -, -, -, remains, once, tells⟩ :=
    (handle_storage ended).2.2 stored done
  exact ⟨_, _, stored, locator, file, ended, done, remains, once, by rw [tells]⟩

/-- A service on a machine whose object store takes files but gives no addresses. -/
def unresolving : Service (StateM Machine) where
  config := { storage := .objectStore }
  disk := Machine.disk []
  objectStore :=
    some (Machine.bucket (fun step => if step == "resolve" then some "resolve refused" else none)
      none)

/-- There the request is refused and its file stays in the object store. -/
theorem unresolving_keeps_file
    : (unresolving.handle sampleMoment emptySheetRequest {}).1.result.isOk = false
      ∧ (unresolving.handle sampleMoment emptySheetRequest {}).2.uploads.map Prod.fst
        = ["r.xlsx"] := by
  decide +kernel

end Service

end Spreadsheet
