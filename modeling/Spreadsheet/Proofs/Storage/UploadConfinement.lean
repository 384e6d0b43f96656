import Spreadsheet.Proofs.Storage.Calls
import Spreadsheet.Proofs.Storage.StoredPaths

/-! Where an upload writes. Whatever name is suggested, the one file that is written lies right
inside the directory, under the time and the last name of the suggested path.
-/

namespace Spreadsheet.Storage

open Spreadsheet.Service

/-- The path under which a directory keeps a file that came at some time under a suggested name: one
component behind those of the directory, made of the time and of the last name that was suggested.
-/
structure StoresAs (directory suggested : String) (time : Nat) (name path : String) : Prop where
  last : IsLastName suggested name
  placed : path = inside directory (storedName time name)
  noSlash : '/' ∉ (storedName time name).toList
  components : components path = components directory ++ [storedName time name]
  start : isAbsolute path = isAbsolute directory

variable {directory suggested name path : String} {time : Nat} {data : List UInt8}

theorem StoresAs.of_storedPath (stored : storedPath directory suggested time = .ok path)
    : ∃ name, StoresAs directory suggested time name path := by
  obtain ⟨name, found, rfl⟩ := storedPath_eq_ok.mp stored
  have plain : '/' ∉ (storedName time name).toList :=
    slash_not_mem_storedName (slash_not_mem_of_lastName? found)
  exact ⟨name, lastName?_eq_some_iff.mp found, rfl, plain,
    components_inside directory plain (staysThere_storedName time name),
    isAbsolute_inside directory plain⟩

theorem StoresAs.storedPath_eq (stores : StoresAs directory suggested time name path)
    : storedPath directory suggested time = .ok path :=
  storedPath_eq_ok.mpr ⟨name, lastName?_eq_some_iff.mpr stores.last, stores.placed⟩

/-- A name is refused just if there is no last name on it. -/
theorem storedPath_eq_error {e : Failure}
    : storedPath directory suggested time = .error e
      ↔ (∀ name, ¬ IsLastName suggested name) ∧ e = .building (.badFileName suggested) := by
  have named : lastName? suggested = none ↔ ∀ name, ¬ IsLastName suggested name := by
    simp only [← lastName?_eq_some_iff, Option.eq_none_iff_forall_ne_some, ne_eq]
  rw [← named, storedPath]
  cases lastName? suggested with
  | none =>
      constructor
      · intro same
        exact ⟨rfl, (Except.error.inj same).symm⟩
      · rintro ⟨-, rfl⟩
        rfl
  | some name =>
      constructor
      · intro same
        cases same
      · rintro ⟨missing, -⟩
        cases missing

namespace Directory

open Calling

-----------------------------------------------------------------------------------------
-- All answers of the machine
-----------------------------------------------------------------------------------------

/-- What an upload may exchange with the machine and come to: it is refused before anything is
written, or it writes one file in its directory.
-/
inductive StaysInside (directory : String) (data : List UInt8) (suggested : String)
    : List Exchange → Except Failure String → Prop
  | unmade (e : String)
    : StaysInside directory data suggested [⟨.makeDirectories directory, .error e⟩]
        (.error (.system e))
  | unnamed (time : Nat) (none : ∀ name, ¬ IsLastName suggested name)
    : StaysInside directory data suggested
        [⟨.makeDirectories directory, .ok ()⟩, ⟨.clock, time⟩]
        (.error (.building (.badFileName suggested)))
  | written {time : Nat} {name path : String} (reply : Answer Unit)
    (stores : StoresAs directory suggested time name path)
    : StaysInside directory data suggested
        [⟨.makeDirectories directory, .ok ()⟩, ⟨.clock, time⟩, ⟨.write path data, reply⟩]
        ((onDisk reply).map fun () => path)

theorem yields_upload_iff_staysInside {exchanges : List Exchange}
    {outcome : Except Failure String}
    : Yields (upload askedDisk directory data suggested) exchanges outcome
      ↔ StaysInside directory data suggested exchanges outcome := by
  rw [yields_upload_iff]
  constructor
  · rintro (⟨e, rfl, rfl⟩ | ⟨time, e, stored, rfl, rfl⟩ | ⟨time, path, reply, stored, rfl, rfl⟩)
    · exact .unmade e
    · obtain ⟨none, rfl⟩ := storedPath_eq_error.mp stored
      exact .unnamed time none
    · obtain ⟨name, stores⟩ := StoresAs.of_storedPath stored
      exact .written reply stores
  · rintro (e | ⟨time, none⟩ | ⟨reply, stores⟩)
    · exact .inl ⟨e, rfl, rfl⟩
    · exact .inr (.inl ⟨time, _, storedPath_eq_error.mpr ⟨none, rfl⟩, rfl, rfl⟩)
    · exact .inr (.inr ⟨_, _, reply, stores.storedPath_eq, rfl, rfl⟩)

-----------------------------------------------------------------------------------------
-- A machine in memory
-----------------------------------------------------------------------------------------

/-- What an upload comes to on a machine in memory, and what it does to the files: it fails and they
are as before, or one file right inside the directory has the data and all others are as before.
-/
def Confined (current : Place) (directory : String) (data : List UInt8) (suggested : String)
    (time : Nat) (before : FileTree) (outcome : Except Failure String) (after : FileTree) : Prop :=
  (∃ e, outcome = .error e) ∧ before.SameFiles after
    ∨ ∃ name path home, StoresAs directory suggested time name path ∧ outcome = .ok path
      ∧ after.Houses current directory home
      ∧ ∀ place, after.file? place
          = if place = home ++ [storedName time name] then some data else before.file? place

variable {current : Place} {t t' : FileTree}

/-- Writing at a stored path changes one file, right inside the directory. -/
theorem Confined.of_write (stores : StoresAs directory suggested time name path)
    (same : t.SameFiles t') {after : FileTree} (written : t'.write current path data = .ok after)
    : Confined current directory data suggested time t (.ok path) after := by
  have keeps := FileTree.KeepsDirectories.of_write written
  obtain ⟨place, located, noDirectory, rfl⟩ := FileTree.write_eq_ok.mp written
  have located := keeps.locate located
  rw [stores.placed] at located
  have plain : '/' ∉ name.toList := stores.last.noSlash
  obtain ⟨home, houses, rfl⟩ := exists_houses plain located
  refine .inr ⟨name, path, home, stores, rfl, houses, fun other => ?_⟩
  rw [FileTree.file?_put noDirectory, same]

theorem bind_eq_of_eq {σ α β : Type} {x : StateM σ α} {f : α → StateM σ β} {s s' : σ} {a : α}
    (ran : x s = (a, s'))
    : (x >>= f) s = f a s' := by
  change f (x s).1 (x s).2 = f a s'
  rw [ran]

/-- The last call of an upload, on a machine whose files are still those from before. -/
theorem confined_writing (stores : StoresAs directory suggested time name path) {machine : Machine}
    (same : t.SameFiles machine.files)
    : let writing := do
        let written ← (Machine.disk current).write path data
        return (onDisk written).map fun () => path
      Confined current directory data suggested time t (writing machine).1
        (writing machine).2.files := by
  intro writing
  cases written : machine.files.write current path data with
  | error e =>
      have call : (Machine.disk current).write path data machine = (.error e.message, machine) :=
        Machine.change_error (f := fun t => t.write current path data) written
      rw [show writing machine = _ from bind_eq_of_eq call]
      exact .inl ⟨⟨_, rfl⟩, same⟩
  | ok after =>
      have call
          : (Machine.disk current).write path data machine
            = (.ok (), { machine with files := after }) :=
        Machine.change_ok (f := fun t => t.write current path data) written
      rw [show writing machine = _ from bind_eq_of_eq call]
      exact .of_write stores same written

/-- What an upload does on a machine in memory, call by call. -/
theorem confined_upload (current : Place) (directory suggested : String) (data : List UInt8)
    (machine : Machine)
    : Confined current directory data suggested machine.time machine.files
        (upload (Machine.disk current) directory data suggested machine).1
        (upload (Machine.disk current) directory data suggested machine).2.files := by
  have same := FileTree.makeDirectories_sameFiles machine.files current directory
  have making
      : (Machine.disk current).makeDirectories directory machine
        = ((FileTree.makeDirectories current directory machine.files).1.mapError TreeFault.message,
          { machine with files := (FileTree.makeDirectories current directory machine.files).2 }) :=
    rfl
  rw [upload, bind_eq_of_eq making]
  cases (FileTree.makeDirectories current directory machine.files).1 with
  | error e => exact .inl ⟨⟨_, rfl⟩, same⟩
  | ok _ =>
      generalize (FileTree.makeDirectories current directory machine.files).2 = files at same ⊢
      have timing
          : (Machine.disk current).clock { machine with files }
            = (machine.time, { machine with files }) :=
        rfl
      dsimp only [Except.mapError]
      rw [bind_eq_of_eq timing]
      cases stored : storedPath directory suggested machine.time with
      | error e => exact .inl ⟨⟨_, rfl⟩, same⟩
      | ok path =>
          obtain ⟨name, stores⟩ := StoresAs.of_storedPath stored
          exact confined_writing stores same

-----------------------------------------------------------------------------------------
-- Confinement
-----------------------------------------------------------------------------------------

/-- Whatever a directory, a suggested name and the time are and however the machine answers, an
upload writes nothing, and then it fails, or it writes one file right inside the directory. On a
machine in memory all other files stay as they are.
-/
theorem upload_staysInside (directory suggested : String) (data : List UInt8)
    : (∀ (exchanges : List Exchange) (outcome : Except Failure String),
        Yields (upload askedDisk directory data suggested) exchanges outcome
          ↔ StaysInside directory data suggested exchanges outcome)
      ∧ ∀ (current : Place) (machine : Machine),
          Confined current directory data suggested machine.time machine.files
            (upload (Machine.disk current) directory data suggested machine).1
            (upload (Machine.disk current) directory data suggested machine).2.files :=
  ⟨fun _ _ => yields_upload_iff_staysInside,
    fun current machine => confined_upload current directory suggested data machine⟩

/-- Steps up in front of a name lead nowhere, and a step up in place of the name is refused. -/
theorem upload_staysInside_stepsUp
    : IsLastName "/../../etc/passwd/./" "passwd"
      ∧ StaysInside "out" [97] "/../../etc/passwd/./"
        [⟨.makeDirectories "out", .ok ()⟩, ⟨.clock, (7 : Nat)⟩,
          ⟨.write "out/7_passwd" [97], .ok ()⟩]
        (.ok "out/7_passwd")
      ∧ StaysInside "out" [97] "r.xlsx/.." [⟨.makeDirectories "out", .ok ()⟩, ⟨.clock, (7 : Nat)⟩]
        (.error (.building (.badFileName "r.xlsx/.."))) := by
  have stored : storedPath "out" "/../../etc/passwd/./" 7 = .ok "out/7_passwd" := by rfl
  have refused
      : storedPath "out" "r.xlsx/.." 7 = .error (.building (.badFileName "r.xlsx/..")) := by
    rfl
  refine ⟨lastName?_eq_some_iff.mp (by rfl), ?_, ?_⟩
  · refine ((upload_staysInside "out" "/../../etc/passwd/./" [97]).1 _ _).mp ?_
    exact yields_upload_iff.mpr (.inr (.inr ⟨7, _, .ok (), stored, rfl, rfl⟩))
  · refine ((upload_staysInside "out" "r.xlsx/.." [97]).1 _ _).mp ?_
    exact yields_upload_iff.mpr (.inr (.inl ⟨7, _, refused, rfl, rfl⟩))

end Directory

end Spreadsheet.Storage
