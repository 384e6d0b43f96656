import Mathlib.Logic.Basic
import Spreadsheet.Proofs.Cell.AddressBounds
import Spreadsheet.Storage.Store

/-! What the program asks of its surroundings, call by call. Storage works in any monad, so also in
that of programs whose calls are still to be answered: by any surroundings whatever, or by a machine
on which several programs take turns.
-/

namespace Spreadsheet.Storage

open Spreadsheet.Service

-----------------------------------------------------------------------------------------
-- Programs of calls
-----------------------------------------------------------------------------------------

/-- A call of the machine or of an object store. -/
inductive Call where
  | clock
  | makeDirectories (path : String)
  | write (path : String) (data : List UInt8)
  | realPath (path : String)
  | remove (path : String)
  | upload (data : List UInt8) (name : String)
  | resolve (locator : String)
  | discard (locator : String)
deriving DecidableEq, Repr

/-- What a call is answered with. -/
abbrev Call.Reply : Call → Type
  | .clock => Nat
  | .makeDirectories _ | .write .. | .remove _ => Answer Unit
  | .realPath _ => Answer String
  | .upload .. | .resolve _ => Except Failure String
  | .discard _ => Except Failure Unit

/-- A call with its answer. -/
abbrev Exchange := (call : Call) × call.Reply

/-- A program that goes on with the answer to each call. -/
inductive Calling (α : Type) : Type
  | done (a : α)
  | ask (call : Call) (next : call.Reply → Calling α)

namespace Calling

variable {α β : Type}

def bind : Calling α → (α → Calling β) → Calling β
  | .done a, f => f a
  | .ask call next, f => .ask call fun reply => (next reply).bind f

instance : Monad Calling where
  pure := .done
  bind := bind

/-- A single call. -/
def one (call : Call) : Calling call.Reply := .ask call .done

@[simp]
theorem ask_bind (call : Call) (next : call.Reply → Calling α) (f : α → Calling β)
    : (.ask call next >>= f) = .ask call fun reply => next reply >>= f :=
  rfl

/-- After some exchanges the program yields a result. -/
inductive Yields : Calling α → List Exchange → α → Prop
  | done (a : α) : Yields (.done a) [] a
  | ask {call : Call} {next : call.Reply → Calling α} {a : α} {exchanges : List Exchange}
    (reply : call.Reply) (rest : Yields (next reply) exchanges a)
    : Yields (.ask call next) (⟨call, reply⟩ :: exchanges) a

variable {a b : α} {exchanges : List Exchange}

theorem yields_done_iff : Yields (.done a) exchanges b ↔ exchanges = [] ∧ b = a :=
  ⟨fun | .done _ => ⟨rfl, rfl⟩, fun ⟨quiet, same⟩ => by rw [quiet, same]; exact .done a⟩

theorem yields_ask_iff {call : Call} {next : call.Reply → Calling α}
    : Yields (.ask call next) exchanges a
      ↔ ∃ reply rest, exchanges = ⟨call, reply⟩ :: rest ∧ Yields (next reply) rest a :=
  ⟨fun | .ask reply rest => ⟨reply, _, rfl, rest⟩,
    fun ⟨reply, _, same, rest⟩ => same ▸ .ask reply rest⟩

theorem yields_one_iff {call : Call} {reply : call.Reply}
    : Yields (one call) exchanges reply ↔ exchanges = [⟨call, reply⟩] := by
  constructor
  · rintro (_ | ⟨reply, ended⟩)
    obtain ⟨rfl, rfl⟩ := yields_done_iff.mp ended
    rfl
  · rintro rfl
    exact .ask reply (.done reply)

/-- Two programs in a row exchange what the first does and then what the second does, by induction
on the first.
-/
theorem yields_bind_iff {x : Calling α} {f : α → Calling β} {b : β}
    : Yields (x >>= f) exchanges b
      ↔ ∃ first rest a, exchanges = first ++ rest ∧ Yields x first a ∧ Yields (f a) rest b := by
  induction x generalizing exchanges with
  | done a =>
      constructor
      · intro ended
        exact ⟨[], exchanges, a, rfl, .done a, ended⟩
      · rintro ⟨_, rest, _, rfl, ended, ended'⟩
        obtain ⟨rfl, rfl⟩ := yields_done_iff.mp ended
        exact ended'
  | ask call next ih =>
      rw [ask_bind, yields_ask_iff]
      constructor
      · rintro ⟨reply, _, rfl, ended⟩
        obtain ⟨first, rest, a, rfl, one, two⟩ := (ih reply).mp ended
        exact ⟨⟨call, reply⟩ :: first, rest, a, rfl, .ask reply one, two⟩
      · rintro ⟨_, rest, a, rfl, ended, two⟩
        obtain ⟨reply, first, rfl, one⟩ := yields_ask_iff.mp ended
        exact ⟨reply, _, rfl, (ih reply).mpr ⟨first, rest, a, rfl, one, two⟩⟩

/-- What a program exchanges and comes to if the same call always has the same answer. -/
def follow (answer : (call : Call) → call.Reply) : Calling α → List Exchange × α
  | .done a => ([], a)
  | .ask call next =>
    let (exchanges, a) := (next (answer call)).follow answer
    (⟨call, answer call⟩ :: exchanges, a)

theorem yields_follow (answer : (call : Call) → call.Reply) (x : Calling α)
    : Yields x (x.follow answer).1 (x.follow answer).2 := by
  induction x with
  | done a => exact .done a
  | ask call next ih => exact .ask (answer call) (ih (answer call))

variable {m : Type → Type} [Monad m]

/-- Runs a program, given how calls are answered. -/
def run (answer : (call : Call) → m call.Reply) : Calling α → m α
  | .done a => pure a
  | .ask call next => do
    let reply ← answer call
    (next reply).run answer

theorem run_bind [LawfulMonad m] (answer : (call : Call) → m call.Reply) (x : Calling α)
    (f : α → Calling β)
    : (x >>= f).run answer = x.run answer >>= fun a => (f a).run answer := by
  induction x with
  | done a => exact (pure_bind a fun a => (f a).run answer).symm
  | ask call next ih =>
      rw [ask_bind, run, run, bind_assoc]
      exact bind_congr ih

end Calling

-----------------------------------------------------------------------------------------
-- Storage as a program
-----------------------------------------------------------------------------------------

/-- The machine, asked call by call. -/
def askedDisk : Disk Calling where
  clock := .one .clock
  makeDirectories path := .one (.makeDirectories path)
  write path data := .one (.write path data)
  realPath path := .one (.realPath path)
  remove path := .one (.remove path)

/-- An object store, asked call by call. -/
def askedStore (expiry : Option Nat) : Store Calling where
  upload data name := .one (.upload data name)
  address locator := .one (.resolve locator)
  delete locator := .one (.discard locator)
  expiry

/-- How a machine and an object store answer. -/
def answerBy {m : Type → Type} (disk : Disk m) (store : Store m) : (call : Call) → m call.Reply
  | .clock => disk.clock
  | .makeDirectories path => disk.makeDirectories path
  | .write path data => disk.write path data
  | .realPath path => disk.realPath path
  | .remove path => disk.remove path
  | .upload data name => store.upload data name
  | .resolve locator => store.address locator
  | .discard locator => store.delete locator

namespace Directory

open Calling

variable {directory suggested locator path : String} {data : List UInt8}
    {exchanges : List Exchange}

/-- What is left of an upload when the clock has been read. -/
def afterClock (directory : String) (data : List UInt8) (suggested : String) (time : Nat)
    : Calling (Except Failure String) :=
  match storedPath directory suggested time with
  | .error e => .done (.error e)
  | .ok path => .ask (.write path data) fun written => .done ((onDisk written).map fun () => path)

theorem afterClock_error {time : Nat} {e : Failure}
    (stored : storedPath directory suggested time = .error e)
    : afterClock directory data suggested time = .done (.error e) := by
  rw [afterClock, stored]

theorem afterClock_ok {time : Nat} (stored : storedPath directory suggested time = .ok path)
    : afterClock directory data suggested time
      = .ask (.write path data) fun written => .done ((onDisk written).map fun () => path) := by
  rw [afterClock, stored]

/-- What is left of an upload when its directory has been made, or not. -/
def afterMaking (directory : String) (data : List UInt8) (suggested : String)
    : Answer Unit → Calling (Except Failure String)
  | .error e => .done (.error (.system e))
  | .ok () => .ask .clock (afterClock directory data suggested)

theorem afterMaking_ok
    : afterMaking directory data suggested (.ok ())
      = .ask .clock (afterClock directory data suggested) :=
  rfl

theorem upload_asked (directory : String) (data : List UInt8) (suggested : String)
    : upload askedDisk directory data suggested
      = .ask (.makeDirectories directory) (afterMaking directory data suggested) := by
  refine congrArg (Calling.ask _) (funext fun made => ?_)
  cases made with
  | error e => rfl
  | ok _ =>
      refine congrArg (Calling.ask _) (funext fun time => ?_)
      cases stored : storedPath directory suggested time with
      | error e =>
          rw [afterClock_error stored, Calling.bind]
          simp only [stored]
          rfl
      | ok path =>
          rw [afterClock_ok stored, Calling.bind]
          simp only [stored]
          rfl

theorem address_asked (locator : String)
    : address askedDisk locator
      = .ask (.realPath locator) fun reply => .done ((onDisk reply).map ("file://" ++ ·)) :=
  rfl

theorem delete_asked (locator : String)
    : delete askedDisk locator = .ask (.remove locator) fun reply => .done (onDisk reply) :=
  rfl

section Runs

variable {m : Type → Type} [Monad m] (disk : Disk m) (store : Store m)

/-- Storing on a machine is running the program of the calls on it. -/
theorem run_upload (directory : String) (data : List UInt8) (suggested : String)
    : (upload askedDisk directory data suggested).run (answerBy disk store)
      = upload disk directory data suggested := by
  rw [upload_asked]
  refine congrArg (disk.makeDirectories directory >>= ·) (funext fun made => ?_)
  cases made with
  | error e => rfl
  | ok _ =>
      refine congrArg (disk.clock >>= ·) (funext fun time => ?_)
      cases stored : storedPath directory suggested time with
      | error e =>
          rw [afterClock_error stored]
          rfl
      | ok path =>
          rw [afterClock_ok stored]
          rfl

theorem run_address (locator : String)
    : (address askedDisk locator).run (answerBy disk store) = address disk locator :=
  rfl

end Runs

/-- An upload makes the directory, reads the clock and writes the file, and it stops where one of
these is refused or the name is none.
-/
theorem yields_upload_iff {outcome : Except Failure String}
    : Yields (upload askedDisk directory data suggested) exchanges outcome
      ↔ (∃ e, exchanges = [⟨.makeDirectories directory, .error e⟩] ∧ outcome = .error (.system e))
        ∨ (∃ time e, storedPath directory suggested time = .error e
          ∧ exchanges = [⟨.makeDirectories directory, .ok ()⟩, ⟨.clock, time⟩]
          ∧ outcome = .error e)
        ∨ ∃ time path written, storedPath directory suggested time = .ok path
          ∧ exchanges = [⟨.makeDirectories directory, .ok ()⟩, ⟨.clock, time⟩,
            ⟨.write path data, written⟩]
          ∧ outcome = (onDisk written).map fun () => path := by
  rw [upload_asked]
  constructor
  · rintro (_ | ⟨made, ended⟩)
    cases made with
    | error e =>
        obtain ⟨rfl, rfl⟩ := yields_done_iff.mp ended
        exact .inl ⟨e, rfl, rfl⟩
    | ok _ =>
        rw [afterMaking_ok] at ended
        obtain ⟨time, _, rfl, timed⟩ := yields_ask_iff.mp ended
        cases stored : storedPath directory suggested time with
        | error e =>
            rw [afterClock_error stored] at timed
            obtain ⟨rfl, rfl⟩ := yields_done_iff.mp timed
            exact .inr (.inl ⟨time, e, stored, rfl, rfl⟩)
        | ok path =>
            rw [afterClock_ok stored] at timed
            obtain ⟨written, _, rfl, finished⟩ := yields_ask_iff.mp timed
            obtain ⟨rfl, rfl⟩ := yields_done_iff.mp finished
            exact .inr (.inr ⟨time, path, written, stored, rfl, rfl⟩)
  · rintro (⟨e, rfl, rfl⟩ | ⟨time, e, stored, rfl, rfl⟩ | ⟨time, path, written, stored, rfl, rfl⟩)
    · exact .ask _ (.done _)
    · have rest : Yields (afterClock directory data suggested time) [] (.error e) := by
        rw [afterClock_error stored]
        exact .done _
      exact .ask _ (yields_ask_iff.mpr ⟨time, _, rfl, rest⟩)
    · have rest : Yields (afterClock directory data suggested time) [⟨.write path data, written⟩]
          ((onDisk written).map fun () => path) := by
        rw [afterClock_ok stored]
        exact .ask written (.done _)
      exact .ask _ (yields_ask_iff.mpr ⟨time, _, rfl, rest⟩)

theorem yields_address_iff {outcome : Except Failure String}
    : Yields (address askedDisk locator) exchanges outcome
      ↔ ∃ reply, exchanges = [⟨.realPath locator, reply⟩]
        ∧ outcome = (onDisk reply).map ("file://" ++ ·) := by
  rw [address_asked]
  constructor
  · rintro (_ | ⟨reply, ended⟩)
    obtain ⟨rfl, rfl⟩ := yields_done_iff.mp ended
    exact ⟨reply, rfl, rfl⟩
  · rintro ⟨reply, rfl, rfl⟩
    exact .ask reply (.done _)

end Directory

end Spreadsheet.Storage
