import Spreadsheet.Proofs.Storage.Calls
import Spreadsheet.Proofs.Storage.StoredPaths
import Spreadsheet.Storage.Machine

/-! Programs that keep their files in one directory of a machine. They take turns call by call, in
any order and at any time on the clock. What one of them stores stays as it is until another one
stores something at the same time under the same name, or someone removes it.
-/

namespace Spreadsheet.Storage

open Spreadsheet.Service

namespace Directory

-----------------------------------------------------------------------------------------
-- Turns
-----------------------------------------------------------------------------------------

/-- What can be asked of the storage in a directory. -/
inductive Order where
  | upload (data : List UInt8) (suggested : String)
  | address (locator : String)
  | delete (locator : String)

namespace Order

abbrev Result : Order → Type
  | .upload .. | .address _ => String
  | .delete _ => Unit

/-- How an order is carried out. -/
def program (directory : String) : (o : Order) → Calling (Except Failure o.Result)
  | .upload data suggested => Directory.upload askedDisk directory data suggested
  | .address locator => Directory.address askedDisk locator
  | .delete locator => Directory.delete askedDisk locator

end Order

/-- An order on its way: what has been exchanged for it and what is left to do. -/
structure Running where
  order : Order
  exchanges : List Exchange
  left : Calling (Except Failure order.Result)

/-- An order that has been carried out. -/
structure Finished where
  order : Order
  exchanges : List Exchange
  outcome : Except Failure order.Result

/-- A machine with the orders that are carried out on it; the last one finished stands first. -/
structure Shared where
  machine : Machine
  running : List Running := []
  finished : List Finished := []

/-- The clock shows another time, a new order comes in, or an order on its way has its turn. -/
inductive Event where
  | time (now : Nat)
  | order (o : Order)
  | turn (i : Nat)

namespace Shared

/-- The order at a position goes on, or it is finished. -/
def settle (i : Nat) (s : Shared) (r : Running) : Shared :=
  match r.left with
  | .done outcome =>
    { s with
      running := s.running.eraseIdx i
      finished := ⟨r.order, r.exchanges, outcome⟩ :: s.finished }
  | .ask .. => { s with running := s.running.set i r }

/-- The answer of a machine, seen from a current directory, and the machine after it. -/
def answer (current : Place) (call : Call) (machine : Machine) : call.Reply × Machine :=
  answerBy (Machine.disk current) (Machine.bucket (fun _ => none) none) call machine

/-- The machine answers the next call of the order at a position. -/
def turn (current : Place) (i : Nat) (s : Shared) (r : Running) : Shared :=
  match r.left with
  | .done _ => s
  | .ask call next =>
    let (reply, machine) := answer current call s.machine
    settle i { s with machine } ⟨r.order, r.exchanges ++ [⟨call, reply⟩], next reply⟩

def step (directory : String) (current : Place) (s : Shared) : Event → Shared
  | .time now => { s with machine := { s.machine with time := now } }
  | .order o => { s with running := s.running ++ [⟨o, [], o.program directory⟩] }
  | .turn i =>
    match s.running[i]? with
    | none => s
    | some r => turn current i s r

/-- What a machine comes to by some events, in a directory that is found from the current one. -/
def after (directory : String) (current : Place) (machine : Machine) (events : List Event)
    : Shared :=
  events.foldl (step directory current) { machine }

end Shared

-----------------------------------------------------------------------------------------
-- Finished orders
-----------------------------------------------------------------------------------------

namespace Finished

/-- The data, suggested name and locator of an upload that has succeeded. -/
def stored? : Finished → Option (List UInt8 × String × String)
  | ⟨.upload data suggested, _, .ok path⟩ => some (data, suggested, path)
  | _ => none

/-- The locator of a file that has been removed. -/
def removed? : Finished → Option String
  | ⟨.delete locator, _, .ok ()⟩ => some locator
  | _ => none

/-- The time that was read from the clock. -/
def time? (f : Finished) : Option Nat :=
  f.exchanges.findSome? fun
    | ⟨.clock, time⟩ => some time
    | _ => none

/-- The order has stored something under a path, or removed what is at its place. -/
def Touches (t : FileTree) (current : Place) (path : String) (f : Finished) : Prop :=
  (∃ data suggested, f.stored? = some (data, suggested, path))
    ∨ ∃ locator place, f.removed? = some locator ∧ t.locate current locator = .ok place
      ∧ t.locate current path = .ok place

end Finished

/-- What a step does to the files, together with the order that it finishes. -/
inductive Effect (directory : String) (current : Place) (t : FileTree)
    : FileTree → Option Finished → Prop
  | quiet {t' : FileTree} {f? : Option Finished} (grows : t.Grows t')
    (neither : ∀ f ∈ f?, f.stored? = none ∧ f.removed? = none)
    : Effect directory current t t' f?
  | stored {t' : FileTree} {data : List UInt8} {suggested path : String} {time : Nat}
    (named : storedPath directory suggested time = .ok path)
    (written : t.write current path data = .ok t')
    : Effect directory current t t'
        (some ⟨.upload data suggested, [⟨.makeDirectories directory, .ok ()⟩, ⟨.clock, time⟩,
          ⟨.write path data, .ok ()⟩], .ok path⟩)
  | removed {t' : FileTree} {locator : String} (gone : t.remove current locator = .ok t')
    : Effect directory current t t' (some ⟨.delete locator, [⟨.remove locator, .ok ()⟩], .ok ()⟩)

theorem Effect.nothing {directory : String} {current : Place} {t t' : FileTree}
    (grows : t.Grows t')
    : Effect directory current t t' none :=
  .quiet grows fun f member => absurd member (Option.not_mem_none f)

/-- The order is at its beginning, or it is an upload between two of its calls. -/
inductive Running.Sound (directory : String) : Running → Prop
  | start (o : Order) : Sound directory ⟨o, [], o.program directory⟩
  | made (data : List UInt8) (suggested : String)
    : Sound directory ⟨.upload data suggested, [⟨.makeDirectories directory, .ok ()⟩],
        .ask .clock (afterClock directory data suggested)⟩
  | timed (data : List UInt8) {suggested path : String} {time : Nat}
    (named : storedPath directory suggested time = .ok path)
    : Sound directory ⟨.upload data suggested,
        [⟨.makeDirectories directory, .ok ()⟩, ⟨.clock, time⟩],
        .ask (.write path data) fun written => .done ((onDisk written).map fun () => path)⟩

variable {directory : String} {current : Place} {s : Shared}

/-- All orders on their way are sound. -/
def Shared.Sound (directory : String) (s : Shared) : Prop := ∀ r ∈ s.running, r.Sound directory

namespace Shared

/-- The next state with the order that the step to it has finished, if any. -/
structure Steps (directory : String) (current : Place) (s s' : Shared) : Prop where
  sound : s'.Sound directory
  effect
    : ∃ f?, s'.finished = f?.toList ++ s.finished
        ∧ Effect directory current s.machine.files s'.machine.files f?

theorem turn_ask {i : Nat} {o : Order} {exchanges : List Exchange} {call : Call}
    {next : call.Reply → Calling (Except Failure o.Result)} {reply : call.Reply} {machine : Machine}
    (answered : answer current call s.machine = (reply, machine))
    : turn current i s ⟨o, exchanges, .ask call next⟩
      = settle i { s with machine } ⟨o, exchanges ++ [⟨call, reply⟩], next reply⟩ := by
  simp only [turn, answered]

/-- An order that goes on after its call has added at most directories. -/
theorem Steps.goOn {machine : Machine} {i : Nat} {o : Order} {exchanges : List Exchange}
    {call : Call} {next : call.Reply → Calling (Except Failure o.Result)}
    (sound : s.Sound directory) (grows : s.machine.files.Grows machine.files)
    (here : Running.Sound directory ⟨o, exchanges, .ask call next⟩)
    : Steps directory current s (settle i { s with machine } ⟨o, exchanges, .ask call next⟩) where
  sound other member := by
    rcases List.mem_or_eq_of_mem_set member with old | rfl
    · exact sound other old
    · exact here
  effect := ⟨none, rfl, .nothing grows⟩

/-- An order that is finished has had its effect. -/
theorem Steps.finish {machine : Machine} {i : Nat} {o : Order} {exchanges : List Exchange}
    {outcome : Except Failure o.Result} (sound : s.Sound directory)
    (effect : Effect directory current s.machine.files machine.files
      (some ⟨o, exchanges, outcome⟩))
    : Steps directory current s (settle i { s with machine } ⟨o, exchanges, .done outcome⟩) where
  sound other member := sound other (List.mem_of_mem_eraseIdx member)
  effect := ⟨some ⟨o, exchanges, outcome⟩, rfl, effect⟩

theorem answer_makeDirectories (machine : Machine) (path : String)
    : answer current (.makeDirectories path) machine
      = ((FileTree.makeDirectories current path machine.files).1.mapError TreeFault.message,
        { machine with files := (FileTree.makeDirectories current path machine.files).2 }) :=
  rfl

/-- A refused order has no effect. -/
theorem Steps.refuse {machine : Machine} {i : Nat} {o : Order} {exchanges : List Exchange}
    {e : Failure} (sound : s.Sound directory)
    (grows : s.machine.files.Grows machine.files)
    : Steps directory current s (settle i { s with machine } ⟨o, exchanges, .done (.error e)⟩) :=
  .finish sound <| .quiet grows fun f member => by
    cases member
    cases o <;> exact ⟨rfl, rfl⟩

/-- A turn has the effect of the call that is answered. -/
theorem Steps.of_turn {i : Nat} {r : Running} (sound : s.Sound directory)
    (here : r.Sound directory)
    : Steps directory current s (turn current i s r) := by
  have still : s.machine.files.Grows s.machine.files := .refl _
  cases here with
  | start o =>
      cases o with
      | upload data suggested =>
          have grows := FileTree.makeDirectories_grows s.machine.files current directory
          rw [Order.program, upload_asked, turn_ask (answer_makeDirectories s.machine directory)]
          cases (FileTree.makeDirectories current directory s.machine.files).1 with
          | error e => exact .refuse sound grows
          | ok _ => exact .goOn sound grows (.made data suggested)
      | address locator =>
          rw [Order.program, address_asked, turn_ask rfl]
          refine .finish sound (.quiet still fun f member => ?_)
          cases member
          exact ⟨rfl, rfl⟩
      | delete locator =>
          rw [Order.program, delete_asked]
          cases removed : s.machine.files.remove current locator with
          | error e =>
              have answered : answer current (.remove locator) s.machine = _ :=
                Machine.change_error (f := fun t => t.remove current locator) removed
              rw [turn_ask answered]
              exact .refuse sound still
          | ok t =>
              have answered : answer current (.remove locator) s.machine = _ :=
                Machine.change_ok (f := fun t => t.remove current locator) removed
              rw [turn_ask answered]
              exact .finish sound (.removed removed)
  | made data suggested =>
      have answered : answer current .clock s.machine = (s.machine.time, s.machine) := rfl
      rw [turn_ask answered]
      cases named : storedPath directory suggested s.machine.time with
      | error e =>
          rw [afterClock_error named]
          exact .refuse sound still
      | ok path =>
          rw [afterClock_ok named]
          exact .goOn sound still (.timed data named)
  | @timed data suggested path time named =>
      cases written : s.machine.files.write current path data with
      | error e =>
          have answered : answer current (.write path data) s.machine = _ :=
            Machine.change_error (f := fun t => t.write current path data) written
          rw [turn_ask answered]
          exact .refuse sound still
      | ok t =>
          have answered : answer current (.write path data) s.machine = _ :=
            Machine.change_ok (f := fun t => t.write current path data) written
          rw [turn_ask answered]
          exact .finish sound (.stored named written)

/-- Each event is a step with at most one effect. -/
theorem Steps.of_step (sound : s.Sound directory) (event : Event)
    : Steps directory current s (step directory current s event) := by
  have still : s.machine.files.Grows s.machine.files := .refl _
  cases event with
  | time now => exact ⟨sound, none, rfl, .nothing still⟩
  | order o =>
      refine ⟨fun r member => ?_, none, rfl, .nothing still⟩
      rcases List.mem_append.mp member with old | new
      · exact sound r old
      · rw [List.mem_singleton.mp new]
        exact .start o
  | turn i =>
      rw [step]
      split
      · exact ⟨sound, none, rfl, .nothing still⟩
      · next r listed => exact .of_turn sound (sound r (List.mem_of_getElem? listed))

end Shared

-----------------------------------------------------------------------------------------
-- What stays
-----------------------------------------------------------------------------------------

theorem Finished.Touches.mono {t t' : FileTree} {path : String} {f : Finished}
    (keeps : t.KeepsDirectories t') (touches : f.Touches t current path)
    : f.Touches t' current path := by
  rcases touches with stored | ⟨locator, place, removed, located, located'⟩
  · exact .inl stored
  · exact .inr ⟨locator, place, removed, keeps.locate located, keeps.locate located'⟩

/-- The files of uploads are named after the time, and they are there with their data unless they
have been touched since.
-/
structure Shared.Keeps (directory : String) (current : Place) (s : Shared) : Prop where
  sound : s.Sound directory
  named
    : ∀ f ∈ s.finished, ∀ (data : List UInt8) (suggested path : String),
        f.stored? = some (data, suggested, path)
        → ∃ time, f.time? = some time ∧ storedPath directory suggested time = .ok path
  there
    : ∀ (newer older : List Finished) (f : Finished) (data : List UInt8) (suggested path : String),
        s.finished = newer ++ f :: older
        → f.stored? = some (data, suggested, path)
        → (∀ g ∈ newer, ¬ g.Touches s.machine.files current path)
        → s.machine.files.read current path = .ok data

/-- An order in a longer list is the new one, or it was there already. -/
theorem new_or_old {f? : Option Finished} {finished newer older : List Finished} {g : Finished}
    (same : f?.toList ++ finished = newer ++ g :: older)
    : f? = some g ∧ newer = []
      ∨ ∃ newer', newer = f?.toList ++ newer' ∧ finished = newer' ++ g :: older := by
  cases f? with
  | none => exact .inr ⟨newer, rfl, same⟩
  | some f =>
      cases newer with
      | nil =>
          obtain ⟨rfl, -⟩ := List.cons.inj same
          exact .inl ⟨rfl, rfl⟩
      | cons first rest =>
          obtain ⟨rfl, behind⟩ := List.cons.inj same
          exact .inr ⟨rest, rfl, behind⟩

theorem Effect.keepsDirectories {t t' : FileTree} {f? : Option Finished}
    (effect : Effect directory current t t' f?)
    : t.KeepsDirectories t' := by
  cases effect with
  | quiet grows _ => exact grows.keepsDirectories
  | stored _ written => exact .of_write written
  | removed gone => exact .of_remove gone

/-- A step keeps what was stored before it. -/
theorem Effect.read {t t' : FileTree} {f? : Option Finished}
    (effect : Effect directory current t t' f?) {data : List UInt8} {suggested path : String}
    {time : Nat} (named : storedPath directory suggested time = .ok path)
    (untouched : ∀ f ∈ f?, ¬ f.Touches t' current path)
    (read : t.read current path = .ok data)
    : t'.read current path = .ok data := by
  cases effect with
  | quiet grows _ => exact grows.read read
  | stored named' written =>
      refine FileTree.read_of_write_apart written (fun place located located' => ?_) read
      obtain rfl := eq_of_locate named' named located located'
      exact untouched _ rfl (.inl ⟨_, _, rfl⟩)
  | removed gone =>
      refine FileTree.read_of_remove_apart gone (fun place located located' => ?_) read
      have keeps := FileTree.KeepsDirectories.of_remove gone
      exact untouched _ rfl
        (.inr ⟨_, place, rfl, keeps.locate located, keeps.locate located'⟩)

theorem Shared.Keeps.next {s' : Shared} (kept : s.Keeps directory current)
    (steps : Shared.Steps directory current s s')
    : s'.Keeps directory current := by
  obtain ⟨sound, f?, finished, effect⟩ := steps
  have named
      : ∀ f ∈ s'.finished, ∀ (data : List UInt8) (suggested path : String),
          f.stored? = some (data, suggested, path)
          → ∃ time, f.time? = some time ∧ storedPath directory suggested time = .ok path := by
    intro f member data suggested path stored
    rw [finished, List.mem_append, Option.mem_toList] at member
    rcases member with new | old
    · cases effect with
      | quiet _ neither =>
          rw [(neither f new).1] at stored
          cases stored
      | stored named _ =>
          cases new
          cases stored
          exact ⟨_, rfl, named⟩
      | removed _ =>
          cases new
          cases stored
    · exact kept.named f old data suggested path stored
  refine ⟨sound, named, fun newer older f data suggested path split stored untouched => ?_⟩
  rw [finished] at split
  rcases new_or_old split with ⟨new, rfl⟩ | ⟨newer', rfl, before⟩
  · cases effect with
    | quiet _ neither =>
        rw [(neither f new).1] at stored
        cases stored
    | stored _ written =>
        cases new
        cases stored
        exact FileTree.read_of_write written
    | removed _ =>
        cases new
        cases stored
  · have old : f ∈ s.finished := by
      rw [before]
      exact List.mem_append_right newer' List.mem_cons_self
    obtain ⟨time, -, place⟩ := kept.named f old data suggested path stored
    refine effect.read place (fun g new => ?_) ?_
    · exact untouched g (List.mem_append_left newer' (Option.mem_toList.mpr new))
    · refine kept.there newer' older f data suggested path before stored fun g member touches => ?_
      exact untouched g (List.mem_append_right _ member) (touches.mono effect.keepsDirectories)

/-- All of this holds at any time, by induction on the events. -/
theorem Shared.keeps_after (directory : String) (current : Place) (machine : Machine)
    (events : List Event)
    : (after directory current machine events).Keeps directory current := by
  have start : Keeps directory current { machine } :=
    ⟨fun _ listed => absurd listed List.not_mem_nil, fun _ listed => absurd listed List.not_mem_nil,
      fun newer older f _ _ _ split => absurd split (by simp)⟩
  suffices from_
      : ∀ s, s.Keeps directory current
          → (events.foldl (step directory current) s).Keeps directory current from
    from_ _ start
  induction events with
  | nil => exact fun s kept => kept
  | cons event rest ih =>
      exact fun s kept => ih _ (kept.next (.of_step kept.sound event))

/-- Whatever uploads and removals go on in a directory at whatever times: after an upload has given
its locator, its file has its data until another upload reads the same time for the same name, or
until a removal that comes to its place.
-/
theorem uploads_stay (directory : String) (current : Place) (machine : Machine)
    (events : List Event)
    : (∀ (newer older : List Finished) (f : Finished) (data : List UInt8)
          (suggested path : String),
        (Shared.after directory current machine events).finished = newer ++ f :: older
        → f.stored? = some (data, suggested, path)
        → (∀ g ∈ newer, ¬ g.Touches
            (Shared.after directory current machine events).machine.files current path)
        → (Shared.after directory current machine events).machine.files.read current path
          = .ok data)
      ∧ ∀ f ∈ (Shared.after directory current machine events).finished,
        ∀ g ∈ (Shared.after directory current machine events).finished,
        ∀ (data data' : List UInt8) (suggested suggested' path path' : String),
        f.stored? = some (data, suggested, path) → g.stored? = some (data', suggested', path')
        → (path = path' ↔ f.time? = g.time? ∧ lastName? suggested = lastName? suggested') := by
  have kept := Shared.keeps_after directory current machine events
  refine ⟨kept.there, fun f member g member' data data' suggested suggested' path path' stored
    stored' => ?_⟩
  obtain ⟨time, read, named⟩ := kept.named f member data suggested path stored
  obtain ⟨time', read', named'⟩ := kept.named g member' data' suggested' path' stored'
  rw [storedPath_eq_iff named named', read, read', Option.some.injEq]

/-- Two uploads of one name, one after the other; the clock moves on between them, or not. -/
def twoUploads (now : Nat) : List Event :=
  [.order (.upload [97] "r.xlsx"), .turn 0, .turn 0, .turn 0, .time now,
    .order (.upload [98] "r.xlsx"), .turn 0, .turn 0, .turn 0]

/-- Where the clock has moved on, both files are there. -/
theorem uploads_stay_twoUploads
    : ∃ f g,
        (Shared.after "out" [] {} (twoUploads 1)).finished = [g, f]
        ∧ f.stored? = some ([97], "r.xlsx", "out/0_r.xlsx")
        ∧ g.stored? = some ([98], "r.xlsx", "out/1_r.xlsx")
        ∧ (Shared.after "out" [] {} (twoUploads 1)).machine.files.read [] "out/0_r.xlsx"
          = .ok [97]
        ∧ f.time? ≠ g.time? := by
  have stored
      : (Shared.after "out" [] {} (twoUploads 1)).finished.map (fun f => (f.stored?, f.removed?))
        = [(some ([98], "r.xlsx", "out/1_r.xlsx"), none),
          (some ([97], "r.xlsx", "out/0_r.xlsx"), none)] := by
    decide +kernel
  obtain ⟨there, apart⟩ := uploads_stay "out" [] {} (twoUploads 1)
  generalize (Shared.after "out" [] {} (twoUploads 1)).finished = finished at stored there apart ⊢
  obtain ⟨g, _, rfl, newer, rest⟩ := List.map_eq_cons_iff.mp stored
  obtain ⟨f, _, rfl, older, rest⟩ := List.map_eq_cons_iff.mp rest
  obtain rfl := List.map_eq_nil_iff.mp rest
  obtain ⟨second, notRemoved⟩ := Prod.mk.inj newer
  obtain ⟨first, -⟩ := Prod.mk.inj older
  refine ⟨f, g, rfl, first, second, ?_, fun sameTime => ?_⟩
  · refine there [g] [] f [97] "r.xlsx" "out/0_r.xlsx" rfl first fun other member touches => ?_
    cases List.mem_singleton.mp member
    rcases touches with ⟨_, _, same⟩ | ⟨_, _, removed, -⟩
    · rw [second] at same
      simp at same
    · rw [notRemoved] at removed
      cases removed
  · have different : "out/0_r.xlsx" ≠ "out/1_r.xlsx" := by decide
    have collide := apart f (by simp) g (by simp) _ _ _ _ _ _ first second
    exact different (collide.mpr ⟨sameTime, rfl⟩)

/-- Where the clock stands still, both uploads give the same locator, and what the first one stored
is gone although nothing was removed.
-/
theorem uploads_collide
    : (Shared.after "out" [] {} (twoUploads 0)).finished.map (fun f => (f.stored?, f.removed?))
        = [(some ([98], "r.xlsx", "out/0_r.xlsx"), none),
          (some ([97], "r.xlsx", "out/0_r.xlsx"), none)]
      ∧ ((Shared.after "out" [] {} (twoUploads 0)).machine.files.read [] "out/0_r.xlsx").toOption
        = some [98] := by
  decide +kernel

end Directory

end Spreadsheet.Storage
