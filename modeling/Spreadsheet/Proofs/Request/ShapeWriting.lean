import Mathlib.Data.List.Forall2
import Mathlib.Data.List.Perm.Subperm
import Spreadsheet.Proofs.Json.OrderedMembers
import Spreadsheet.Proofs.Request.ShapeReading
import Spreadsheet.Request.Encode

/-! Values that are written again. What a decoder has read of a value of some shape is written as a
value of the same shape, which is read as what it was. Other than the first value the second one has
no members that the shape does not name, none that are null or empty, and all those that have a
value of their own. This is stated once for each way of making a shape, and for objects one field at
a time.
-/

namespace Spreadsheet.Request

open Spreadsheet.Json

/-- A list is read if each of its items is, and so are the results. -/
theorem mapM_eq_some_iff {f : α → Option β} {list : List α} {results : List β}
    : list.mapM f = some results ↔ List.Forall₂ (fun a b => f a = some b) list results := by
  induction list generalizing results with
  | nil =>
      rw [List.mapM_nil, List.forall₂_nil_left_iff]
      exact Option.some_inj.trans eq_comm
  | cons a rest ih =>
      rw [List.mapM_cons, List.forall₂_cons_left_iff]
      constructor
      · intro read
        obtain ⟨b, first, read⟩ := Option.bind_eq_some_iff.mp read
        obtain ⟨bs, later, same⟩ := Option.bind_eq_some_iff.mp read
        cases same
        exact ⟨b, bs, first, ih.mp later, rfl⟩
      · rintro ⟨b, bs, first, later, rfl⟩
        rw [first, ih.mpr later]
        rfl

namespace Shape

variable {S : Shape} {d : Decoder α} {e : α → Value}

/-- Something is written as a value of the shape, from which it is read again. -/
structure Returns (S : Shape) (d : Decoder α) (e : α → Value) (a : α) : Prop where
  conforms : S.Conforms (e a)
  ordered : (e a).Ordered
  read : d (e a) = some a
  notNull : e a ≠ .null

/-- Whatever the decoder reads of the values of the shape is written so that it is read again. -/
def Settles (S : Shape) (d : Decoder α) (e : α → Value) : Prop :=
  ∀ v a, S.Conforms v → v.Ordered → d v = some a → S.Returns d e a

-----------------------------------------------------------------------------------------
-- Single values
-----------------------------------------------------------------------------------------

theorem string_returns (s : String) : string.Returns Decoder.string .string s :=
  ⟨.string, .string s, rfl, nofun⟩

theorem number_returns (x : Number.Binary64) : number.Returns Decoder.number .float x :=
  ⟨.float, .float x, rfl, nofun⟩

theorem string_settles : string.Settles Decoder.string .string :=
  fun _ s _ _ _ => string_returns s

theorem boolean_settles : boolean.Settles Decoder.boolean .bool :=
  fun _ b _ _ _ => ⟨.boolean, .bool b, rfl, nofun⟩

/-- An integer is written as the number that it was read as. -/
theorem number_settles : number.Settles Decoder.number .float :=
  fun _ x _ _ _ => number_returns x

theorem textOrNumber_settles : textOrNumber.Settles FormulaTerm.decode FormulaTerm.encode
  | _, .text s, _, _, _ => ⟨.text, .string s, rfl, nofun⟩
  | _, .number x, _, _, _ => ⟨.floatTerm, .float x, rfl, nofun⟩

/-- An integer of the shape is a word, and stays the same. -/
theorem integer_settles (least : Nat) : (integer least).Settles Decoder.natural encodeNat := by
  intro v n conforms _ read
  cases conforms with
  | @integer _ i low high =>
      have word : 0 ≤ i ∧ i < Number.wordLimit 32 := ⟨by omega, high⟩
      rw [Decoder.natural, if_pos word, Option.some_inj] at read
      have same : encodeNat n = .int i := by
        rw [← read, encodeNat, Int.toNat_of_nonneg word.1]
      refine ⟨same ▸ .integer low high, same ▸ .int i, ?_, fun null => by cases null⟩
      rw [same, Decoder.natural, if_pos word, read]

theorem name_ofName? [Named α] {s : String} {a : α} (found : Named.ofName? s = some a)
    : Named.name a = s := by
  simpa using List.find?_some found

/-- What was called by a name of the list is written as this name. -/
theorem oneOf_settles {names : List String} [Named α]
    : (oneOf names).Settles (Decoder.named α) encodeName := by
  intro v a conforms _ read
  cases conforms with
  | @oneOf _ s listed =>
      have same : encodeName a = .string s := congrArg Value.string (name_ofName? read)
      exact ⟨same ▸ .oneOf listed, same ▸ .string s, same ▸ read, nofun⟩

/-- Names that are kept as they are written stay the same. -/
theorem oneOf_settles_string (names : List String)
    : (oneOf names).Settles Decoder.string .string := by
  intro v s conforms _ read
  cases conforms with
  | oneOf listed =>
      cases read
      exact ⟨.oneOf listed, .string s, rfl, nofun⟩

/-- An object with any members is written as it was read. -/
theorem anyObject_settles : anyObject.Settles Decoder.members .object := by
  intro v ms conforms ordered read
  cases conforms with
  | members _ =>
      cases read
      exact ⟨.members fun _ _ => .any, ordered, rfl, nofun⟩

-----------------------------------------------------------------------------------------
-- Lists and maps
-----------------------------------------------------------------------------------------

/-- What is read of the items of an array returns item by item. -/
theorem Settles.of_mapM (settles : S.Settles d e) {items : List Value}
    (conforms : ∀ v ∈ items, S.Conforms v) (ordered : ∀ v ∈ items, v.Ordered) {results : List α}
    (read : items.mapM d = some results)
    : ∀ a ∈ results, S.Returns d e a := by
  have pairs := mapM_eq_some_iff.mp read
  clear read
  induction pairs with
  | nil => exact fun _ => (absurd · List.not_mem_nil)
  | cons first _ ih =>
      rw [List.forall_mem_cons] at conforms ordered
      exact List.forall_mem_cons.mpr
        ⟨settles _ _ conforms.1 ordered.1 first, ih conforms.2 ordered.2⟩

theorem mapM_map_of_returns {results : List α} (each : ∀ a ∈ results, S.Returns d e a)
    : (results.map e).mapM d = some results := by
  rw [mapM_eq_some_iff, List.forall₂_map_left_iff, List.forall₂_same]
  exact fun a member => (each a member).read

theorem array_settles (item : S.Settles d e)
    : (array S).Settles (Decoder.list d) fun list => .array (list.map e) := by
  intro v results conforms ordered read
  cases conforms with
  | array values =>
      cases ordered with
      | array orders =>
          have each := item.of_mapM values orders read
          exact ⟨.array (List.forall_mem_map.mpr fun a member => (each a member).conforms),
            .array (List.forall_mem_map.mpr fun a member => (each a member).ordered),
            mapM_map_of_returns each, nofun⟩

theorem someOf_settles {message : String} (item : S.Settles d e)
    : (someOf S message).Settles (Decoder.list d) fun list => .array (list.map e) := by
  intro v results conforms ordered read
  cases conforms with
  | someOf some values =>
      cases ordered with
      | array orders =>
          have each := item.of_mapM values orders read
          have length := (mapM_eq_some_iff.mp read).length_eq
          have some' : results.map e ≠ [] := by
            rw [← List.length_pos_iff, List.length_map, ← length]
            exact List.length_pos_iff.mpr some
          exact ⟨.someOf some' (List.forall_mem_map.mpr fun a member => (each a member).conforms),
            .array (List.forall_mem_map.mpr fun a member => (each a member).ordered),
            mapM_map_of_returns each, nofun⟩

/-- What is read of a map has the names of its members, and their values one by one. -/
theorem of_entries {ms : Members} {results : List (String × α)}
    (read : Decoder.entries d (.object ms) = some results)
    : ms.map Prod.fst = results.map Prod.fst
      ∧ (ms.map Prod.snd).mapM d = some (results.map Prod.snd) := by
  have pairs := mapM_eq_some_iff.mp read
  have entry (m : String × Value) (r : String × α) (read : (d m.2).map (fun a => (m.1, a)) = some r)
      : m.1 = r.1 ∧ d m.2 = some r.2 := by
    obtain ⟨a, found, rfl⟩ := Option.map_eq_some_iff.mp read
    exact ⟨rfl, found⟩
  rw [mapM_eq_some_iff, ← List.forall₂_eq_eq_eq]
  simp only [List.forall₂_map_left_iff, List.forall₂_map_right_iff]
  exact ⟨pairs.imp fun m r read => (entry m r read).1, pairs.imp fun m r read => (entry m r read).2⟩

/-- A map whose names are in order is written in the same order. -/
theorem members_settles (value : S.Settles d e)
    : (members S).Settles (Decoder.entries d) (encodeEntries e) := by
  intro v results conforms ordered read
  cases conforms with
  | @members _ ms values =>
      cases ordered with
      | object order orders =>
          obtain ⟨names, inner⟩ := of_entries read
          have each : ∀ r ∈ results, S.Returns d e r.2 := List.forall_mem_map.mp
            (value.of_mapM (List.forall_mem_map.mpr values) (List.forall_mem_map.mpr orders) inner)
          have again : Members.Ordered (results.map fun r => (r.1, e r.2)) := by
            have increasing : (ms.map Prod.fst).Pairwise (· < ·) := List.pairwise_map.mpr order
            rw [names, List.pairwise_map] at increasing
            exact List.pairwise_map.mpr increasing
          have same : encodeEntries e results = .object (results.map fun r => (r.1, e r.2)) :=
            congrArg Value.object again.ofList_eq
          refine ⟨?_, ?_, ?_, nofun⟩
          · rw [same]
            exact .members (List.forall_mem_map.mpr fun r member => (each r member).conforms)
          · rw [same]
            exact .object again (List.forall_mem_map.mpr fun r member => (each r member).ordered)
          · rw [same, Decoder.entries, mapM_eq_some_iff, List.forall₂_map_left_iff,
              List.forall₂_same]
            intro r member
            exact Option.map_eq_some_iff.mpr ⟨r.2, (each r member).read, rfl⟩

-----------------------------------------------------------------------------------------
-- Fields
-----------------------------------------------------------------------------------------

/-- A member that there is of the field has its shape and its own members in order. -/
def Suits (ms : Members) (field : String × Bool × Shape) : Prop :=
  ∀ v, ms.get? field.1 = some v → field.2.2.Conforms v ∧ v.Ordered

/-- The slot holds a member for the field, or none if it needs none. -/
structure Fills (field : String × Bool × Shape) (slot : Slot) : Prop where
  name : ∀ entry ∈ slot, entry.1 = field.1
  present : field.2.1 = true → slot.isSome
  conforms : ∀ entry ∈ slot, field.2.2.Conforms entry.2
  ordered : ∀ entry ∈ slot, entry.2.Ordered

/-- The member of the field is the one in the slot. -/
def Holds (ms : Members) (field : String × Bool × Shape) (slot : Slot) : Prop :=
  ms.get? field.1 = slot.map (·.2)

/-- What is read of the field fills a slot, and it is read again of members that hold the slot. -/
def Keeps (ms : Members) (field : String × Bool × Shape) (read : Members → Option α)
    (slot : α → Slot) : Prop :=
  ∀ a, read ms = some a
    → Fills field (slot a) ∧ ∀ ms', Holds ms' field (slot a) → read ms' = some a

theorem Returns.fills {a : α} (returns : S.Returns d e a) (name : String) (needed : Bool)
    : Fills (name, needed, S) (some (name, e a)) where
  name _ member := by cases member; rfl
  present _ := rfl
  conforms _ member := by cases member; exact returns.conforms
  ordered _ member := by cases member; exact returns.ordered

theorem fills_none (name : String) (S : Shape) : Fills (name, false, S) none :=
  ⟨nofun, nofun, nofun, nofun⟩

namespace Suits

variable {ms : Members} {name : String}

theorem required (suits : Suits ms (name, true, S)) (settles : S.Settles d e)
    : Keeps ms (name, true, S) (Members.required · name d) fun a => Slot.always name (e a) := by
  intro a read
  obtain ⟨v, found, read⟩ := Option.bind_eq_some_iff.mp read
  obtain ⟨conforms, ordered⟩ := suits v found
  have returns := settles v a conforms ordered read
  refine ⟨returns.fills name true, fun ms' holds => ?_⟩
  exact Option.bind_eq_some_iff.mpr ⟨e a, holds, returns.read⟩

theorem exists_of_optional {a : α} (read : Members.optional ms name d = some (some a))
    : ∃ v, ms.get? name = some v ∧ d v = some a := by
  unfold Members.optional at read
  split at read
  · cases read
  · cases read
  · next v _ found =>
      obtain ⟨b, inner, same⟩ := Option.map_eq_some_iff.mp read
      cases same
      exact ⟨v, found, inner⟩

theorem optional_of_absent (absent : ms.get? name = none)
    : Members.optional ms name d = some none := by
  rw [Members.optional, absent]

/-- What is absent or null is left out. -/
theorem optional (suits : Suits ms (name, false, S)) (settles : S.Settles d e)
    : Keeps ms (name, false, S) (Members.optional · name d) (Slot.optional name e) := by
  intro a read
  cases a with
  | none => exact ⟨fills_none name S, fun ms' holds => optional_of_absent holds⟩
  | some a =>
      obtain ⟨v, found, inner⟩ := exists_of_optional read
      obtain ⟨conforms, ordered⟩ := suits v found
      have returns := settles v a conforms ordered inner
      refine ⟨returns.fills name false, fun ms' holds => ?_⟩
      exact (Fits.optional_of_ne_null holds returns.notNull).trans
        (congrArg (Option.map some) returns.read)

/-- What has a value of its own is this value, or else it was read. -/
theorem returns_of_withDefault (suits : Suits ms (name, false, S)) (settles : S.Settles d e)
    {default a : α} (read : Members.withDefault ms name default d = some a)
    : a = default ∨ S.Returns d e a := by
  unfold Members.withDefault at read
  split at read
  · cases read
    exact .inl rfl
  · next v found =>
      obtain ⟨conforms, ordered⟩ := suits v found
      exact .inr (settles v a conforms ordered read)

theorem withDefault_of_absent (absent : ms.get? name = none) (default : α)
    : Members.withDefault ms name default d = some default := by
  rw [Members.withDefault, absent]

theorem withDefault_of_found {default : α} {v : Value} (found : ms.get? name = some v)
    : Members.withDefault ms name default d = d v := by
  rw [Members.withDefault, found]

/-- What has a value of its own is always written. -/
theorem withDefault (suits : Suits ms (name, false, S)) (settles : S.Settles d e) {default : α}
    (own : S.Returns d e default)
    : Keeps ms (name, false, S) (Members.withDefault · name default d)
        fun a => Slot.always name (e a) := by
  intro a read
  have returns : S.Returns d e a := by
    rcases returns_of_withDefault suits settles read with rfl | returns
    · exact own
    · exact returns
  refine ⟨returns.fills name false, fun ms' holds => ?_⟩
  exact (withDefault_of_found holds).trans returns.read

/-- What is empty is left out, and absent it is empty again. -/
theorem unlessEmpty {d : Decoder (List β)} {e : List β → Value}
    (suits : Suits ms (name, false, S)) (settles : S.Settles d e)
    : Keeps ms (name, false, S) (Members.withDefault · name [] d)
        fun list => if list.isEmpty then none else some (name, e list) := by
  intro list read
  cases list with
  | nil => exact ⟨fills_none name S, fun ms' holds => withDefault_of_absent holds []⟩
  | cons a rest =>
      have returns := (returns_of_withDefault suits settles read).resolve_left
        (List.cons_ne_nil a rest)
      refine ⟨returns.fills name false, fun ms' holds => ?_⟩
      exact (withDefault_of_found holds).trans returns.read

theorem list (suits : Suits ms (name, false, .array S)) (settles : S.Settles d e)
    : Keeps ms (name, false, .array S) (Members.withDefault · name [] (Decoder.list d))
        (Slot.list name e) :=
  unlessEmpty suits (array_settles settles)

end Suits

-----------------------------------------------------------------------------------------
-- Objects
-----------------------------------------------------------------------------------------

/-- Fields with the slots that they fill. -/
abbrev Filling := List ((String × Bool × Shape) × Slot)

namespace Filling

/-- Each slot holds a member for its field. -/
def Full (f : Filling) : Prop := ∀ place ∈ f, Fills place.1 place.2

/-- Members that hold all slots. -/
def HeldBy (f : Filling) (ms : Members) : Prop := ∀ place ∈ f, Holds ms place.1 place.2

/-- The members in the slots. -/
def entries (f : Filling) : List (String × Value) := (f.map (·.2)).filterMap id

variable {f : Filling}

theorem mem_entries {entry : String × Value}
    : entry ∈ f.entries ↔ ∃ place ∈ f, place.2 = some entry := by
  simp [entries]

/-- Members stand under the names of their fields. -/
theorem Full.names_sublist (full : f.Full)
    : (f.entries.map Prod.fst).Sublist (f.map (·.1.1)) := by
  induction f with
  | nil => exact .slnil
  | cons place rest ih =>
      obtain ⟨first, later⟩ := List.forall_mem_cons.mp full
      obtain ⟨field, slot⟩ := place
      cases slot with
      | none => exact (ih later).cons _
      | some entry =>
          have name : entry.1 = field.1 := first.name entry rfl
          rw [List.map_cons, ← name]
          exact (ih later).cons_cons _

/-- An object of the members in the slots holds them all. -/
theorem Full.heldBy (full : f.Full) (distinct : (f.map (·.1.1)).Nodup)
    : f.HeldBy (Members.ofList f.entries) := by
  intro place member
  cases slot : place.2 with
  | some entry =>
      have name := (full place member).name entry slot
      have found := Members.get?_ofList_of_mem (full.names_sublist.nodup distinct)
        (mem_entries.mpr ⟨place, member, slot⟩)
      rw [Holds, ← name, found, Option.map_some]
  | none =>
      refine Members.get?_ofList_of_not_mem fun listed => ?_
      obtain ⟨entry, among, same⟩ := List.mem_map.mp listed
      obtain ⟨other, member', slot'⟩ := mem_entries.mp among
      have name := (full other member').name entry slot'
      have here := List.inj_on_of_nodup_map distinct member' member (name.symm.trans same)
      rw [here, slot] at slot'
      cases slot'

/-- Members that hold a slot for each field of an object have its shape. -/
theorem Full.conforms (full : f.Full) {ms : Members} (held : f.HeldBy ms)
    {fields : List (String × Bool × Shape)} (all : (f.map (·.1)).Perm fields)
    : (object fields).Conforms (.object ms) := by
  have place (field : String × Bool × Shape) (member : field ∈ fields)
      : ∃ slot, Fills field slot ∧ Holds ms field slot := by
    obtain ⟨⟨_, slot⟩, inside, rfl⟩ := List.mem_map.mp (all.mem_iff.mpr member)
    exact ⟨slot, full _ inside, held _ inside⟩
  refine .object (fun name S member absent => ?_) fun name needed S v member found => ?_
  · obtain ⟨slot, fills, holds⟩ := place _ member
    have some := fills.present rfl
    rw [Holds, absent] at holds
    rw [Option.map_eq_none_iff.mp holds.symm] at some
    cases some
  · obtain ⟨slot, fills, holds⟩ := place _ member
    rw [Holds, found] at holds
    obtain ⟨entry, filled, rfl⟩ := Option.map_eq_some_iff.mp holds.symm
    exact fills.conforms entry filled

theorem Full.ordered (full : f.Full) : (Value.object (Members.ofList f.entries)).Ordered := by
  refine .object (Members.ordered_ofList _) fun entry member => ?_
  obtain ⟨place, inside, filled⟩ := mem_entries.mp (Members.mem_of_mem_ofList member)
  exact (full place inside).ordered entry filled

end Filling

/-- The rest of a decoder, after the fields that are filled already: what it reads is written by
filling all fields of the shape, and is read again by the rest.
-/
def Continues (ms : Members) (fields : List (String × Bool × Shape)) (e : α → Value)
    (before : Filling) (read : Members → Option α) : Prop :=
  ∀ a, read ms = some a → before.Full
    → ∃ f : Filling, before ⊆ f ∧ f.Full ∧ (f.map (·.1)).Perm fields ∧ e a = objectOf (f.map (·.2))
      ∧ ∀ ms', f.HeldBy ms' → read ms' = some a

/-- The last step has all fields filled. -/
theorem Continues.done {ms : Members} {fields : List (String × Bool × Shape)} {before : Filling}
    {a : α} (written : e a = objectOf (before.map (·.2)))
    (all : (before.map (·.1)).Perm fields)
    : Continues ms fields e before fun _ => some a := by
  intro b read full
  cases read
  exact ⟨before, List.Subset.refl _, full, all, written, fun _ _ => rfl⟩

/-- A step fills one field more. -/
theorem Keeps.bind {ms : Members} {fields : List (String × Bool × Shape)} {e : β → Value}
    {before : Filling} {field : String × Bool × Shape} {read : Members → Option α} {slot : α → Slot}
    {next : Members → α → Option β} (keeps : Keeps ms field read slot)
    (later : ∀ a, Continues ms fields e (before ++ [(field, slot a)]) fun ms => next ms a)
    : Continues ms fields e before fun ms => read ms >>= next ms := by
  intro b both full
  obtain ⟨a, first, second⟩ := Option.bind_eq_some_iff.mp both
  obtain ⟨fills, again⟩ := keeps a first
  have full' : Filling.Full (before ++ [(field, slot a)]) :=
    List.forall_mem_append.mpr ⟨full, List.forall_mem_singleton.mpr fills⟩
  obtain ⟨f, among, fullAll, all, written, reread⟩ := later a b second full'
  obtain ⟨before', here⟩ := List.append_subset.mp among
  refine ⟨f, before', fullAll, all, written, fun ms' held => ?_⟩
  have holds := held _ (here (List.mem_singleton_self _))
  exact Option.bind_eq_some_iff.mpr ⟨a, again ms' holds, reread ms' held⟩

/-- The last step may be a field. -/
theorem Keeps.last {ms : Members} {fields : List (String × Bool × Shape)} {e : α → Value}
    {before : Filling} {field : String × Bool × Shape} {read : Members → Option α} {slot : α → Slot}
    (keeps : Keeps ms field read slot)
    (later : ∀ a, Continues ms fields e (before ++ [(field, slot a)]) fun _ => some a)
    : Continues ms fields e before read := by
  have step : Continues ms fields e before fun ms => read ms >>= fun a => some a := keeps.bind later
  simpa using step

/-- Fields may be filled in any order. -/
theorem perm_of_subset {fields filled : List (String × Bool × Shape)}
    (distinct : (fields.map (·.1)).Nodup) (among : fields ⊆ filled)
    (few : filled.length ≤ fields.length)
    : filled.Perm fields :=
  ((List.subperm_of_subset (distinct.of_map _) among).perm_of_length_le few).symm

/-- What is read of an object returns if the fields are read and filled one after the other. -/
theorem object_settles {fields : List (String × Bool × Shape)} {read : Members → Option α}
    (distinct : (fields.map (·.1)).Nodup)
    (steps : ∀ ms, (∀ field ∈ fields, Suits ms field) → Continues ms fields e [] read)
    : (object fields).Settles (fun v => Decoder.members v >>= read) e := by
  intro v a conforms ordered found
  cases conforms with
  | @object _ ms present each =>
      cases ordered with
      | object order orders =>
          have suits : ∀ field ∈ fields, Suits ms field := by
            intro field member v found
            obtain ⟨entry, inside, rfl⟩ := Option.map_eq_some_iff.mp found
            exact ⟨each _ _ _ _ member found, orders entry (List.mem_of_find?_eq_some inside)⟩
          obtain ⟨f, -, full, all, written, again⟩ := steps ms suits a found nofun
          have apart : (f.map (·.1.1)).Nodup := by
            have names := (all.map (·.1)).nodup_iff.mpr distinct
            rwa [List.map_map] at names
          have held := full.heldBy apart
          have same : e a = .object (Members.ofList f.entries) := written
          refine ⟨?_, ?_, ?_, ?_⟩
          · rw [same]
            exact full.conforms held all
          · rw [same]
            exact full.ordered
          · rw [same]
            exact again _ held
          · rw [same]
            nofun

end Shape

end Spreadsheet.Request
