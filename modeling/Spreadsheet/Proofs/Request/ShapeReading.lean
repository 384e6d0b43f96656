import Spreadsheet.Proofs.Request.Departures
import Spreadsheet.Request.Decode

/-! Shapes whose values a decoder reads. A value that a shape allows is all that the decoder of
the shape asks for, and the decoder reads no member that the shape does not name; this is stated
once for each way of making a shape.
-/

namespace Spreadsheet.Request

open Spreadsheet.Json

-----------------------------------------------------------------------------------------
-- Two readings with one result
-----------------------------------------------------------------------------------------

/-- Both readings succeed, with the same result. -/
def BothRead (x y : Option α) : Prop := ∃ a, x = some a ∧ y = some a

theorem bothRead_some (a : α) : BothRead (some a) (some a) := ⟨a, rfl, rfl⟩

/-- Steps whose first halves read the same read the same if their second halves do, whatever
they are given.
-/
theorem BothRead.bind {x y : Option α} {f g : α → Option β} (first : BothRead x y)
    (second : ∀ a, BothRead (f a) (g a))
    : BothRead (x >>= f) (y >>= g) := by
  obtain ⟨a, rfl, rfl⟩ := first
  exact second a

theorem BothRead.map {x y : Option α} (both : BothRead x y) (f : α → β)
    : BothRead (x.map f) (y.map f) := by
  obtain ⟨a, rfl, rfl⟩ := both
  exact bothRead_some (f a)

/-- Lists read the same if their items do, one by one, by induction on the first list. -/
theorem bothRead_mapM {f : α → Option β} {list list' : List α}
    (length : list.length = list'.length)
    (each : ∀ (i : Nat) a a', list[i]? = some a → list'[i]? = some a' → BothRead (f a) (f a'))
    : BothRead (list.mapM f) (list'.mapM f) := by
  induction list generalizing list' with
  | nil =>
      cases list' with
      | nil => exact bothRead_some []
      | cons _ _ => cases length
  | cons a rest ih =>
      cases list' with
      | nil => cases length
      | cons a' rest' =>
          rw [List.mapM_cons, List.mapM_cons]
          have later := ih (Nat.succ.inj length) fun i => each (i + 1)
          exact (each 0 a a' rfl rfl).bind fun b => later.bind fun bs => bothRead_some (b :: bs)

namespace Shape

-----------------------------------------------------------------------------------------
-- Values of one shape
-----------------------------------------------------------------------------------------

/-- The decoder reads every value that the shape allows, and reads it as it reads any value
that differs from it in members that the shape does not name.
-/
def Reads (S : Shape) (d : Decoder α) : Prop :=
  ∀ v v', S.Conforms v → S.Alike v v' → BothRead (d v) (d v')

/-- A decoder reads values inside which nothing is looked at if it reads them at all. -/
theorem reads_of_isLeaf {S : Shape} {d : Decoder α} (leaf : S.isLeaf)
    (read : ∀ v, S.Conforms v → ∃ a, d v = some a)
    : S.Reads d := by
  intro v v' conforms alike
  obtain rfl := alike.eq_of_isLeaf leaf conforms.ofKind
  obtain ⟨a, found⟩ := read _ conforms
  exact ⟨a, found, found⟩

theorem string_reads : string.Reads Decoder.string :=
  reads_of_isLeaf rfl fun | .string s, .string => ⟨s, rfl⟩

theorem boolean_reads : boolean.Reads Decoder.boolean :=
  reads_of_isLeaf rfl fun | .bool b, .boolean => ⟨b, rfl⟩

theorem number_reads : number.Reads Decoder.number :=
  reads_of_isLeaf rfl fun
    | .int _, .int => ⟨_, rfl⟩
    | .float _, .float => ⟨_, rfl⟩

theorem textOrNumber_reads : textOrNumber.Reads FormulaTerm.decode :=
  reads_of_isLeaf rfl fun
    | .string _, .text => ⟨_, rfl⟩
    | .int _, .intTerm => ⟨_, rfl⟩
    | .float _, .floatTerm => ⟨_, rfl⟩

/-- An integer from some least one up to the greatest word is a word. -/
theorem integer_reads (least : Nat) : (integer least).Reads Decoder.natural := by
  apply reads_of_isLeaf rfl
  rintro _ ⟨⟩
  next i high low =>
    have word : 0 ≤ i ∧ i < Number.wordLimit 32 := ⟨by omega, high⟩
    exact ⟨i.toNat, by simp [Decoder.natural, word]⟩

/-- A name of the shape's list is the name of a value, if the lists of names agree. -/
theorem oneOf_reads {names : List String} [Named α] (agree : names = Named.names α)
    : (oneOf names).Reads (Decoder.named α) := by
  apply reads_of_isLeaf rfl
  rintro _ ⟨⟩
  next s listed =>
    rw [agree] at listed
    obtain ⟨a, member, rfl⟩ := List.mem_map.mp listed
    exact Option.isSome_iff_exists.mp (List.find?_isSome.mpr ⟨a, member, by simp⟩)

/-- Names that are kept as they are written are texts. -/
theorem oneOf_reads_string (names : List String) : (oneOf names).Reads Decoder.string :=
  reads_of_isLeaf rfl fun | .string s, .oneOf _ => ⟨s, rfl⟩

theorem array_reads {item : Shape} {d : Decoder α} (read : item.Reads d)
    : (array item).Reads (Decoder.list d) := by
  intro v v' conforms alike
  cases conforms with
  | array each =>
      obtain ⟨items', rfl, length, alikes⟩ := alike.of_array
      exact bothRead_mapM length fun i w w' found found' =>
        read w w' (each w (List.mem_of_getElem? found)) (alikes i w w' found found')

theorem someOf_reads {item : Shape} {message : String} {d : Decoder α} (read : item.Reads d)
    : (someOf item message).Reads (Decoder.list d) := by
  intro v v' conforms alike
  cases conforms with
  | someOf _ each =>
      obtain ⟨items', rfl, length, alikes⟩ := alike.of_someOf
      exact bothRead_mapM length fun i w w' found found' =>
        read w w' (each w (List.mem_of_getElem? found)) (alikes i w w' found found')

theorem members_reads {value : Shape} {d : Decoder α} (read : value.Reads d)
    : (members value).Reads (Decoder.entries d) := by
  intro v v' conforms alike
  cases conforms with
  | members each =>
      obtain ⟨ms', rfl, names, alikes⟩ := alike.of_members
      refine bothRead_mapM (by simpa using congrArg List.length names) ?_
      rintro i ⟨name, w⟩ ⟨name', w'⟩ found found'
      obtain rfl : name = name' := by simpa [found, found'] using congrArg (·[i]?) names
      have entry := each _ (List.mem_of_getElem? found)
      exact (read w w' entry (alikes i _ _ found found')).map (name, ·)

/-- An object with any members is read as it is. -/
theorem anyObject_reads : anyObject.Reads Decoder.members := by
  intro v v' conforms alike
  cases conforms with
  | members _ =>
      obtain ⟨ms', rfl, names, alikes⟩ := alike.of_members
      have length := congrArg List.length names
      simp only [List.length_map] at length
      refine ⟨_, rfl, congrArg some (List.ext_getElem length.symm fun i inside' inside => ?_)⟩
      have value := alikes i _ _ (List.getElem?_eq_getElem inside)
        (List.getElem?_eq_getElem inside')
      have name := congrArg (·[i]?) names
      simp only [List.getElem?_map, List.getElem?_eq_getElem inside,
        List.getElem?_eq_getElem inside', Option.map_some, Option.some.injEq] at name
      exact Prod.ext name.symm (value.eq_of_isLeaf rfl Conforms.any.ofKind)

-----------------------------------------------------------------------------------------
-- Members of an object
-----------------------------------------------------------------------------------------

/-- The members of a field in two objects: both may be absent, or the shape of the field allows
the first and finds the second alike.
-/
def Fits (ms ms' : Members) (field : String × Bool × Shape) : Prop :=
  (ms.get? field.1 = none ∧ ms'.get? field.1 = none ∧ field.2.1 = false)
    ∨ ∃ v v', ms.get? field.1 = some v ∧ ms'.get? field.1 = some v'
        ∧ field.2.2.Conforms v ∧ field.2.2.Alike v v'

/-- A decoder of objects reads an object shape if it reads the members of which all fields
fit.
-/
theorem object_reads {fields : List (String × Bool × Shape)} {read : Members → Option α}
    (h : ∀ ms ms', (∀ field ∈ fields, Fits ms ms' field) → BothRead (read ms) (read ms'))
    : (object fields).Reads (fun v => Decoder.members v >>= read) := by
  intro v v' conforms alike
  cases conforms with
  | @object _ ms present each =>
      obtain ⟨ms', rfl, absent, alikes⟩ := alike.of_object
      refine h ms ms' fun field member => ?_
      cases found : ms.get? field.1 with
      | none =>
          have needless : field.2.1 = false := by
            cases needed : field.2.1 with
            | false => rfl
            | true =>
                have must : (field.1, true, field.2.2) ∈ fields := by rwa [← needed]
                exact absurd found (present _ _ must)
          exact .inl ⟨found, (absent field member).mp found, needless⟩
      | some w =>
          cases found' : ms'.get? field.1 with
          | none =>
              rw [(absent field member).mpr found'] at found
              cases found
          | some w' =>
              exact .inr ⟨w, w', found, found', each _ _ _ w member found,
                alikes field member w w' found found'⟩

namespace Fits

variable {ms ms' : Members} {name : String} {S : Shape} {d : Decoder α}

/-- A member that must be there and fits is read. -/
theorem required (fits : Fits ms ms' (name, true, S)) (read : S.Reads d)
    : BothRead (Members.required ms name d) (Members.required ms' name d) := by
  unfold Members.required
  obtain ⟨-, -, needless⟩ | ⟨v, v', found, found', conforms, alike⟩ := fits
  · cases needless
  · rw [found, found']
    exact read v v' conforms alike

theorem optional_of_ne_null {v : Value} (found : ms.get? name = some v) (notNull : v ≠ .null)
    : Members.optional ms name d = (d v).map some := by
  rw [Members.optional, found]
  cases v <;> first | rfl | exact absurd rfl notNull

/-- A member that may be left out is read if it fits. -/
theorem optional {needed : Bool} (fits : Fits ms ms' (name, needed, S)) (read : S.Reads d)
    : BothRead (Members.optional ms name d) (Members.optional ms' name d) := by
  obtain ⟨absent, absent', -⟩ | ⟨v, v', found, found', conforms, alike⟩ := fits
  · rw [Members.optional, Members.optional, absent, absent']
    exact bothRead_some none
  · by_cases null : v = .null
    · rw [Members.optional, Members.optional, found, found', alike.eq_null_iff.mp null, null]
      exact bothRead_some none
    · have null' : v' ≠ .null := fun same => null (alike.eq_null_iff.mpr same)
      rw [optional_of_ne_null found null, optional_of_ne_null found' null']
      exact (read v v' conforms alike).map some

/-- A member with a value of its own is read if it fits. -/
theorem withDefault {needed : Bool} (fits : Fits ms ms' (name, needed, S)) (default : α)
    (read : S.Reads d)
    : BothRead (Members.withDefault ms name default d)
        (Members.withDefault ms' name default d) := by
  unfold Members.withDefault
  obtain ⟨absent, absent', -⟩ | ⟨v, v', found, found', conforms, alike⟩ := fits
  · rw [absent, absent']
    exact bothRead_some default
  · rw [found, found']
    exact read v v' conforms alike

end Fits

end Shape

end Spreadsheet.Request
