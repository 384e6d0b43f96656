import Mathlib.Algebra.Group.Int.Defs
import Mathlib.Data.List.Basic
import Spreadsheet.Request.Shape

/-! What it means to depart from a shape, said of one place at a time: which values a shape is
about, what is wrong with a value as a whole, and which values inside it are looked at. The list
of issues holds these departures and no others, and it does not depend on members that a shape
does not name.
-/

namespace Spreadsheet.Request

open Spreadsheet.Json

namespace Shape

-----------------------------------------------------------------------------------------
-- Induction on shapes
-----------------------------------------------------------------------------------------

/-- Shapes of values inside which nothing is looked at. -/
def isLeaf : Shape → Bool
  | .any | .string | .number | .boolean | .textOrNumber | .integer _ | .oneOf _ => true
  | .array _ | .someOf _ _ | .members _ | .object _ => false

/-- Whatever a shape inherits from the shapes in it holds of every shape. -/
theorem induction {motive : Shape → Prop} (leaf : ∀ S, isLeaf S → motive S)
    (array : ∀ item, motive item → motive (.array item))
    (someOf : ∀ item message, motive item → motive (.someOf item message))
    (members : ∀ value, motive value → motive (.members value))
    (object : ∀ fields, (∀ field ∈ fields, motive field.2.2) → motive (.object fields))
    (S : Shape)
    : motive S := by
  refine @Shape.rec motive (fun fields => ∀ field ∈ fields, motive field.2.2)
    (fun field => motive field.2.2) (fun field => motive field.2)
    (leaf _ rfl) (leaf _ rfl) (leaf _ rfl) (leaf _ rfl) (leaf _ rfl)
    (fun _ => leaf _ rfl) (fun _ => leaf _ rfl) array someOf members object
    ?_ ?_ (fun _ _ shape => shape) (fun _ _ shape => shape) S
  · simp
  · exact fun _ _ first rest => List.forall_mem_cons.mpr ⟨first, rest⟩

-----------------------------------------------------------------------------------------
-- Departures, one place at a time
-----------------------------------------------------------------------------------------

/-- The kinds of values that a shape is about. -/
def kinds : Shape → List String
  | .any => ["null", "boolean", "number", "string", "array", "object"]
  | .string | .oneOf _ => ["string"]
  | .number | .integer _ => ["number"]
  | .boolean => ["boolean"]
  | .textOrNumber => ["string", "number"]
  | .array _ | .someOf _ _ => ["array"]
  | .members _ | .object _ => ["object"]

/-- A value of a kind that the shape is about. -/
def OfKind (S : Shape) (v : Value) : Prop := kindName v ∈ S.kinds

instance (S : Shape) (v : Value) : Decidable (S.OfKind v) :=
  inferInstanceAs (Decidable (kindName v ∈ S.kinds))

/-- What is wrong with a value as a whole. -/
inductive FaultAt : Shape → Value → Fault → Prop
  | kind {S v} : ¬S.OfKind v → FaultAt S v (.kind (" or ".intercalate S.kinds) (kindName v))
  | unknownName {names s}
    : s ∉ names → FaultAt (.oneOf names) (.string s) (.unknownName names s)
  | outOfRange {least : Nat} {i : Int}
    : ¬(least ≤ i ∧ i < 2 ^ 32) → FaultAt (.integer least) (.int i) (.notAnInteger least)
  | fraction {least x} : FaultAt (.integer least) (.float x) (.notAnInteger least)
  | empty {item message} : FaultAt (.someOf item message) (.array []) (.stated message)

/-- A value inside another that is looked at: the step to it and its shape. Nothing is looked at
inside a value of the wrong kind.
-/
inductive Part : Shape → Value → Step → Shape → Value → Prop
  | item {item items i v} : items[i]? = some v → Part (.array item) (.array items) (.item i) item v
  | someItem {item message items i v}
    : items[i]? = some v → Part (.someOf item message) (.array items) (.item i) item v
  | entry {value ms name v}
    : (name, v) ∈ ms → Part (.members value) (.object ms) (.member name) value v
  | field {fields} {ms : Members} {name required S v}
    : (name, required, S) ∈ fields → ms.get? name = some v
      → Part (.object fields) (.object ms) (.member name) S v

/-- A place inside a value, and what is wrong there. -/
inductive Departs : Shape → Value → Path → Fault → Prop
  | here {S v fault} : FaultAt S v fault → Departs S v [] fault
  | absent {fields} {ms : Members} {name S}
    : (name, true, S) ∈ fields → ms.get? name = none
      → Departs (.object fields) (.object ms) [.member name] .required
  | inside {S v step T w path fault}
    : Part S v step T w → Departs T w path fault → Departs S v (step :: path) fault

/-- The values that a grammar of shapes allows. -/
inductive Conforms : Shape → Value → Prop
  | any {v} : Conforms .any v
  | string {s} : Conforms .string (.string s)
  | int {i} : Conforms .number (.int i)
  | float {x} : Conforms .number (.float x)
  | boolean {b} : Conforms .boolean (.bool b)
  | text {s} : Conforms .textOrNumber (.string s)
  | intTerm {i} : Conforms .textOrNumber (.int i)
  | floatTerm {x} : Conforms .textOrNumber (.float x)
  | integer {least : Nat} {i : Int} : least ≤ i → i < 2 ^ 32 → Conforms (.integer least) (.int i)
  | oneOf {names s} : s ∈ names → Conforms (.oneOf names) (.string s)
  | array {item items} : (∀ v ∈ items, Conforms item v) → Conforms (.array item) (.array items)
  | someOf {item message items}
    : items ≠ [] → (∀ v ∈ items, Conforms item v)
      → Conforms (.someOf item message) (.array items)
  | members {value ms}
    : (∀ entry ∈ ms, Conforms value entry.2) → Conforms (.members value) (.object ms)
  | object {fields} {ms : Members}
    : (∀ name S, (name, true, S) ∈ fields → ms.get? name ≠ none)
      → (∀ name required S v, (name, required, S) ∈ fields → ms.get? name = some v
          → Conforms S v)
      → Conforms (.object fields) (.object ms)

theorem faultAt_oneOf {names : List String} {s : String} {fault : Fault}
    : (oneOf names).FaultAt (.string s) fault ↔ fault = .unknownName names s ∧ s ∉ names := by
  constructor
  · rintro (wrong | unknown)
    · exact absurd (List.mem_singleton.mpr rfl) wrong
    · exact ⟨rfl, unknown⟩
  · rintro ⟨rfl, unknown⟩
    exact .unknownName unknown

theorem faultAt_int {least : Nat} {i : Int} {fault : Fault}
    : (integer least).FaultAt (.int i) fault
      ↔ fault = .notAnInteger least ∧ ¬(least ≤ i ∧ i < 2 ^ 32) := by
  constructor
  · rintro (wrong | _ | outside)
    · exact absurd (List.mem_singleton.mpr rfl) wrong
    · exact ⟨rfl, outside⟩
  · rintro ⟨rfl, outside⟩
    exact .outOfRange outside

theorem faultAt_float {least : Nat} {x : Number.Binary64} {fault : Fault}
    : (integer least).FaultAt (.float x) fault ↔ fault = .notAnInteger least := by
  constructor
  · rintro (wrong | _ | _ | _)
    · exact absurd (List.mem_singleton.mpr rfl) wrong
    · rfl
  · rintro rfl
    exact .fraction

theorem faultAt_someOf {item : Shape} {message : String} {items : List Value} {fault : Fault}
    : (someOf item message).FaultAt (.array items) fault
      ↔ fault = .stated message ∧ items = [] := by
  constructor
  · rintro (wrong | _ | _ | _ | _)
    · exact absurd (List.mem_singleton.mpr rfl) wrong
    · exact ⟨rfl, rfl⟩
  · rintro ⟨rfl, rfl⟩
    exact .empty

section Inversion

variable {S : Shape} {v : Value} {path : Path} {fault : Fault}

theorem Part.ofKind {step : Step} {T : Shape} {w : Value} (part : Part S v step T w)
    : S.OfKind v := by
  cases part <;> exact List.mem_singleton.mpr rfl

/-- A value of the wrong kind has that fault and no other. -/
theorem departs_iff_of_not_ofKind (wrong : ¬S.OfKind v)
    : S.Departs v path fault
      ↔ path = [] ∧ fault = .kind (" or ".intercalate S.kinds) (kindName v) := by
  constructor
  · intro departs
    cases departs with
    | here at_ =>
        cases at_ with
        | kind _ => exact ⟨rfl, rfl⟩
        | unknownName _ | outOfRange _ | fraction | empty =>
            exact absurd (List.mem_singleton.mpr rfl) wrong
    | absent _ _ => exact absurd (List.mem_singleton.mpr rfl) wrong
    | inside part _ => exact absurd part.ofKind wrong
  · rintro ⟨rfl, rfl⟩
    exact .here (.kind wrong)

theorem departs_iff_of_isLeaf (leaf : S.isLeaf)
    : S.Departs v path fault ↔ path = [] ∧ S.FaultAt v fault := by
  constructor
  · intro departs
    cases departs with
    | here at_ => exact ⟨rfl, at_⟩
    | absent _ _ => cases leaf
    | inside part _ => cases part <;> cases leaf
  · rintro ⟨rfl, at_⟩
    exact .here at_

/-- The items of an array are looked at one by one. -/
theorem departs_array {item : Shape} {items : List Value}
    : (array item).Departs (.array items) path fault
      ↔ ∃ i w rest, items[i]? = some w ∧ path = .item i :: rest ∧ item.Departs w rest fault := by
  constructor
  · rintro (at_ | _ | ⟨part, below⟩)
    · cases at_ with
      | kind wrong => exact absurd (List.mem_singleton.mpr rfl) wrong
    · cases part with
      | item found => exact ⟨_, _, _, found, rfl, below⟩
  · rintro ⟨i, w, rest, found, rfl, below⟩
    exact .inside (.item found) below

theorem departs_someOf {item : Shape} {message : String} {items : List Value}
    : (someOf item message).Departs (.array items) path fault
      ↔ (path = [] ∧ fault = .stated message ∧ items = [])
        ∨ ∃ i w rest, items[i]? = some w ∧ path = .item i :: rest ∧ item.Departs w rest fault := by
  constructor
  · rintro (at_ | _ | ⟨part, below⟩)
    · exact .inl ⟨rfl, faultAt_someOf.mp at_⟩
    · cases part with
      | someItem found => exact .inr ⟨_, _, _, found, rfl, below⟩
  · rintro (⟨rfl, empty⟩ | ⟨i, w, rest, found, rfl, below⟩)
    · exact .here (faultAt_someOf.mpr empty)
    · exact .inside (.someItem found) below

theorem departs_members {value : Shape} {ms : Members}
    : (members value).Departs (.object ms) path fault
      ↔ ∃ entry ∈ ms, ∃ rest, path = .member entry.1 :: rest
          ∧ value.Departs entry.2 rest fault := by
  constructor
  · rintro (at_ | _ | ⟨part, below⟩)
    · cases at_ with
      | kind wrong => exact absurd (List.mem_singleton.mpr rfl) wrong
    · cases part with
      | entry member => exact ⟨_, member, _, rfl, below⟩
  · rintro ⟨entry, member, rest, rfl, below⟩
    exact .inside (.entry member) below

/-- What is wrong with the member of a field, and where below the member: it may be absent,
and it is looked at if it is there.
-/
def FieldDeparts (ms : Members) (field : String × Bool × Shape) (path : Path) (fault : Fault)
    : Prop :=
  match ms.get? field.1 with
  | none => field.2.1 = true ∧ path = [] ∧ fault = .required
  | some v => field.2.2.Departs v path fault

theorem departs_object {fields : List (String × Bool × Shape)} {ms : Members}
    : (object fields).Departs (.object ms) path fault
      ↔ ∃ field ∈ fields, ∃ rest, path = .member field.1 :: rest
          ∧ FieldDeparts ms field rest fault := by
  constructor
  · rintro (at_ | ⟨member, absent⟩ | ⟨part, below⟩)
    · cases at_ with
      | kind wrong => exact absurd (List.mem_singleton.mpr rfl) wrong
    · refine ⟨_, member, _, rfl, ?_⟩
      simp [FieldDeparts, absent]
    · cases part with
      | field member found =>
          refine ⟨_, member, _, rfl, ?_⟩
          simpa [FieldDeparts, found] using below
  · rintro ⟨⟨name, required, S⟩, member, rest, rfl, departs⟩
    simp only [FieldDeparts] at departs
    split at departs
    · next absent =>
        obtain ⟨rfl, rfl, rfl⟩ := departs
        exact .absent member absent
    · next v found => exact .inside (.field member found) departs

end Inversion

-----------------------------------------------------------------------------------------
-- The list of issues
-----------------------------------------------------------------------------------------

theorem issues_of_not_ofKind {S : Shape} {v : Value} (wrong : ¬S.OfKind v) (path : Path)
    : S.issues path v = [⟨path, .kind (" or ".intercalate S.kinds) (kindName v)⟩] := by
  cases S <;> cases v <;>
    first | rfl | exact absurd (by simp [OfKind, kinds, kindName]) wrong

/-- Of a value of the right kind, a name may be unknown and an integer out of range. -/
theorem mem_issues_of_isLeaf {S : Shape} {v : Value} (leaf : S.isLeaf) (kind : S.OfKind v)
    (base path : Path) (fault : Fault)
    : ⟨path, fault⟩ ∈ S.issues base v ↔ path = base ∧ S.FaultAt v fault := by
  have sound {T : Shape} (only : T.FaultAt v fault → ¬T.OfKind v) (none : T.issues base v = [])
      (kind : T.OfKind v)
      : ⟨path, fault⟩ ∈ T.issues base v ↔ path = base ∧ T.FaultAt v fault := by
    rw [none]
    exact iff_of_false List.not_mem_nil fun ⟨_, at_⟩ => only at_ kind
  cases S with
  | array _ | someOf _ _ | members _ | object _ => cases leaf
  | any | string | number | boolean | textOrNumber =>
      refine sound (fun | .kind wrong => wrong) ?_ kind
      cases v <;> first | rfl | simp [OfKind, kinds, kindName] at kind
  | integer least =>
      cases v with
      | int i =>
          have limit : (integerLimit : Int) = 2 ^ 32 := rfl
          rw [issues, faultAt_int, limit]
          split
          · next inside => exact iff_of_false List.not_mem_nil fun ⟨_, _, outside⟩ => outside inside
          · next outside =>
              simp only [List.mem_singleton, Issue.mk.injEq, outside, not_false_eq_true, and_true]
      | float x => simp [issues, faultAt_float]
      | null | bool _ | string _ | array _ | object _ => simp [OfKind, kinds, kindName] at kind
  | oneOf names =>
      cases v with
      | string s =>
          rw [issues, faultAt_oneOf]
          split
          · next listed => simp [List.contains_iff_mem.mp listed]
          · next unknown =>
              simp [show s ∉ names from fun listed => unknown (List.contains_iff_mem.mpr listed)]
      | null | bool _ | int _ | float _ | array _ | object _ =>
          simp [OfKind, kinds, kindName] at kind

/-- The issues of the member of one field. -/
def memberIssues (path : Path) (ms : Members) (field : String × Bool × Shape) : List Issue :=
  match ms.get? field.1 with
  | none => if field.2.1 then [⟨path ++ [.member field.1], .required⟩] else []
  | some v => field.2.2.issues (path ++ [.member field.1]) v

theorem fieldIssues_eq_flatMap (fields : List (String × Bool × Shape)) (path : Path)
    (ms : Members)
    : fieldIssues fields path ms = fields.flatMap (memberIssues path ms) := by
  induction fields with
  | nil => rfl
  | cons field rest ih => rw [fieldIssues, List.flatMap_cons, ← ih]; rfl

/-- The issues of the shape are its departures, whatever the value. -/
def ListsDepartures (S : Shape) : Prop :=
  ∀ base v path fault,
    ⟨path, fault⟩ ∈ S.issues base v ↔ ∃ rest, path = base ++ rest ∧ S.Departs v rest fault

theorem mem_issues_of_not_ofKind {S : Shape} {v : Value} (wrong : ¬S.OfKind v)
    (base path : Path) (fault : Fault)
    : ⟨path, fault⟩ ∈ S.issues base v
      ↔ ∃ rest, path = base ++ rest ∧ S.Departs v rest fault := by
  simp [issues_of_not_ofKind wrong, departs_iff_of_not_ofKind wrong]

/-- The issues of an array's items are the departures inside it. -/
theorem ListsDepartures.mem_items {item : Shape} (lists : item.ListsDepartures)
    (items : List Value) (base path : Path) (fault : Fault)
    : ⟨path, fault⟩ ∈ items.zipIdx.flatMap (fun (v, i) => item.issues (base ++ [.item i]) v)
      ↔ ∃ rest, path = base ++ rest
          ∧ ∃ i w below, items[i]? = some w ∧ rest = .item i :: below
            ∧ item.Departs w below fault := by
  simp only [List.mem_flatMap, Prod.exists, List.mem_zipIdx_iff_getElem?]
  constructor
  · rintro ⟨w, i, found, listed⟩
    obtain ⟨below, rfl, departs⟩ := (lists _ _ _ _).mp listed
    exact ⟨.item i :: below, by simp, i, w, below, found, rfl, departs⟩
  · rintro ⟨_, rfl, i, w, below, found, rfl, departs⟩
    exact ⟨w, i, found, (lists _ _ _ _).mpr ⟨below, by simp, departs⟩⟩

theorem ListsDepartures.members {value : Shape} (lists : value.ListsDepartures)
    : (members value).ListsDepartures := by
  intro base v path fault
  cases v with
  | object ms =>
      simp only [issues, departs_members, List.mem_flatMap]
      constructor
      · rintro ⟨entry, member, listed⟩
        obtain ⟨below, rfl, departs⟩ := (lists _ _ _ _).mp listed
        exact ⟨.member entry.1 :: below, by simp, entry, member, below, rfl, departs⟩
      · rintro ⟨_, rfl, entry, member, below, rfl, departs⟩
        exact ⟨entry, member, (lists _ _ _ _).mpr ⟨below, by simp, departs⟩⟩
  | null | bool _ | int _ | float _ | string _ | array _ =>
      exact mem_issues_of_not_ofKind (by simp [OfKind, kinds, kindName]) ..

/-- The issues of a field are the departures of its member. -/
theorem mem_memberIssues {field : String × Bool × Shape} (lists : field.2.2.ListsDepartures)
    (base : Path) (ms : Members) (path : Path) (fault : Fault)
    : ⟨path, fault⟩ ∈ memberIssues base ms field
      ↔ ∃ below, path = base ++ .member field.1 :: below
          ∧ FieldDeparts ms field below fault := by
  unfold memberIssues FieldDeparts
  cases ms.get? field.1 with
  | none => cases field.2.1 <;> simp
  | some w =>
      simp only [lists (base ++ [.member field.1]) w path fault, List.append_assoc,
        List.singleton_append]

theorem ListsDepartures.object {fields : List (String × Bool × Shape)}
    (lists : ∀ field ∈ fields, field.2.2.ListsDepartures)
    : (object fields).ListsDepartures := by
  intro base v path fault
  cases v with
  | object ms =>
      simp only [issues, fieldIssues_eq_flatMap, departs_object, List.mem_flatMap]
      constructor
      · rintro ⟨field, member, listed⟩
        obtain ⟨below, rfl, departs⟩ := (mem_memberIssues (lists field member) ..).mp listed
        exact ⟨_, rfl, field, member, below, rfl, departs⟩
      · rintro ⟨_, rfl, field, member, below, rfl, departs⟩
        exact ⟨field, member, (mem_memberIssues (lists field member) ..).mpr ⟨below, rfl, departs⟩⟩
  | null | bool _ | int _ | float _ | string _ | array _ =>
      exact mem_issues_of_not_ofKind (by simp [OfKind, kinds, kindName]) ..

/-- The list of issues holds the departures and nothing else, by induction on the shape. -/
theorem mem_issues_iff (S : Shape) : S.ListsDepartures := by
  induction S using induction with
  | leaf S leaf =>
      intro base v path fault
      by_cases kind : S.OfKind v
      · rw [mem_issues_of_isLeaf leaf kind]
        simp [departs_iff_of_isLeaf leaf]
      · exact mem_issues_of_not_ofKind kind ..
  | array item lists =>
      intro base v path fault
      cases v with
      | array items =>
          simp only [issues, departs_array]
          exact lists.mem_items items base path fault
      | null | bool _ | int _ | float _ | string _ | object _ =>
          exact mem_issues_of_not_ofKind (by simp [OfKind, kinds, kindName]) ..
  | someOf item message lists =>
      intro base v path fault
      cases v with
      | array items =>
          simp only [issues, List.mem_append, lists.mem_items, departs_someOf, and_or_left,
            exists_or]
          refine or_congr ?_ Iff.rfl
          cases items <;> simp
      | null | bool _ | int _ | float _ | string _ | object _ =>
          exact mem_issues_of_not_ofKind (by simp [OfKind, kinds, kindName]) ..
  | members value lists => exact lists.members
  | object fields lists => exact .object lists

-----------------------------------------------------------------------------------------
-- Values without departures
-----------------------------------------------------------------------------------------

theorem Conforms.ofKind {S : Shape} {v : Value} (conforms : S.Conforms v) : S.OfKind v := by
  cases conforms with
  | any => cases v <;> simp [OfKind, kinds, kindName]
  | _ => simp [OfKind, kinds, kindName]

theorem Conforms.not_faultAt {S : Shape} {v : Value} {fault : Fault} (conforms : S.Conforms v)
    : ¬S.FaultAt v fault := by
  intro at_
  cases at_ with
  | kind wrong => exact wrong conforms.ofKind
  | unknownName unknown => cases conforms with | oneOf listed => exact unknown listed
  | outOfRange outside => cases conforms with | integer low high => exact outside ⟨low, high⟩
  | fraction => cases conforms
  | empty => cases conforms with | someOf nonempty _ => exact nonempty rfl

/-- A value that the grammar allows departs nowhere, by induction on the place. -/
theorem Conforms.not_departs {S : Shape} {v : Value} {path : Path} {fault : Fault}
    (conforms : S.Conforms v)
    : ¬S.Departs v path fault := by
  intro departs
  induction departs with
  | here at_ => exact conforms.not_faultAt at_
  | absent member absent =>
      cases conforms with
      | object present _ => exact present _ _ member absent
  | inside part _ ih =>
      apply ih
      cases part with
      | item found => cases conforms with | array each => exact each _ (List.mem_of_getElem? found)
      | someItem found =>
          cases conforms with | someOf _ each => exact each _ (List.mem_of_getElem? found)
      | entry member => cases conforms with | members each => exact each _ member
      | field member found => cases conforms with | object _ each => exact each _ _ _ _ member found

theorem conforms_of_isLeaf {S : Shape} {v : Value} (leaf : S.isLeaf) (kind : S.OfKind v)
    (sound : ∀ fault, ¬S.FaultAt v fault)
    : S.Conforms v := by
  cases S with
  | array _ | someOf _ _ | members _ | object _ => cases leaf
  | any => exact .any
  | string | number | boolean | textOrNumber =>
      cases v <;> first | constructor | simp [OfKind, kinds, kindName] at kind
  | integer least =>
      cases v with
      | int i =>
          have inside : least ≤ i ∧ i < 2 ^ 32 := by
            by_contra outside
            exact sound _ (.outOfRange outside)
          exact .integer inside.1 inside.2
      | float x => exact absurd .fraction (sound _)
      | null | bool _ | string _ | array _ | object _ => simp [OfKind, kinds, kindName] at kind
  | oneOf names =>
      cases v with
      | string s =>
          refine .oneOf ?_
          by_contra unknown
          exact sound _ (.unknownName unknown)
      | null | bool _ | int _ | float _ | array _ | object _ =>
          simp [OfKind, kinds, kindName] at kind

/-- A value that departs nowhere is one that the grammar allows, by induction on the shape. -/
theorem conforms_of_not_departs (S : Shape) (v : Value)
    (sound : ∀ path fault, ¬S.Departs v path fault)
    : S.Conforms v := by
  have inside {S : Shape} {v : Value} (sound : ∀ path fault, ¬S.Departs v path fault)
      {step : Step} {T : Shape} {w : Value} (part : Part S v step T w)
      : ∀ path fault, ¬T.Departs w path fault :=
    fun path fault departs => sound _ _ (.inside part departs)
  induction S using induction generalizing v with
  | leaf S leaf =>
      have kind : S.OfKind v := by
        by_contra wrong
        exact sound _ _ (.here (.kind wrong))
      exact conforms_of_isLeaf leaf kind fun fault at_ => sound _ _ (.here at_)
  | array item ih =>
      cases v with
      | array items =>
          refine .array fun w member => ?_
          obtain ⟨i, found⟩ := List.mem_iff_getElem?.mp member
          exact ih w (inside sound (.item found))
      | null | bool _ | int _ | float _ | string _ | object _ =>
          exact absurd (.here (.kind (by simp [OfKind, kinds, kindName]))) (sound _ _)
  | someOf item message ih =>
      cases v with
      | array items =>
          refine .someOf ?_ fun w member => ?_
          · rintro rfl
            exact sound _ _ (.here .empty)
          · obtain ⟨i, found⟩ := List.mem_iff_getElem?.mp member
            exact ih w (inside sound (.someItem found))
      | null | bool _ | int _ | float _ | string _ | object _ =>
          exact absurd (.here (.kind (by simp [OfKind, kinds, kindName]))) (sound _ _)
  | members value ih =>
      cases v with
      | object ms => exact .members fun entry member => ih entry.2 (inside sound (.entry member))
      | null | bool _ | int _ | float _ | string _ | array _ =>
          exact absurd (.here (.kind (by simp [OfKind, kinds, kindName]))) (sound _ _)
  | object fields ih =>
      cases v with
      | object ms =>
          refine .object (fun name T member absent => sound _ _ (.absent member absent)) ?_
          exact fun name required T w member found =>
            ih _ member w (inside sound (.field member found))
      | null | bool _ | int _ | float _ | string _ | array _ =>
          exact absurd (.here (.kind (by simp [OfKind, kinds, kindName]))) (sound _ _)

/-- There is nothing to report of exactly the values that the grammar allows. -/
theorem issues_eq_nil_iff (S : Shape) (base : Path) (v : Value)
    : S.issues base v = [] ↔ S.Conforms v := by
  rw [List.eq_nil_iff_forall_not_mem]
  constructor
  · refine fun empty => conforms_of_not_departs S v fun path fault departs => ?_
    exact empty ⟨base ++ path, fault⟩ ((mem_issues_iff S ..).mpr ⟨path, rfl, departs⟩)
  · rintro conforms ⟨path, fault⟩ listed
    obtain ⟨rest, -, departs⟩ := (mem_issues_iff S ..).mp listed
    exact conforms.not_departs departs

-----------------------------------------------------------------------------------------
-- Members that a shape does not name
-----------------------------------------------------------------------------------------

/-- Two values that differ at most in members that the shape does not name, and in what stands
inside values of the wrong kind.
-/
inductive Alike : Shape → Value → Value → Prop
  | same {S v} : Alike S v v
  | unread {S v v'} : ¬S.OfKind v → kindName v = kindName v' → Alike S v v'
  | array {item items items'}
    : items.length = items'.length
      → (∀ (i : Nat) w w', items[i]? = some w → items'[i]? = some w' → Alike item w w')
      → Alike (.array item) (.array items) (.array items')
  | someOf {item message items items'}
    : items.length = items'.length
      → (∀ (i : Nat) w w', items[i]? = some w → items'[i]? = some w' → Alike item w w')
      → Alike (.someOf item message) (.array items) (.array items')
  | members {value} {ms ms' : Members}
    : ms.map Prod.fst = ms'.map Prod.fst
      → (∀ (i : Nat) entry entry', ms[i]? = some entry → ms'[i]? = some entry'
          → Alike value entry.2 entry'.2)
      → Alike (.members value) (.object ms) (.object ms')
  | object {fields} {ms ms' : Members}
    : (∀ field ∈ fields, ms.get? field.1 = none ↔ ms'.get? field.1 = none)
      → (∀ field ∈ fields, ∀ w w', ms.get? field.1 = some w → ms'.get? field.1 = some w'
          → Alike field.2.2 w w')
      → Alike (.object fields) (.object ms) (.object ms')

namespace Alike

variable {v' : Value}

/-- Members that the shape does not name may be added, dropped and changed. -/
theorem of_get?_eq {fields : List (String × Bool × Shape)} {ms ms' : Members}
    (same : ∀ field ∈ fields, ms.get? field.1 = ms'.get? field.1)
    : (Shape.object fields).Alike (.object ms) (.object ms') := by
  refine .object (fun field member => by rw [same field member]) ?_
  intro field member w w' found found'
  rw [same field member, found'] at found
  exact Option.some.inj found ▸ .same

/-- Values of the right kind are alike only if they are the same, where nothing is looked at
inside them.
-/
theorem eq_of_isLeaf {S : Shape} {v : Value} (alike : S.Alike v v') (leaf : S.isLeaf)
    (kind : S.OfKind v)
    : v' = v := by
  cases alike with
  | same => rfl
  | unread wrong _ => exact absurd kind wrong
  | array _ _ | someOf _ _ | members _ _ | object _ _ => cases leaf

theorem kindName_eq {S : Shape} {v : Value} (alike : S.Alike v v') : kindName v = kindName v' := by
  cases alike with
  | unread _ kind => exact kind
  | same | array _ _ | someOf _ _ | members _ _ | object _ _ => rfl

/-- Only null is alike to null. -/
theorem eq_null_iff {S : Shape} {v : Value} (alike : S.Alike v v') : v = .null ↔ v' = .null := by
  have null {w : Value} : kindName w = "null" ↔ w = .null := by cases w <;> simp [kindName]
  rw [← null, ← null, alike.kindName_eq]

/-- A value is alike to itself. -/
theorem of_eq_some {S : Shape} {found : Option Value} {w w' : Value} (here : found = some w)
    (there : found = some w')
    : S.Alike w w' := by
  cases here.symm.trans there
  exact .same

theorem of_array {item : Shape} {items : List Value}
    (alike : (Shape.array item).Alike (.array items) v')
    : ∃ items', v' = .array items' ∧ items.length = items'.length
      ∧ ∀ (i : Nat) w w', items[i]? = some w → items'[i]? = some w' → item.Alike w w' := by
  cases alike with
  | same =>
      exact ⟨items, rfl, rfl, fun _ _ _ => of_eq_some⟩
  | unread wrong _ => exact absurd (List.mem_singleton.mpr rfl) wrong
  | array length each => exact ⟨_, rfl, length, each⟩

theorem of_someOf {item : Shape} {message : String} {items : List Value}
    (alike : (Shape.someOf item message).Alike (.array items) v')
    : ∃ items', v' = .array items' ∧ items.length = items'.length
      ∧ ∀ (i : Nat) w w', items[i]? = some w → items'[i]? = some w' → item.Alike w w' := by
  cases alike with
  | same =>
      exact ⟨items, rfl, rfl, fun _ _ _ => of_eq_some⟩
  | unread wrong _ => exact absurd (List.mem_singleton.mpr rfl) wrong
  | someOf length each => exact ⟨_, rfl, length, each⟩

theorem of_members {value : Shape} {ms : Members}
    (alike : (Shape.members value).Alike (.object ms) v')
    : ∃ ms' : Members, v' = .object ms' ∧ ms.map Prod.fst = ms'.map Prod.fst
      ∧ ∀ (i : Nat) entry entry', ms[i]? = some entry → ms'[i]? = some entry'
          → value.Alike entry.2 entry'.2 := by
  cases alike with
  | same =>
      exact ⟨ms, rfl, rfl, fun i w w' found found' => Option.some.inj (found ▸ found') ▸ .same⟩
  | unread wrong _ => exact absurd (List.mem_singleton.mpr rfl) wrong
  | members names each => exact ⟨_, rfl, names, each⟩

theorem of_object {fields : List (String × Bool × Shape)} {ms : Members}
    (alike : (Shape.object fields).Alike (.object ms) v')
    : ∃ ms' : Members, v' = .object ms'
      ∧ (∀ field ∈ fields, ms.get? field.1 = none ↔ ms'.get? field.1 = none)
      ∧ ∀ field ∈ fields, ∀ w w', ms.get? field.1 = some w → ms'.get? field.1 = some w'
          → field.2.2.Alike w w' := by
  cases alike with
  | same =>
      exact ⟨ms, rfl, fun _ _ => Iff.rfl, fun _ _ _ _ => of_eq_some⟩
  | unread wrong _ => exact absurd (List.mem_singleton.mpr rfl) wrong
  | object absent each => exact ⟨_, rfl, absent, each⟩

end Alike

/-- Lists with the same results place by place have the same results in a row. -/
theorem flatMap_eq_of_getElem? {f : α → List γ} {g : β → List γ} {left : List α} {right : List β}
    (length : left.length = right.length)
    (each : ∀ (i : Nat) a b, left[i]? = some a → right[i]? = some b → f a = g b)
    : left.flatMap f = right.flatMap g := by
  have same : left.map f = right.map g := by
    apply List.ext_getElem (by simpa using length)
    intro i inLeft inRight
    rw [List.getElem_map, List.getElem_map]
    exact each i _ _ (List.getElem?_eq_getElem _) (List.getElem?_eq_getElem _)
  rw [List.flatMap_def, List.flatMap_def, same]

theorem flatMap_zipIdx_eq {f : α × Nat → List γ} {left right : List α}
    (length : left.length = right.length)
    (each : ∀ (i : Nat) a b, left[i]? = some a → right[i]? = some b → f (a, i) = f (b, i))
    : left.zipIdx.flatMap f = right.zipIdx.flatMap f := by
  refine flatMap_eq_of_getElem? (by simpa using length) fun i a b atLeft atRight => ?_
  rw [List.getElem?_zipIdx, Option.map_eq_some_iff, Nat.zero_add] at atLeft atRight
  obtain ⟨a, atLeft, rfl⟩ := atLeft
  obtain ⟨b, atRight, rfl⟩ := atRight
  exact each i a b atLeft atRight

/-- Values alike in this sense have the same issues, by induction on their likeness. -/
theorem Alike.issues_eq {S : Shape} {v v' : Value} (alike : S.Alike v v') (base : Path)
    : S.issues base v = S.issues base v' := by
  induction alike generalizing base with
  | same => rfl
  | @unread S v v' wrong kind =>
      have wrong' : ¬S.OfKind v' := by rwa [OfKind, ← kind]
      rw [issues_of_not_ofKind wrong, issues_of_not_ofKind wrong', kind]
  | array length each ih =>
      rw [issues, issues]
      exact flatMap_zipIdx_eq length fun i w w' found found' => ih i w w' found found' _
  | @someOf item message items items' length each ih =>
      have empty : items.isEmpty = items'.isEmpty := by
        cases items <;> cases items' <;> first | rfl | cases length
      rw [issues, issues, empty]
      refine congrArg _ (flatMap_zipIdx_eq length fun i w w' found found' => ?_)
      exact ih i w w' found found' _
  | @members value ms ms' names each ih =>
      rw [issues, issues]
      refine flatMap_eq_of_getElem? (by simpa using congrArg List.length names) ?_
      intro i entry entry' found found'
      have name : entry.1 = entry'.1 := by
        have there := congrArg (·[i]?) names
        simpa [found, found'] using there
      change value.issues (base ++ [.member entry.1]) entry.2
        = value.issues (base ++ [.member entry'.1]) entry'.2
      rw [name]
      exact ih i entry entry' found found' _
  | @object fields ms ms' absent each ih =>
      rw [issues, issues, fieldIssues_eq_flatMap, fieldIssues_eq_flatMap]
      refine List.flatMap_congr fun field member => ?_
      unfold memberIssues
      cases found : ms.get? field.1 with
      | none => rw [(absent field member).mp found]
      | some w =>
          cases found' : ms'.get? field.1 with
          | none => rw [(absent field member).mpr found'] at found; cases found
          | some w' => exact ih field member w w' found found' _

end Shape
end Spreadsheet.Request
