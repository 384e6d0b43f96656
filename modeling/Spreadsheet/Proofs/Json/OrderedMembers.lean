import Mathlib.Data.List.Induction
import Mathlib.Data.List.Nodup
import Spreadsheet.Json.Reader

/-! Objects that are read from text list their members in the order of the names, and so have each
name once. Insertion keeps the order, and reading inserts one member after the other. Objects that
are made of members in any order have them in order, too, and the last one of a name is found.
-/

namespace Spreadsheet.Json

-----------------------------------------------------------------------------------------
-- Members
-----------------------------------------------------------------------------------------

namespace Members

/-- Names go up from member to member. -/
def Ordered (ms : Members) : Prop := ms.Pairwise fun a b => a.1 < b.1

variable {ms : Members} {name : String} {value : Value}

theorem eq_or_mem_of_mem_insert {entry : String × Value} (member : entry ∈ ms.insert name value)
    : entry = (name, value) ∨ entry ∈ ms := by
  induction ms with
  | nil => exact .inl (List.mem_singleton.mp member)
  | cons first rest ih =>
      rw [insert] at member
      split at member
      · exact List.mem_cons.mp member
      · split at member
        · exact (List.mem_cons.mp member).imp_right (List.mem_cons_of_mem _)
        · rcases List.mem_cons.mp member with rfl | member
          · exact .inr List.mem_cons_self
          · exact (ih member).imp_right (List.mem_cons_of_mem _)

/-- A member goes in front of the first one with a greater name. -/
theorem Ordered.insert (ordered : ms.Ordered) (name : String) (value : Value)
    : (ms.insert name value).Ordered := by
  induction ms with
  | nil => exact List.pairwise_singleton _ _
  | cons first rest ih =>
      obtain ⟨below, later⟩ := List.pairwise_cons.mp ordered
      rw [Members.insert]
      split
      · next less =>
          refine List.pairwise_cons.mpr ⟨fun entry member => ?_, ordered⟩
          rcases List.mem_cons.mp member with rfl | member
          · exact less
          · exact String.lt_trans less (below entry member)
      · next notLess =>
          split
          · next same => exact List.pairwise_cons.mpr ⟨same ▸ below, later⟩
          · next other =>
              have greater : first.1 < name := by
                by_contra atMost
                exact other
                  (String.le_antisymm (String.not_lt.mp atMost) (String.not_lt.mp notLess))
              refine List.pairwise_cons.mpr ⟨fun entry member => ?_, ih later⟩
              rcases eq_or_mem_of_mem_insert member with rfl | member
              · exact greater
              · exact below entry member

theorem Ordered.nodup (ordered : ms.Ordered) : (ms.map Prod.fst).Nodup := by
  refine List.pairwise_map.mpr (ordered.imp fun less same => ?_)
  rw [same] at less
  exact String.lt_irrefl _ less

/-- A member with a greater name than all others goes to the end. -/
theorem insert_of_forall_lt (greatest : ∀ entry ∈ ms, entry.1 < name)
    : ms.insert name value = ms ++ [(name, value)] := by
  induction ms with
  | nil => rfl
  | cons first rest ih =>
      obtain ⟨less, later⟩ := List.forall_mem_cons.mp greatest
      have notLess : ¬ name < first.1 := fun greater =>
        String.lt_irrefl _ (String.lt_trans less greater)
      have other : name ≠ first.1 := fun same => String.lt_irrefl _ (same ▸ less)
      rw [insert, if_neg notLess, if_neg other, ih later, List.cons_append]

-----------------------------------------------------------------------------------------
-- Members from a list in any order
-----------------------------------------------------------------------------------------

variable {entries : List (String × Value)}

theorem ofList_concat (entries : List (String × Value)) (entry : String × Value)
    : ofList (entries ++ [entry]) = (ofList entries).insert entry.1 entry.2 := by
  rw [ofList, List.foldl_append]
  rfl

theorem ordered_ofList (entries : List (String × Value)) : (ofList entries).Ordered := by
  induction entries using List.reverseRecOn with
  | nil => exact .nil
  | append_singleton entries entry ih =>
      rw [ofList_concat]
      exact ih.insert entry.1 entry.2

theorem mem_of_mem_ofList {entry : String × Value} (member : entry ∈ ofList entries)
    : entry ∈ entries := by
  induction entries using List.reverseRecOn with
  | nil => cases member
  | append_singleton entries last ih =>
      rw [ofList_concat] at member
      rcases eq_or_mem_of_mem_insert member with rfl | member
      · exact List.mem_append_right _ (List.mem_singleton_self _)
      · exact List.mem_append_left _ (ih member)

/-- Members that are in order stay as they are. -/
theorem Ordered.ofList_eq (ordered : ms.Ordered) : ofList ms = ms := by
  induction ms using List.reverseRecOn with
  | nil => rfl
  | append_singleton ms last ih =>
      obtain ⟨front, -, below⟩ := List.pairwise_append.mp ordered
      rw [ofList_concat, ih front]
      exact insert_of_forall_lt fun entry member =>
        below entry member last (List.mem_singleton_self last)

theorem get?_cons (first : String × Value) (rest : Members) (name : String)
    : get? (first :: rest) name = if first.1 = name then some first.2 else get? rest name := by
  by_cases same : first.1 = name
  · rw [get?, List.find?_cons_of_pos (by simpa using same), if_pos same, Option.map_some]
  · rw [get?, List.find?_cons_of_neg (by simpa using same), if_neg same]
    rfl

theorem get?_insert (ms : Members) (name : String) (value : Value) (other : String)
    : (ms.insert name value).get? other = if name = other then some value else ms.get? other := by
  induction ms with
  | nil => exact get?_cons (name, value) [] other
  | cons first rest ih =>
      rw [insert]
      split
      · exact get?_cons (name, value) (first :: rest) other
      · split
        · next same =>
            rw [get?_cons, get?_cons, ← same]
            split <;> rfl
        · next different =>
            rw [get?_cons, get?_cons, ih]
            split
            · next here => rw [if_neg fun same => different (same.trans here.symm)]
            · rfl

/-- A name that is not in the list names no member. -/
theorem get?_ofList_of_not_mem {name : String} (absent : name ∉ entries.map Prod.fst)
    : (ofList entries).get? name = none := by
  induction entries using List.reverseRecOn with
  | nil => rfl
  | append_singleton entries last ih =>
      simp only [List.map_append, List.map_cons, List.map_nil, List.mem_append, List.mem_singleton,
        not_or] at absent
      rw [ofList_concat, get?_insert, if_neg (Ne.symm absent.2), ih absent.1]

/-- An entry of a list without repeated names is found under its name. -/
theorem get?_ofList_of_mem (distinct : (entries.map Prod.fst).Nodup) {entry : String × Value}
    (member : entry ∈ entries)
    : (ofList entries).get? entry.1 = some entry.2 := by
  induction entries using List.reverseRecOn with
  | nil => cases member
  | append_singleton entries last ih =>
      rw [List.map_append, List.nodup_append] at distinct
      obtain ⟨front, -, apart⟩ := distinct
      rw [ofList_concat, get?_insert]
      rcases List.mem_append.mp member with member | member
      · have other : last.1 ≠ entry.1 := fun same =>
          apart entry.1 (List.mem_map_of_mem member) last.1 (List.mem_singleton_self _) same.symm
        rw [if_neg other, ih front member]
      · cases List.mem_singleton.mp member
        rw [if_pos rfl]

end Members

-----------------------------------------------------------------------------------------
-- Values
-----------------------------------------------------------------------------------------

namespace Value

/-- Values in which no object has two members of one name. -/
inductive NamesDistinct : Value → Prop
  | null : NamesDistinct .null
  | bool (b) : NamesDistinct (.bool b)
  | int (i) : NamesDistinct (.int i)
  | float (x) : NamesDistinct (.float x)
  | string (s) : NamesDistinct (.string s)
  | array {items} : (∀ v ∈ items, NamesDistinct v) → NamesDistinct (.array items)
  | object {ms}
    : (ms.map Prod.fst).Nodup → (∀ entry ∈ ms, NamesDistinct entry.2)
      → NamesDistinct (.object ms)

/-- Values in which all objects list their members in the order of the names. -/
inductive Ordered : Value → Prop
  | null : Ordered .null
  | bool (b) : Ordered (.bool b)
  | int (i) : Ordered (.int i)
  | float (x) : Ordered (.float x)
  | string (s) : Ordered (.string s)
  | array {items} : (∀ v ∈ items, Ordered v) → Ordered (.array items)
  | object {ms : Members}
    : ms.Ordered → (∀ entry ∈ ms, Ordered entry.2) → Ordered (.object ms)

theorem ordered_array_iff {items : List Value}
    : (array items).Ordered ↔ ∀ v ∈ items, v.Ordered :=
  ⟨fun | .array each => each, .array⟩

theorem ordered_object_iff {ms : Members}
    : (object ms).Ordered ↔ ms.Ordered ∧ ∀ entry ∈ ms, entry.2.Ordered :=
  ⟨fun | .object order each => ⟨order, each⟩, fun ⟨order, each⟩ => .object order each⟩

theorem Ordered.namesDistinct {v : Value} (ordered : v.Ordered) : v.NamesDistinct := by
  induction ordered with
  | null => exact .null
  | bool b => exact .bool b
  | int i => exact .int i
  | float x => exact .float x
  | string s => exact .string s
  | array _ items => exact .array items
  | object members _ values => exact .object members.nodup values

end Value

-----------------------------------------------------------------------------------------
-- Reading
-----------------------------------------------------------------------------------------

section Numbers

variable {negative : Bool} {significand : Nat} {e : Int} {s rest : List Char} {v : Value}

theorem ordered_of_decimalNumber? (read : decimalNumber? negative significand e = some v)
    : v.Ordered := by
  obtain ⟨x, -, rfl⟩ := Option.map_eq_some_iff.mp read
  exact .float _

theorem ordered_of_readScaled? (read : readScaled? negative significand e s = some (v, rest))
    : v.Ordered := by
  rw [readScaled?.eq_def] at read
  split at read
  · obtain ⟨n, -, read⟩ := Option.bind_eq_some_iff.mp read
    obtain ⟨value, scaled, same⟩ := Option.bind_eq_some_iff.mp read
    cases same
    exact ordered_of_decimalNumber? scaled
  · obtain ⟨n, -, read⟩ := Option.bind_eq_some_iff.mp read
    obtain ⟨value, scaled, same⟩ := Option.bind_eq_some_iff.mp read
    cases same
    exact ordered_of_decimalNumber? scaled
  · obtain ⟨value, scaled, same⟩ := Option.bind_eq_some_iff.mp read
    cases same
    exact ordered_of_decimalNumber? scaled

theorem ordered_of_readFraction?
    (read : readFraction? negative significand e s = some (v, rest))
    : v.Ordered := by
  rw [readFraction?] at read
  dsimp only at read
  split at read
  · cases read
  · exact ordered_of_readScaled? read

theorem ordered_wholeNumber (negative : Bool) (n : Nat)
    : (wholeNumber negative n).Ordered := by
  rw [wholeNumber]
  split
  · exact .int _
  · split
    · exact .float _
    · exact .int _

theorem ordered_of_readUnsigned? (read : readUnsigned? negative s = some (v, rest))
    : v.Ordered := by
  rw [readUnsigned?.eq_def] at read
  split at read
  · cases read
  · next c tail =>
      split at read
      · cases read
      · split at read
        · cases read
        · dsimp only at read
          split at read
          · exact ordered_of_readFraction? read
          · exact ordered_of_readScaled? read
          · exact ordered_of_readScaled? read
          · split at read
            · cases read
              exact ordered_wholeNumber ..
            · exact ordered_of_readScaled? read

theorem ordered_of_readNumber? (read : readNumber? s = some (v, rest)) : v.Ordered := by
  rw [readNumber?.eq_def] at read
  split at read
  · exact ordered_of_readUnsigned? read
  · exact ordered_of_readUnsigned? read

end Numbers

theorem ordered_of_readWord? {word s rest : List Char} {value v : Value}
    (ordered : value.Ordered) (read : readWord? word value s = some (v, rest))
    : v.Ordered := by
  rw [readWord?] at read
  split at read
  · cases read
    exact ordered
  · cases read

/-- What the members that are read so far are like. -/
structure Members.Read (ms : Members) : Prop where
  ordered : ms.Ordered
  values : ∀ entry ∈ ms, entry.2.Ordered

theorem Members.Read.object {ms : Members} (read : ms.Read) : (Value.object ms).Ordered :=
  .object read.ordered read.values

theorem Members.Read.insert {ms : Members} (read : ms.Read) (name : String) {value : Value}
    (ordered : value.Ordered)
    : (ms.insert name value).Read := by
  refine ⟨read.ordered.insert name value, fun entry member => ?_⟩
  rcases Members.eq_or_mem_of_mem_insert member with rfl | member
  · exact ordered
  · exact read.values entry member

mutual

theorem ordered_of_readValue? {fuel depth : Nat} {s rest : List Char} {v : Value}
    (read : readValue? fuel depth s = some (v, rest))
    : v.Ordered := by
  cases fuel with
  | zero => cases read
  | succ fuel =>
      rw [readValue?] at read
      split at read
      · cases read
      · obtain ⟨string, -, same⟩ := Option.bind_eq_some_iff.mp read
        cases same
        exact .string _
      · split at read
        · cases read
        · next depth =>
            split at read
            · cases read
              exact .array nofun
            · obtain ⟨⟨items, after⟩, inner, same⟩ := Option.bind_eq_some_iff.mp read
              cases same
              exact .array (ordered_of_readItems? inner)
      · split at read
        · cases read
        · next depth =>
            split at read
            · cases read
              exact Members.Read.object ⟨.nil, nofun⟩
            · obtain ⟨⟨ms, after⟩, inner, same⟩ := Option.bind_eq_some_iff.mp read
              cases same
              exact (read_of_readMembers? ⟨.nil, nofun⟩ inner).object
      · exact ordered_of_readWord? (.bool true) read
      · exact ordered_of_readWord? (.bool false) read
      · exact ordered_of_readWord? .null read
      · exact ordered_of_readNumber? read

theorem ordered_of_readItems? {fuel depth : Nat} {s rest : List Char} {items : List Value}
    (read : readItems? fuel depth s = some (items, rest))
    : ∀ v ∈ items, v.Ordered := by
  cases fuel with
  | zero => cases read
  | succ fuel =>
      rw [readItems?] at read
      obtain ⟨⟨item, after⟩, first, read⟩ := Option.bind_eq_some_iff.mp read
      have ordered := ordered_of_readValue? first
      dsimp only at read
      split at read
      · obtain ⟨⟨later, behind⟩, inner, same⟩ := Option.bind_eq_some_iff.mp read
        cases same
        exact List.forall_mem_cons.mpr ⟨ordered, ordered_of_readItems? inner⟩
      · cases read
        exact List.forall_mem_singleton.mpr ordered
      · cases read

theorem read_of_readMembers? {fuel depth : Nat} {members ms : Members} {s rest : List Char}
    (before : members.Read) (read : readMembers? fuel depth members s = some (ms, rest))
    : ms.Read := by
  cases fuel with
  | zero => cases read
  | succ fuel =>
      rw [readMembers?] at read
      split at read
      · obtain ⟨⟨name, after⟩, -, read⟩ := Option.bind_eq_some_iff.mp read
        dsimp only at read
        split at read
        · obtain ⟨⟨value, behind⟩, inner, read⟩ := Option.bind_eq_some_iff.mp read
          have grown := before.insert name (ordered_of_readValue? inner)
          dsimp only at read
          split at read
          · exact read_of_readMembers? grown read
          · cases read
            exact grown
          · cases read
        · cases read
      · cases read

end

/-- A value that is read from a text has all members in order. -/
theorem Value.ordered_of_ofText? {text : String} {v : Value} (read : Value.ofText? text = some v)
    : v.Ordered := by
  obtain ⟨⟨value, rest⟩, front, read⟩ := Option.bind_eq_some_iff.mp read
  dsimp only at read
  split at read
  · cases read
    exact ordered_of_readValue? front
  · cases read

/-- A value that is read from a text has no two members of one name in any object. -/
theorem Value.namesDistinct_of_ofText? {text : String} {v : Value}
    (read : Value.ofText? text = some v)
    : v.NamesDistinct :=
  (ordered_of_ofText? read).namesDistinct

end Spreadsheet.Json
