import Spreadsheet.Proofs.Json.OrderedMembers
import Spreadsheet.Proofs.Number.DigitReading
import Spreadsheet.Proofs.Request.Departures

/-! No place is reported twice, and the dotted text of a place says which one it is. Steps into
an object go by the names of the shape's fields, which hold no point; names that the request
chooses for itself may hold one, but nothing is looked at below them.
-/

namespace Spreadsheet

namespace Json

theorem Members.mem_of_get?_eq_some {ms : Members} {name : String} {v : Value}
    (found : ms.get? name = some v)
    : (name, v) ∈ ms := by
  obtain ⟨entry, first, rfl⟩ := Option.map_eq_some_iff.mp found
  have same : entry.1 = name := by simpa using List.find?_some first
  exact same ▸ List.mem_of_find?_eq_some first

end Json

namespace Request

open Spreadsheet.Json Shape

namespace Shape

mutual

/-- Fields of an object have different names without points, and nothing is looked at below
members of any name.
-/
def isPlain : Shape → Bool
  | .array item | .someOf item _ => item.isPlain
  | .members value => value.isLeaf
  | .object fields => (fields.map (·.1)).Nodup && arePlain fields
  | .any | .string | .number | .boolean | .textOrNumber | .integer _ | .oneOf _ => true

def arePlain : List (String × Bool × Shape) → Bool
  | [] => true
  | (name, _, S) :: fields =>
    name != "" && !name.toList.contains '.' && S.isPlain && arePlain fields

end

theorem arePlain_iff (fields : List (String × Bool × Shape))
    : arePlain fields
      ↔ ∀ field ∈ fields, (field.1 ≠ "" ∧ '.' ∉ field.1.toList) ∧ field.2.2.isPlain := by
  induction fields with
  | nil => simp [arePlain]
  | cons field rest ih => simp [arePlain, ih]

-----------------------------------------------------------------------------------------
-- Each place once
-----------------------------------------------------------------------------------------

/-- Places under different steps are different, by induction on the list of steps. -/
theorem nodup_paths_flatMap {list : List α} {f : α → List Issue} (base : Path)
    (step : α → Step) (steps : (list.map step).Nodup)
    (under : ∀ a ∈ list, ∀ issue ∈ f a, ∃ rest, issue.path = base ++ step a :: rest)
    (each : ∀ a ∈ list, ((f a).map Issue.path).Nodup)
    : ((list.flatMap f).map Issue.path).Nodup := by
  induction list with
  | nil => exact List.nodup_nil
  | cons a rest ih =>
      rw [List.map_cons, List.nodup_cons] at steps
      rw [List.forall_mem_cons] at under each
      rw [List.flatMap_cons, List.map_append, List.nodup_append]
      refine ⟨each.1, ih steps.2 under.2 each.2, ?_⟩
      rintro _ here _ there rfl
      obtain ⟨issue, listed, same⟩ := List.mem_map.mp here
      obtain ⟨other, listed', same'⟩ := List.mem_map.mp there
      obtain ⟨b, member, listed'⟩ := List.mem_flatMap.mp listed'
      obtain ⟨below, path⟩ := under.1 issue listed
      obtain ⟨below', path'⟩ := under.2 b member other listed'
      have meet : base ++ step a :: below = base ++ step b :: below' := by
        rw [← path, ← path', same, same']
      have step_eq : step a = step b := (List.cons.inj (List.append_cancel_left meet)).1
      exact steps.1 (step_eq ▸ List.mem_map_of_mem member)

theorem exists_path_of_mem_issues {S : Shape} {base : Path} {step : Step} {v : Value}
    {issue : Issue} (listed : issue ∈ S.issues (base ++ [step]) v)
    : ∃ rest, issue.path = base ++ step :: rest := by
  obtain ⟨rest, path, -⟩ := (mem_issues_iff S ..).mp listed
  exact ⟨rest, by simp [path]⟩

/-- Of a value inside which nothing is looked at there is at most one issue. -/
theorem nodup_issue_paths_of_isLeaf {S : Shape} (leaf : S.isLeaf) (base : Path) (v : Value)
    : ((S.issues base v).map Issue.path).Nodup := by
  by_cases kind : S.OfKind v
  · cases S with
    | array _ | someOf _ _ | members _ | object _ => cases leaf
    | any | string | number | boolean | textOrNumber | integer _ | oneOf _ =>
        cases v <;> simp only [issues] <;>
          first | exact List.nodup_nil | exact List.nodup_singleton _ | (split <;> simp)
  · rw [issues_of_not_ofKind kind]
    exact List.nodup_singleton _

/-- No item of an array is reported twice if none of its places is. -/
theorem nodup_item_paths {item : Shape} {base : Path} {items : List Value}
    (each : ∀ base, ∀ v ∈ items, ((item.issues base v).map Issue.path).Nodup)
    : ((items.zipIdx.flatMap fun (v, i) => item.issues (base ++ [.item i]) v).map
        Issue.path).Nodup := by
  refine nodup_paths_flatMap base (fun entry => .item entry.2) ?_ ?_ ?_
  · have steps := (List.nodup_range' (s := 0) (n := items.length)).map fun _ _ => Step.item.inj
    rw [← List.zipIdx_map_snd, List.map_map] at steps
    exact steps
  · exact fun _ _ _ listed => exists_path_of_mem_issues listed
  · exact fun entry member => each _ _ (List.fst_mem_of_mem_zipIdx member)

theorem exists_path_of_mem_memberIssues {base : Path} {ms : Members}
    {field : String × Bool × Shape} {issue : Issue} (listed : issue ∈ memberIssues base ms field)
    : ∃ rest, issue.path = base ++ .member field.1 :: rest := by
  unfold memberIssues at listed
  split at listed
  · split at listed
    · exact ⟨[], by rw [List.mem_singleton.mp listed]⟩
    · cases listed
  · exact exists_path_of_mem_issues listed

/-- No place is reported twice, by induction on the shape. -/
theorem nodup_issue_paths (S : Shape) (plain : S.isPlain) (base : Path) (v : Value)
    (distinct : v.NamesDistinct)
    : ((S.issues base v).map Issue.path).Nodup := by
  induction S using induction generalizing base v with
  | leaf S leaf => exact nodup_issue_paths_of_isLeaf leaf base v
  | array item ih =>
      cases distinct with
      | array each => exact nodup_item_paths fun base v member => ih plain base v (each v member)
      | null | bool _ | int _ | float _ | string _ | object _ _ => exact List.nodup_singleton _
  | someOf item message ih =>
      cases distinct with
      | @array items each =>
          cases items with
          | nil => exact List.nodup_singleton _
          | cons first rest =>
              exact nodup_item_paths fun base v member => ih plain base v (each v member)
      | null | bool _ | int _ | float _ | string _ | object _ _ => exact List.nodup_singleton _
  | members value ih =>
      cases distinct with
      | object names each =>
          rw [issues]
          refine nodup_paths_flatMap base (fun entry => .member entry.1) ?_ ?_ ?_
          · exact List.map_map ▸ names.map fun _ _ => Step.member.inj
          · exact fun _ _ _ listed => exists_path_of_mem_issues listed
          · exact fun entry member => nodup_issue_paths_of_isLeaf plain _ _
      | null | bool _ | int _ | float _ | string _ | array _ => exact List.nodup_singleton _
  | object fields ih =>
      cases distinct with
      | object names each =>
          rw [isPlain, Bool.and_eq_true, decide_eq_true_iff, arePlain_iff] at plain
          rw [issues, fieldIssues_eq_flatMap]
          refine nodup_paths_flatMap base (fun field => .member field.1) ?_ ?_ ?_
          · exact List.map_map ▸ plain.1.map fun _ _ => Step.member.inj
          · exact fun _ _ _ listed => exists_path_of_mem_memberIssues listed
          · intro field member
            unfold memberIssues
            split
            · split
              · exact List.nodup_singleton _
              · exact List.nodup_nil
            · next v found =>
                have entry : (field.1, v) ∈ _ := Members.mem_of_get?_eq_some found
                exact ih field member (plain.2 field member).2 _ v (each _ entry)
      | null | bool _ | int _ | float _ | string _ | array _ => exact List.nodup_singleton _

-----------------------------------------------------------------------------------------
-- The texts of places
-----------------------------------------------------------------------------------------

/-- The steps with a point before each of them. -/
def pointed (path : Path) : List Char := path.flatMap fun step => '.' :: step.text.toList

theorem toList_text (step : Step) (rest : Path)
    : (Path.text (step :: rest)).toList = step.text.toList ++ pointed rest := by
  induction rest generalizing step with
  | nil => simp [Path.text, pointed]
  | cons next rest ih =>
      have later := ih next
      simp only [Path.text, List.map_cons, String.intercalate_cons_cons, String.toList_append,
        pointed, List.flatMap_cons] at later ⊢
      rw [later]
      simp

theorem pointed_cases (path : Path) : pointed path = [] ∨ ∃ rest, pointed path = '.' :: rest := by
  cases path with
  | nil => exact .inl rfl
  | cons step rest => exact .inr ⟨_, rfl⟩

/-- Texts without points are told apart from what follows behind points. -/
theorem eq_and_eq_of_append_pointed {left right : List Char} {path path' : Path}
    (inLeft : '.' ∉ left) (inRight : '.' ∉ right)
    (same : left ++ pointed path = right ++ pointed path')
    : left = right ∧ pointed path = pointed path' := by
  have front {s : List Char} (path : Path) (noPoint : '.' ∉ s)
      : (s ++ pointed path).takeWhile (· != '.') = s := by
    have inside : ∀ c ∈ s, (c != '.') = true :=
      fun c member => bne_iff_ne.mpr fun point => noPoint (point ▸ member)
    rw [List.takeWhile_append_of_pos inside]
    rcases pointed_cases path with nothing | ⟨rest, behind⟩
    · simp [nothing]
    · simp [behind]
  have text : left = right := by rw [← front path inLeft, same, front path' inRight]
  exact ⟨text, List.append_cancel_left (text ▸ same)⟩

theorem not_mem_item_text (i : Nat) : '.' ∉ (Step.item i).text.toList := by
  rw [Step.text, Nat.toList_repr]
  intro member
  have digit := Number.isDigit_of_mem_toDigits member
  simp at digit

/-- The first step is told from the text if it goes by no name with a point. -/
theorem text_eq_of_pointed_eq {step step' : Step} {rest rest' : Path}
    (noPoint : '.' ∉ step.text.toList) (noPoint' : '.' ∉ step'.text.toList)
    (same : pointed (step :: rest) = pointed (step' :: rest'))
    : step.text = step'.text ∧ pointed rest = pointed rest' := by
  have behind : step.text.toList ++ pointed rest = step'.text.toList ++ pointed rest' :=
    (List.cons.inj same).2
  obtain ⟨text, later⟩ := eq_and_eq_of_append_pointed noPoint noPoint' behind
  exact ⟨String.toList_inj.mp text, later⟩

/-- The places at which a shape looks at values. -/
inductive Place : Shape → Path → Prop
  | root {S} : Place S []
  | item {item i path} : Place item path → Place (.array item) (.item i :: path)
  | someItem {item message i path}
    : Place item path → Place (.someOf item message) (.item i :: path)
  | entry {value name} : Place (.members value) [.member name]
  | field {fields name required S path}
    : (name, required, S) ∈ fields → Place S path
      → Place (.object fields) (.member name :: path)

theorem Departs.place {S : Shape} {v : Value} {path : Path} {fault : Fault} (plain : S.isPlain)
    (departs : S.Departs v path fault)
    : S.Place path := by
  induction departs with
  | here _ => exact .root
  | absent member _ => exact .field member .root
  | inside part below ih =>
      cases part with
      | item _ => exact .item (ih plain)
      | someItem _ => exact .someItem (ih plain)
      | entry _ =>
          obtain ⟨rfl, -⟩ := (departs_iff_of_isLeaf plain).mp below
          exact .entry
      | @field fields _ _ _ _ _ member _ =>
          rw [isPlain, Bool.and_eq_true, arePlain_iff] at plain
          exact .field member (ih (plain.2 _ member).2)

theorem Place.eq_nil_of_pointed_eq {path : Path} (same : pointed [] = pointed path)
    : path = [] := by
  cases path with
  | nil => rfl
  | cons step rest => cases same

theorem item_eq_of_pointed_eq {i i' : Nat} {rest rest' : Path}
    (same : pointed (.item i :: rest) = pointed (.item i' :: rest'))
    : i = i' ∧ pointed rest = pointed rest' := by
  obtain ⟨text, later⟩ := text_eq_of_pointed_eq (not_mem_item_text i) (not_mem_item_text i') same
  exact ⟨Number.repr_injective text, later⟩

/-- Different places have different texts, by induction on the first place. -/
theorem Place.eq_of_pointed_eq {S : Shape} {path path' : Path} (place : S.Place path)
    (place' : S.Place path') (plain : S.isPlain) (same : pointed path = pointed path')
    : path = path' := by
  induction place generalizing path' with
  | root => exact (eq_nil_of_pointed_eq same).symm
  | @item item i path below ih =>
      cases place' with
      | root => cases same
      | item below' =>
          obtain ⟨rfl, later⟩ := item_eq_of_pointed_eq same
          rw [ih below' plain later]
  | @someItem item message i path below ih =>
      cases place' with
      | root => cases same
      | someItem below' =>
          obtain ⟨rfl, later⟩ := item_eq_of_pointed_eq same
          rw [ih below' plain later]
  | @entry value name =>
      cases place' with
      | root => cases same
      | entry =>
          simpa [pointed, Step.text, String.toList_inj] using same
  | @field fields name required S path member below ih =>
      cases place' with
      | root => cases same
      | @field _ name' _ _ _ member' below' =>
          rw [isPlain, Bool.and_eq_true, decide_eq_true_iff, arePlain_iff] at plain
          have noPoint : '.' ∉ (Step.member name).text.toList := (plain.2 _ member).1.2
          have noPoint' : '.' ∉ (Step.member name').text.toList := (plain.2 _ member').1.2
          obtain ⟨text, later⟩ := text_eq_of_pointed_eq noPoint noPoint' same
          have field := List.inj_on_of_nodup_map plain.1 member member' text
          obtain ⟨rfl, rfl, rfl⟩ : _ ∧ _ ∧ _ := by simpa using field
          rw [ih below' (plain.2 _ member).2 later]

/-- A place within an object has the text of no other place, nor that of the whole object. -/
theorem Place.eq_of_text_eq {fields : List (String × Bool × Shape)}
    (plain : (object fields).isPlain) {path path' : Path} (place : (object fields).Place path)
    (place' : (object fields).Place path') (same : path.text = path'.text)
    : path = path' := by
  have nonempty {name : String} {required : Bool} {S : Shape} {rest : Path}
      (member : (name, required, S) ∈ fields)
      : Path.text [] ≠ Path.text (.member name :: rest) := by
    rw [isPlain, Bool.and_eq_true, arePlain_iff] at plain
    intro same
    have text := congrArg String.toList same
    rw [toList_text] at text
    have empty : name = "" := String.toList_eq_nil_iff.mp (List.append_eq_nil_iff.mp text.symm).1
    exact (plain.2 _ member).1.1 empty
  cases place with
  | root =>
      cases place' with
      | root => rfl
      | field member' below' => exact absurd same (nonempty member')
  | @field _ name _ _ rest member below =>
      cases place' with
      | root => exact absurd same.symm (nonempty member)
      | field member' below' =>
          have text := congrArg String.toList same
          rw [toList_text, toList_text] at text
          exact eq_of_pointed_eq (.field member below) (.field member' below') plain
            (congrArg (List.cons '.') text)

/-- No text of a place is reported twice for an object shape. -/
theorem nodup_issue_texts {fields : List (String × Bool × Shape)}
    (plain : (object fields).isPlain) {v : Value} (distinct : v.NamesDistinct)
    : (((object fields).issues [] v).map (·.path.text)).Nodup := by
  have place {path : Path} (listed : path ∈ ((object fields).issues [] v).map Issue.path)
      : (object fields).Place path := by
    obtain ⟨issue, member, rfl⟩ := List.mem_map.mp listed
    obtain ⟨rest, path, departs⟩ := (mem_issues_iff ..).mp member
    exact path ▸ departs.place plain
  have paths := nodup_issue_paths (object fields) plain [] v distinct
  have texts := paths.map_on fun path listed path' listed' (same : path.text = path'.text) =>
    (place listed).eq_of_text_eq plain (place listed') same
  rwa [List.map_map] at texts

end Shape

end Request

end Spreadsheet
