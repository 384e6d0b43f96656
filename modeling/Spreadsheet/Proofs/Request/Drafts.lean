import Spreadsheet.Proofs.Request.Validation

/-! Drafts of requests. A draft is checked as a request is, but for the file name and the sheets,
which it may leave out. Its issues are those of a request, in their order, without the ones that say
that one of the two is missing; no other issue reads like these.
-/

namespace Spreadsheet.Request

open Spreadsheet.Json Shape

namespace Shape

-----------------------------------------------------------------------------------------
-- Fields that may be left out
-----------------------------------------------------------------------------------------

/-- The fields, of which those with some names may be left out. -/
def relaxed (names : List String) (fields : List (String × Bool × Shape))
    : List (String × Bool × Shape) :=
  fields.map fun field => (field.1, field.2.1 && !names.contains field.1, field.2.2)

/-- The issues that say that a member with one of some names is missing at a place. -/
def missing (names : List String) (path : Path) : List Issue :=
  names.map fun name => ⟨path ++ [.member name], .required⟩

variable {names : List String} {fields : List (String × Bool × Shape)} {path : Path} {v : Value}

theorem not_mem_missing {issue : Issue} (present : issue.fault ≠ .required)
    : issue ∉ missing names path := by
  intro member
  obtain ⟨name, -, rfl⟩ := List.mem_map.mp member
  exact present rfl

/-- A member that is there is not reported as missing, whatever is wrong inside it. -/
theorem not_mem_missing_of_mem_issues {S : Shape} {name : String} {issue : Issue}
    (listed : issue ∈ S.issues (path ++ [.member name]) v)
    : issue ∉ missing names path := by
  intro member
  obtain ⟨other, -, rfl⟩ := List.mem_map.mp member
  obtain ⟨rest, place, departs⟩ := (mem_issues_iff S ..).mp listed
  rw [List.append_assoc] at place
  have here : rest = [] := (List.cons.inj (List.append_cancel_left place)).2.symm
  subst here
  cases departs with
  | here at_ => cases at_

/-- The member of a field that may be left out has the issues that it had, unless it is missing. -/
theorem memberIssues_relaxed (names : List String) (path : Path) (ms : Members)
    (field : String × Bool × Shape)
    : memberIssues path ms (field.1, field.2.1 && !names.contains field.1, field.2.2)
      = (memberIssues path ms field).filter (· ∉ missing names path) := by
  obtain ⟨name, required, S⟩ := field
  cases found : ms.get? name with
  | some v =>
      have kept : ∀ issue ∈ S.issues (path ++ [.member name]) v,
          decide (issue ∉ missing names path) = true :=
        fun issue listed => decide_eq_true (not_mem_missing_of_mem_issues listed)
      simp only [memberIssues, found]
      exact (List.filter_eq_self.mpr kept).symm
  | none =>
      have listed : (⟨path ++ [.member name], .required⟩ : Issue) ∈ missing names path
          ↔ name ∈ names := by
        simp [missing]
      simp only [memberIssues, found]
      by_cases forgiven : name ∈ names
      · cases required <;> simp [listed, forgiven]
      · cases required <;> simp [listed, forgiven]

/-- Where fields may be left out only the issues are gone that say that one of them is missing. -/
theorem issues_relaxed (names : List String) (fields : List (String × Bool × Shape)) (path : Path)
    (v : Value)
    : (object (relaxed names fields)).issues path v
      = ((object fields).issues path v).filter (· ∉ missing names path) := by
  by_cases kind : (object fields).OfKind v
  · cases v with
    | object ms =>
        rw [issues, issues, fieldIssues_eq_flatMap, fieldIssues_eq_flatMap, List.filter_flatMap,
          relaxed, List.flatMap_map]
        exact List.flatMap_congr fun field _ => memberIssues_relaxed names path ms field
    | null | bool _ | int _ | float _ | string _ | array _ =>
        simp [OfKind, kinds, kindName] at kind
  · have kind' : ¬(object (relaxed names fields)).OfKind v := kind
    rw [issues_of_not_ofKind kind, issues_of_not_ofKind kind', List.filter_cons_of_pos]
    · rfl
    · exact decide_eq_true (not_mem_missing (by simp))

-----------------------------------------------------------------------------------------
-- What issues read like
-----------------------------------------------------------------------------------------

/-- A name without points and colons ends where the first of them is. -/
theorem takeWhile_plain {s behind : List Char} (plain : ∀ c ∈ s, c ≠ '.' ∧ c ≠ ':')
    (stop : ∀ c ∈ behind.head?, c = '.' ∨ c = ':')
    : (s ++ behind).takeWhile (fun c => c != '.' && c != ':') = s := by
  rw [List.takeWhile_append_of_pos fun c member => by simpa using plain c member]
  cases behind with
  | nil => simp
  | cons c behind => rcases stop c rfl with rfl | rfl <;> simp

/-- Names without points and colons are told apart from what follows them in the text of an issue.
-/
theorem eq_of_text_eq {name name' : String} (plain : ∀ c ∈ name.toList, c ≠ '.' ∧ c ≠ ':')
    (plain' : ∀ c ∈ name'.toList, c ≠ '.' ∧ c ≠ ':') {rest : Path} {message : String}
    (same : (Path.text (.member name :: rest)) ++ ": " ++ message = name' ++ ": required")
    : name = name' ∧ rest = [] ∧ message = "required" := by
  have chars : name.toList ++ (pointed rest ++ (':' :: ' ' :: message.toList))
      = name'.toList ++ ": required".toList := by
    simpa [toList_text, Step.text] using congrArg String.toList same
  have first : name.toList = name'.toList := by
    rw [← takeWhile_plain plain, chars, takeWhile_plain plain']
    · simp
    · rcases pointed_cases rest with none | ⟨later, some⟩
      · simp [none]
      · simp [some]
  rw [first] at chars
  have behind := List.append_cancel_left chars
  rcases pointed_cases rest with none | ⟨later, some⟩
  · refine ⟨String.toList_inj.mp first, Place.eq_nil_of_pointed_eq none.symm, ?_⟩
    rw [none] at behind
    exact String.toList_inj.mp (List.append_cancel_left (show [':', ' '] ++ _ = _ ++ _ from behind))
  · rw [some] at behind
    cases behind

theorem head?_append {s : String} {c : Char} (t : String) (start : s.toList.head? = some c)
    : (s ++ t).toList.head? = some c := by
  rw [String.toList_append, List.head?_append, start, Option.some_or]

/-- All that is said of a value as a whole starts with what was expected, but for the words that a
shape has of its own.
-/
theorem FaultAt.head?_message {S : Shape} {fault : Fault} (at_ : S.FaultAt v fault)
    : fault.message.toList.head? = some 'e' ∨ ∃ item, S = .someOf item fault.message := by
  cases at_ with
  | kind => exact .inl (head?_append _ (head?_append _ (head?_append _ (by decide))))
  | unknownName =>
      exact .inl (head?_append _ (head?_append _ (head?_append _ (head?_append _ (by decide)))))
  | outOfRange | fraction => exact .inl (head?_append _ (by decide))
  | empty => exact .inr ⟨_, rfl⟩

/-- What is wrong at the place of a value is wrong with the value as a whole. -/
theorem faultAt_of_departs {S : Shape} {fault : Fault} (departs : S.Departs v [] fault)
    : S.FaultAt v fault := by
  generalize none : ([] : Path) = path at departs
  cases departs with
  | here at_ => exact at_
  | absent | inside => cases none

end Shape

-----------------------------------------------------------------------------------------
-- Drafts
-----------------------------------------------------------------------------------------

/-- The fields that a draft may leave out. -/
def draftNames : List String := ["file_name", "sheets"]

/-- The texts of the issues that are none of a draft. -/
def forgivenTexts : List String := ["file_name: required", "sheets: required"]

theorem forgivenTexts_eq : forgivenTexts = draftNames.map (· ++ ": required") := by
  decide

/-- The fields of requests have names that are told from what follows them in the text of an issue,
and no words of their own for what is missing.
-/
structure Legible (fields : List (String × Bool × Shape)) : Prop where
  filled : ∀ field ∈ fields, field.1 ≠ ""
  plain : ∀ field ∈ fields, ∀ c ∈ field.1.toList, c ≠ '.' ∧ c ≠ ':'
  other : ∀ field ∈ fields, ∀ item message, field.2.2 = .someOf item message → message ≠ "required"

theorem plain_of_all {name : String} (all : name.toList.all (fun c => c != '.' && c != ':') = true)
    : ∀ c ∈ name.toList, c ≠ '.' ∧ c ≠ ':' := by
  simpa using all

/-- A draft is a request two fields of which may be left out. -/
theorem exists_requestShape_eq
    : ∃ fields, requestShape false = .object fields
      ∧ requestShape true = .object (relaxed draftNames fields) ∧ Legible fields := by
  refine ⟨_, rfl, rfl, ?_, ?_, ?_⟩
  · simp [may]
  · simp only [List.forall_mem_cons]
    exact ⟨plain_of_all (by decide), plain_of_all (by decide), plain_of_all (by decide),
      plain_of_all (by decide), fun _ member => absurd member List.not_mem_nil⟩
  · simp [may, metadataShape, optionsShape]

/-- A value departs from the shape of an object and reads as if a field of a draft were missing only
if the field is missing.
-/
theorem Legible.eq_missing {fields : List (String × Bool × Shape)} (legible : Legible fields)
    {v : Value} {issue : Issue} (departs : (object fields).Departs v issue.path issue.fault)
    {name : String} (draft : name ∈ draftNames) (reads : issue.text = name ++ ": required")
    : issue = ⟨[.member name], .required⟩ := by
  have plain : (∀ c ∈ name.toList, c ≠ '.' ∧ c ≠ ':')
      ∧ (name ++ ": required").toList.head? ≠ some 'e' := by
    rcases List.mem_pair.mp draft with rfl | rfl
    all_goals exact ⟨plain_of_all (by decide), by decide⟩
  obtain ⟨path, fault⟩ := issue
  cases path with
  | nil =>
      have start := (faultAt_of_departs departs).head?_message
      have whole : fault.message = name ++ ": required" := reads
      rw [whole] at start
      rcases start with start | ⟨item, ⟨⟩⟩
      exact absurd start plain.2
  | cons step rest =>
      obtain ⟨ms, rfl⟩ : ∃ ms, v = .object ms := by
        cases departs with
        | absent => exact ⟨_, rfl⟩
        | inside part => cases part; exact ⟨_, rfl⟩
      obtain ⟨field, member, _, ⟨⟩, departs⟩ := departs_object.mp departs
      have filled : (Path.text (.member field.1 :: rest)).isEmpty = false := by
        rw [Bool.eq_false_iff, ne_eq, String.isEmpty_iff, ← String.toList_eq_nil_iff, toList_text]
        simp [Step.text, legible.filled field member]
      rw [Issue.text, filled, if_neg (by simp)] at reads
      obtain ⟨rfl, rfl, message⟩ :=
        eq_of_text_eq (legible.plain field member) plain.1 reads
      simp only [FieldDeparts] at departs
      split at departs
      · obtain ⟨-, -, rfl⟩ := departs
        rfl
      · rcases (faultAt_of_departs departs).head?_message with start | ⟨item, shape⟩
        · rw [message] at start
          exact absurd start (by decide)
        · exact absurd message (legible.other field member item _ shape)

/-- An issue of a request reads as if the file name or the sheets were missing only if they are. -/
theorem text_mem_forgivenTexts_iff {v : Value} {issue : Issue} (listed : issue ∈ issues false v)
    : issue.text ∈ forgivenTexts ↔ issue ∈ missing draftNames [] := by
  obtain ⟨fields, shape, -, legible⟩ := exists_requestShape_eq
  rw [issues, shape, mem_issues_iff] at listed
  obtain ⟨_, place, departs⟩ := listed
  rw [List.nil_append] at place
  subst place
  constructor
  · intro reads
    rw [forgivenTexts_eq] at reads
    obtain ⟨name, draft, reads⟩ := List.mem_map.mp reads
    exact List.mem_map.mpr ⟨name, draft, (legible.eq_missing departs draft reads.symm).symm⟩
  · intro member
    obtain ⟨name, draft, rfl⟩ := List.mem_map.mp member
    have reads : ∀ name ∈ draftNames,
        Issue.text ⟨[] ++ [.member name], .required⟩ ∈ forgivenTexts := by decide
    exact reads name draft

/-- The issues of a draft are those of a request, in their order, without the ones that say that the
file name or the sheets are missing.
-/
theorem issues_draft (v : Value)
    : issues true v = (issues false v).filter (·.text ∉ forgivenTexts) := by
  obtain ⟨fields, shape, draft, -⟩ := exists_requestShape_eq
  have forgiven : issues true v = (issues false v).filter (· ∉ missing draftNames []) := by
    rw [issues, issues, shape, draft]
    exact issues_relaxed draftNames fields [] v
  rw [forgiven]
  refine List.filter_congr fun issue listed => ?_
  simp only [text_mem_forgivenTexts_iff listed]

/-- The messages of a draft are those of a request, in their order, without the ones that say that
the file name or the sheets are missing. So a draft is in order just if nothing but these two is
wrong with it as a request, and a request that is accepted is a draft that is in order.
-/
theorem draftMessages_eq_filter (v : Value)
    : draftMessages v = ((issues false v).filter (·.text ∉ forgivenTexts)).map (·.fault.message)
      ∧ (draftMessages v = [] ↔ ∀ issue ∈ issues false v, issue.text ∈ forgivenTexts)
      ∧ ∀ r, validate v = .ok r → draftMessages v = [] := by
  have messages : draftMessages v
      = ((issues false v).filter (·.text ∉ forgivenTexts)).map (·.fault.message) := by
    rw [draftMessages, issues_draft]
  have inOrder : draftMessages v = [] ↔ ∀ issue ∈ issues false v, issue.text ∈ forgivenTexts := by
    simp [messages]
  refine ⟨messages, inOrder, fun r accepted => inOrder.mpr fun issue listed => ?_⟩
  cases found : issues false v with
  | nil =>
      rw [found] at listed
      cases listed
  | cons first rest => simp [validate, found] at accepted

/-- A draft without a file name whose list of sheets is empty has one message. -/
example : draftMessages (.object [("sheets", .array [])]) = ["must contain at least 1 sheet"] := by
  decide +kernel

end Spreadsheet.Request
