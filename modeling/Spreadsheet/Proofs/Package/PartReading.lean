import Spreadsheet.Package.Reader
import Spreadsheet.Proofs.Xml.DocumentReading

/-! Going through the events of a part whose document was written from a tree.
-/

namespace Spreadsheet.Package

open Spreadsheet.Xml

variable {σ : Type} {step : σ → Event → Except ReadError σ} {s : σ}

/-- The document of a part is gone through event by event, and no fault ends that. -/
theorem foldEvents_ofRoot (name : String) {root : Node} (formed : root.EachTag IsTag)
    (step : σ → Event → Except ReadError σ) (start : σ)
    : foldEvents step start (Part.ofRoot name root).content
      = (joinTexts "\n" root.events).foldlM step start := by
  have read : events (Part.ofRoot name root).content.source = ⟨joinTexts "\n" root.events, false⟩ :=
    events_document formed
  rw [foldEvents, read]
  dsimp only
  cases (joinTexts "\n" root.events).foldlM step start with
  | error e => rfl
  | ok state => rfl

-----------------------------------------------------------------------------------------
-- Single events
-----------------------------------------------------------------------------------------

/-- Texts count for nothing in the state. -/
def Deaf (step : σ → Event → Except ReadError σ) (s : σ) : Prop :=
  ∀ text, step s (.text (some text)) = .ok s

/-- Goes through events, with texts beside each other as one. -/
def follow (step : σ → Event → Except ReadError σ) (s : σ) (events : List Event)
    : Except ReadError σ :=
  (joinTexts "" events).foldlM step s

theorem Deaf.foldlM_gathered (deaf : Deaf step s) (text : String)
    : (gathered text).foldlM step s = .ok s := by
  rw [gathered]
  split
  · rfl
  · rw [List.foldlM_cons, deaf]
    rfl

/-- A text in front counts for nothing, by induction on the events behind it. -/
theorem Deaf.foldlM_joinTexts (deaf : Deaf step s) (front : String) (events : List Event)
    : (joinTexts front events).foldlM step s = follow step s events := by
  have skip : ∀ (text : String) (rest : List Event),
      (gathered text ++ rest).foldlM step s = rest.foldlM step s := by
    intro text rest
    rw [List.foldlM_append, deaf.foldlM_gathered]
    rfl
  rw [follow]
  induction events generalizing front with
  | nil => exact (deaf.foldlM_gathered front).trans (deaf.foldlM_gathered "").symm
  | cons event rest ih =>
      cases event with
      | text content =>
          cases content with
          | some text => rw [joinTexts, joinTexts, ih, ih ("" ++ text)]
          | none => rw [joinTexts, joinTexts, skip, skip]
      | start tag => rw [joinTexts, joinTexts, skip, skip]
      | empty tag => rw [joinTexts, joinTexts, skip, skip]
      | close name => rw [joinTexts, joinTexts, skip, skip]

theorem Deaf.follow_text (deaf : Deaf step s) (text : String) (rest : List Event)
    : follow step s (.text (some text) :: rest) = follow step s rest :=
  deaf.foldlM_joinTexts ("" ++ text) rest

theorem follow_start (tag : Tag) (rest : List Event)
    : follow step s (.start tag :: rest) = (step s (.start tag)).bind (follow step · rest) := by
  rw [follow, joinTexts]
  rfl

theorem follow_empty (tag : Tag) (rest : List Event)
    : follow step s (.empty tag :: rest) = (step s (.empty tag)).bind (follow step · rest) := by
  rw [follow, joinTexts]
  rfl

theorem follow_close (name : String) (rest : List Event)
    : follow step s (.close name :: rest) = (step s (.close name)).bind (follow step · rest) := by
  rw [follow, joinTexts]
  rfl

/-- A text between tags is gone through unless it is empty. -/
theorem follow_content (text name : String) (rest : List Event)
    : follow step s (.text (some text) :: .close name :: rest)
      = ((gathered text).foldlM step s).bind fun s => follow step s (.close name :: rest) := by
  rw [follow, joinTexts, joinTexts, String.empty_append, List.foldlM_append]
  rfl

-----------------------------------------------------------------------------------------
-- Readers that take everything
-----------------------------------------------------------------------------------------

/-- Every text of a tree can be told, and putting texts together keeps that. -/
theorem ne_of_mem_joinTexts {events : List Event} (told : .text none ∉ events) (front : String)
    : .text none ∉ joinTexts front events := by
  have visible : ∀ text, Event.text none ∉ gathered text := by
    intro text
    rw [gathered]
    split <;> simp
  induction events generalizing front with
  | nil => exact visible front
  | cons event rest ih =>
      rw [List.mem_cons, not_or] at told
      cases event with
      | text content =>
          cases content with
          | some text => exact ih told.2 _
          | none => exact absurd rfl told.1
      | start tag => simp [joinTexts, visible, ih told.2]
      | empty tag => simp [joinTexts, visible, ih told.2]
      | close name => simp [joinTexts, visible, ih told.2]

mutual

theorem ne_of_mem_events (node : Node) : .text none ∉ node.events := by
  cases node with
  | text content => simp [Node.events]
  | plain content => simp [Node.events]
  | leaf name attributes => simp [Node.events]
  | element name attributes content => simp [Node.events, ne_of_mem_allEvents content]

theorem ne_of_mem_allEvents (nodes : List Node) : .text none ∉ allEvents nodes := by
  cases nodes with
  | nil => exact List.not_mem_nil
  | cons node rest => simp [allEvents, ne_of_mem_events node, ne_of_mem_allEvents rest]

end

/-- A reader that takes every event reads every written document. -/
theorem foldEvents_isOk {name : String} {root : Node} (formed : root.EachTag IsTag)
    (total : ∀ s event, event ≠ .text none → ∃ s', step s event = .ok s') (start : σ)
    : ∃ s', foldEvents step start (Part.ofRoot name root).content = .ok s' := by
  rw [foldEvents_ofRoot name formed]
  have told := ne_of_mem_joinTexts (ne_of_mem_events root) "\n"
  generalize joinTexts "\n" root.events = events at told
  induction events generalizing start with
  | nil => exact ⟨start, rfl⟩
  | cons event rest ih =>
      rw [List.mem_cons, not_or] at told
      obtain ⟨s', taken⟩ := total start event (Ne.symm told.1)
      rw [List.foldlM_cons, taken]
      exact ih s' told.2

-----------------------------------------------------------------------------------------
-- Readers of tags
-----------------------------------------------------------------------------------------

/-- The tag that starts or is an element. -/
def tag? : Event → Option Tag
  | .start tag | .empty tag => some tag
  | .close _ | .text _ => none

/-- Putting texts together leaves the tags, by induction on the events. -/
theorem filterMap_joinTexts (front : String) (events : List Event)
    : (joinTexts front events).filterMap tag? = events.filterMap tag? := by
  have silent : ∀ text, (gathered text).filterMap tag? = [] := by
    intro text
    rw [gathered]
    split <;> rfl
  induction events generalizing front with
  | nil => exact silent front
  | cons event rest ih =>
      cases event with
      | text content =>
          cases content with
          | some text => exact ih _
          | none =>
              rw [joinTexts, List.filterMap_append, silent, List.nil_append,
                List.filterMap_cons_none rfl, List.filterMap_cons_none rfl, ih]
      | start tag => simp [joinTexts, silent, ih, tag?]
      | empty tag => simp [joinTexts, silent, ih, tag?]
      | close name =>
          rw [joinTexts, List.filterMap_append, silent, List.nil_append,
            List.filterMap_cons_none rfl, List.filterMap_cons_none rfl, ih]

theorem foldlM_onTags (take : σ → Tag → σ) (start : σ) (events : List Event)
    : events.foldlM (onTags take) start = .ok ((events.filterMap tag?).foldl take start) := by
  induction events generalizing start with
  | nil => rfl
  | cons event rest ih =>
      cases event with
      | start tag => exact ih (take start tag)
      | empty tag => exact ih (take start tag)
      | close name => exact ih start
      | text content => exact ih start

/-- A reader of tags goes through the tags of the tree. -/
theorem foldEvents_onTags {name : String} {root : Node} (formed : root.EachTag IsTag)
    (take : σ → Tag → σ) (start : σ)
    : foldEvents (onTags take) start (Part.ofRoot name root).content
      = .ok ((root.events.filterMap tag?).foldl take start) := by
  rw [foldEvents_ofRoot name formed, foldlM_onTags, filterMap_joinTexts]

end Spreadsheet.Package
