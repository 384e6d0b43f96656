import Spreadsheet.Proofs.Package.PartReading
import Spreadsheet.Proofs.Package.SheetTags

/-! Pieces of a sheet's document, and what reading them one after the other does to the sheet.
Between the pieces nothing of a cell is known, so that blanks and line breaks count for nothing.
-/

namespace Spreadsheet.Package

open Spreadsheet.Xml

namespace SheetReading

-----------------------------------------------------------------------------------------
-- Single pieces
-----------------------------------------------------------------------------------------

/-- Reading the piece takes one sheet to the other, whatever comes behind. -/
def Takes (shared : Shared) (node : Node) (s s' : Sheet) : Prop :=
  ∀ events, follow (step shared) { sheet := s } (node.events ++ events)
    = follow (step shared) { sheet := s' } events

/-- Reading the piece fails on the sheet, whatever comes behind. -/
def Refuses (shared : Shared) (node : Node) (s : Sheet) : Prop :=
  ∃ e, ∀ events, follow (step shared) { sheet := s } (node.events ++ events) = .error e

/-- Reading the pieces takes one sheet to the other. -/
inductive TakesAll (shared : Shared) : List Node → Sheet → Sheet → Prop where
  | nil {s} : TakesAll shared [] s s
  | cons {node rest s s' s''} (first : Takes shared node s s')
      (others : TakesAll shared rest s' s'')
    : TakesAll shared (node :: rest) s s''

/-- Reading the pieces fails at one of them. -/
inductive RefusesOne (shared : Shared) : List Node → Sheet → Prop where
  | here {node rest s} (refused : Refuses shared node s) : RefusesOne shared (node :: rest) s
  | later {node rest s s'} (first : Takes shared node s s') (others : RefusesOne shared rest s')
    : RefusesOne shared (node :: rest) s

variable {shared : Shared} {s s' s'' : Sheet} {name : String}
  {attributes : List (String × String)} {nodes : List Node}

theorem deaf (s : Sheet) : Deaf (step shared) { sheet := s } := fun _ => rfl

theorem Takes.text (content : String) : Takes shared (.text content) s s :=
  fun events => (deaf s).follow_text (legalPart content) events

theorem Takes.plain (content : String) : Takes shared (.plain content) s s :=
  fun events => (deaf s).follow_text (legalPart content) events

theorem Takes.leaf
    (taken : SheetReading.empty shared { sheet := s } ⟨name, readAttributes attributes⟩
      = .ok { sheet := s' })
    : Takes shared (.leaf name attributes) s s' := by
  intro events
  rw [Node.events, List.singleton_append, follow_empty, step, taken]
  rfl

theorem Refuses.leaf {e : ReadError}
    (refused
      : SheetReading.empty shared { sheet := s } ⟨name, readAttributes attributes⟩ = .error e)
    : Refuses shared (.leaf name attributes) s := by
  refine ⟨e, fun events => ?_⟩
  rw [Node.events, List.singleton_append, follow_empty, step, refused]
  rfl

-----------------------------------------------------------------------------------------
-- Several pieces
-----------------------------------------------------------------------------------------

theorem TakesAll.single {node : Node} (taken : Takes shared node s s')
    : TakesAll shared [node] s s' :=
  .cons taken .nil

theorem TakesAll.append {nodes' : List Node} (first : TakesAll shared nodes s s')
    (second : TakesAll shared nodes' s' s'')
    : TakesAll shared (nodes ++ nodes') s s'' := by
  induction first with
  | nil => exact second
  | cons taken _ ih => exact .cons taken (ih second)

theorem RefusesOne.append_left (refused : RefusesOne shared nodes s) (nodes' : List Node)
    : RefusesOne shared (nodes ++ nodes') s := by
  induction refused with
  | here refused => exact .here refused
  | later taken _ ih => exact .later taken ih

theorem RefusesOne.append_right {nodes' : List Node} (first : TakesAll shared nodes s s')
    (second : RefusesOne shared nodes' s')
    : RefusesOne shared (nodes ++ nodes') s := by
  induction first with
  | nil => exact second
  | cons taken _ ih => exact .later taken (ih second)

theorem TakesAll.follow_eq (taken : TakesAll shared nodes s s') (events : List Event)
    : follow (step shared) { sheet := s } (allEvents nodes ++ events)
      = follow (step shared) { sheet := s' } events := by
  induction taken with
  | nil => rfl
  | cons first _ ih => rw [allEvents, List.append_assoc, first, ih]

theorem RefusesOne.follow_eq (refused : RefusesOne shared nodes s)
    : ∃ e, ∀ events,
        follow (step shared) { sheet := s } (allEvents nodes ++ events) = .error e := by
  induction refused with
  | here refused =>
      obtain ⟨e, refused⟩ := refused
      exact ⟨e, fun events => by rw [allEvents, List.append_assoc, refused]⟩
  | later first _ ih =>
      obtain ⟨e, refused⟩ := ih
      exact ⟨e, fun events => by rw [allEvents, List.append_assoc, first, refused]⟩

-----------------------------------------------------------------------------------------
-- Elements
-----------------------------------------------------------------------------------------

/-- The end of an element is passed over unless it ends a cell or one of its parts. -/
theorem close_unread (outside : name ∉ ["v", "f", "t", "c"]) (state : SheetReading)
    : state.close shared name = .ok state := by
  simp only [List.mem_cons, List.not_mem_nil, or_false, not_or] at outside
  simp [close, outside]

theorem Takes.element {content : List Node} (outside : name ∉ ["v", "f", "t", "c"])
    (entered : SheetReading.start { sheet := s } ⟨name, readAttributes attributes⟩
      = .ok { sheet := s' })
    (inner : TakesAll shared content s' s'')
    : Takes shared (.element name attributes content) s s'' := by
  intro events
  rw [Node.events, List.cons_append, List.append_assoc, follow_start, step, entered]
  change follow (step shared) { sheet := s' } _ = _
  rw [inner.follow_eq, List.singleton_append, follow_close, step, close_unread outside]
  rfl

theorem Refuses.element {content : List Node}
    (entered : SheetReading.start { sheet := s } ⟨name, readAttributes attributes⟩
      = .ok { sheet := s' })
    (inner : RefusesOne shared content s')
    : Refuses shared (.element name attributes content) s := by
  obtain ⟨e, refused⟩ := inner.follow_eq
  refine ⟨e, fun events => ?_⟩
  rw [Node.events, List.cons_append, List.append_assoc, follow_start, step, entered]
  exact refused _

/-- Line breaks between pieces count for nothing, by induction on the pieces. -/
theorem TakesAll.lines (blanks : Nat) (taken : TakesAll shared nodes s s')
    : TakesAll shared (nodes.flatMap fun item => [Node.newLine blanks, item]) s s' := by
  induction taken with
  | nil => exact .nil
  | cons first _ ih => exact .cons (.plain _) (.cons first ih)

theorem RefusesOne.lines (blanks : Nat) (refused : RefusesOne shared nodes s)
    : RefusesOne shared (nodes.flatMap fun item => [Node.newLine blanks, item]) s := by
  induction refused with
  | here refused => exact .later (.plain _) (.here refused)
  | later first _ ih => exact .later (.plain _) (.later first ih)

theorem Takes.block {width depth : Nat} (outside : name ∉ ["v", "f", "t", "c"])
    (entered : SheetReading.start { sheet := s } ⟨name, readAttributes attributes⟩
      = .ok { sheet := s' })
    (inner : TakesAll shared nodes s' s'')
    : Takes shared (.block width depth name attributes nodes) s s'' :=
  .element outside entered ((inner.lines _).append (.single (.plain _)))

theorem Refuses.block {width depth : Nat}
    (entered : SheetReading.start { sheet := s } ⟨name, readAttributes attributes⟩
      = .ok { sheet := s' })
    (inner : RefusesOne shared nodes s')
    : Refuses shared (.block width depth name attributes nodes) s :=
  .element entered ((inner.lines _).append_left _)

-----------------------------------------------------------------------------------------
-- Changes of the sheet
-----------------------------------------------------------------------------------------

theorem onSheet_of_ok {state : SheetReading} {change : Sheet → Except ModelError Sheet}
    {sheet : Sheet} (changed : change state.sheet = .ok sheet)
    : state.onSheet change = .ok { state with sheet } := by
  rw [onSheet, changed]
  rfl

theorem onSheet_of_error {state : SheetReading} {change : Sheet → Except ModelError Sheet}
    {e : ModelError} (refused : change state.sheet = .error e)
    : state.onSheet change = .error (.model e) := by
  rw [onSheet, refused]
  rfl

-----------------------------------------------------------------------------------------
-- What is passed over
-----------------------------------------------------------------------------------------

theorem start_unread (unread : name ∉ readElements)
    : SheetReading.start { sheet := s } ⟨name, readAttributes attributes⟩
      = .ok { sheet := s } := by
  simp only [readElements, List.mem_cons, List.not_mem_nil, or_false, not_or] at unread
  simp [start, unread]

theorem empty_unread (unread : name ∉ readElements)
    : SheetReading.empty shared { sheet := s } ⟨name, readAttributes attributes⟩
      = .ok { sheet := s } := by
  simp only [readElements, List.mem_cons, List.not_mem_nil, or_false, not_or] at unread
  simp [SheetReading.empty, unread]

mutual

/-- A piece without a tag that is read leaves the sheet, whatever texts it holds. -/
theorem Takes.quiet (node : Node) (quiet : node.EachTag IsQuiet) : Takes shared node s s := by
  cases node with
  | text content => exact .text content
  | plain content => exact .plain content
  | leaf name attributes => exact .leaf (empty_unread quiet.unread)
  | element name attributes content =>
      have outside : name ∉ ["v", "f", "t", "c"] := by
        intro member
        refine quiet.1.unread ?_
        simp only [List.mem_cons, List.not_mem_nil, or_false] at member
        rcases member with rfl | rfl | rfl | rfl <;> simp [readElements]
      exact .element outside (start_unread quiet.1.unread) (.quiet content quiet.2)

theorem TakesAll.quiet (nodes : List Node) (quiet : EachTagOf IsQuiet nodes)
    : TakesAll shared nodes s s := by
  cases nodes with
  | nil => exact .nil
  | cons node rest => exact .cons (.quiet node quiet.1) (.quiet rest quiet.2)

end

end SheetReading

end Spreadsheet.Package
