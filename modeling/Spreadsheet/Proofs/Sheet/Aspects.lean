import Spreadsheet.Proofs.Sheet.Operations

/-! What can be asked of a sheet, and changes that give a new answer to one question and leave the
answers to all others.
-/

namespace Spreadsheet

open Spreadsheet.Cell

namespace Sheet

/-- What can be asked of a sheet, apart from its name and its merged ranges. -/
inductive Aspect where
  | value (row column : Nat)
  | style (row column : Nat)
  | line (axis : Axis) (i : Nat)
  | freeze
  | filter

namespace Aspect

/-- What an answer is. -/
abbrev Answer : Aspect → Type
  | .value _ _ => Value
  | .style _ _ => Style
  | .line _ _ => Setting
  | .freeze => Option Freeze
  | .filter => Option Range

/-- The answer that an untouched sheet gives. -/
def blank : (a : Aspect) → a.Answer
  | .value _ _ => .empty
  | .style _ _ => {}
  | .line _ _ => {}
  | .freeze => none
  | .filter => none

end Aspect

/-- The answer of a sheet. -/
def view (s : Sheet) : (a : Aspect) → a.Answer
  | .value row column => s.value row column
  | .style row column => s.style row column
  | .line axis i => Settings.get (s.lines axis) i
  | .freeze => s.freeze
  | .filter => s.filter

theorem Settings.get_empty (i : Nat) : get ∅ i = {} := Std.ExtTreeMap.getD_empty

theorem view_blank (name : String) (a : Aspect) : ({ name } : Sheet).view a = a.blank := by
  cases a with
  | value row column => exact Grid.value_empty row column
  | style row column => exact Grid.style_empty row column
  | line axis i => cases axis <;> exact Settings.get_empty i
  | freeze => rfl
  | filter => rfl

-----------------------------------------------------------------------------------------
-- One answer at a time
-----------------------------------------------------------------------------------------

/-- The sheet gives a new answer to one question, and nothing is merged. -/
structure Changes (a : Aspect) (answer : a.Answer) (s s' : Sheet) : Prop where
  merged : s'.merged = s.merged
  sound : s.cells.Sound → s'.cells.Sound
  here : s'.view a = answer
  others : ∀ b, b ≠ a → s'.view b = s.view b

variable {s s' s'' : Sheet} {a : Aspect} {answer answer' : a.Answer}

theorem Changes.refl (s : Sheet) (a : Aspect) : Changes a (s.view a) s s where
  merged := rfl
  sound := id
  here := rfl
  others _ _ := rfl

/-- The last of two answers to one question counts. -/
theorem Changes.trans (first : Changes a answer s s') (second : Changes a answer' s' s'')
    : Changes a answer' s s'' where
  merged := second.merged.trans first.merged
  sound := second.sound ∘ first.sound
  here := second.here
  others b other := (second.others b other).trans (first.others b other)

/-- Changing cells alone leaves the answers about everything else. -/
theorem view_eq_of_cells {cells : Grid} {b : Aspect}
    (value : ∀ row column, b = .value row column
      → cells.value row column = s.cells.value row column)
    (style : ∀ row column, b = .style row column
      → cells.style row column = s.cells.style row column)
    : ({ s with cells } : Sheet).view b = s.view b := by
  cases b with
  | value row column => exact value row column rfl
  | style row column => exact style row column rfl
  | line axis i => cases axis <;> rfl
  | freeze => rfl
  | filter => rfl

theorem changes_setValue (s : Sheet) (row column : Nat) (v : Value)
    : Changes (.value row column) v s { s with cells := s.cells.setValue row column v } where
  merged := rfl
  sound sound := sound.setValue row column v
  here := (Grid.value_setValue s.cells row column v row column).trans (if_pos ⟨rfl, rfl⟩)
  others b other := by
    refine view_eq_of_cells (fun r c same => ?_) fun r c _ => ?_
    · rw [Grid.value_setValue, if_neg]
      rintro ⟨rfl, rfl⟩
      exact other same
    · exact Grid.style_setValue s.cells row column v r c

/-- The styles of cells are numbers in a pool, so that the others stay only if it knows them all. -/
theorem changes_setStyle (sound : s.cells.Sound) (row column : Nat) (style : Style)
    : Changes (.style row column) style s
        { s with cells := s.cells.setStyle row column style } where
  merged := rfl
  sound _ := sound.setStyle row column style
  here := (sound.style_setStyle row column style row column).trans (if_pos ⟨rfl, rfl⟩)
  others b other := by
    refine view_eq_of_cells (fun r c _ => ?_) fun r c same => ?_
    · exact Grid.value_setStyle s.cells row column style r c
    · rw [sound.style_setStyle, if_neg]
      rintro ⟨rfl, rfl⟩
      exact other same

theorem changes_insertLine (s : Sheet) (axis : Axis) (i : Nat) (setting : Setting)
    : Changes (.line axis i) setting s (s.withLines axis ((s.lines axis).insert i setting)) where
  merged := by cases axis <;> rfl
  sound sound := by cases axis <;> exact sound
  here := by cases axis <;> exact Std.ExtTreeMap.getD_insert_self
  others b other := by
    cases b with
    | value row column => cases axis <;> rfl
    | style row column => cases axis <;> rfl
    | freeze => cases axis <;> rfl
    | filter => cases axis <;> rfl
    | line axis' j =>
        by_cases elsewhere : axis' = axis
        · subst elsewhere
          have apart : ¬ compare i j = .eq := by
            rw [Std.compare_eq_iff_eq]
            rintro rfl
            exact other rfl
          cases axis' <;> exact Std.ExtTreeMap.getD_insert.trans (if_neg apart)
        · cases axis <;> cases axis' <;> first | rfl | exact absurd rfl elsewhere

theorem changes_setFreeze (s : Sheet) (rows columns : Nat)
    : Changes .freeze (if rows = 0 ∧ columns = 0 then none else some ⟨rows, columns⟩) s
        (s.setFreeze rows columns) where
  merged := rfl
  sound := id
  here := rfl
  others b other := by
    cases b with
    | freeze => exact absurd rfl other
    | line axis i => cases axis <;> rfl
    | value | style | filter => rfl

theorem changes_filter (s : Sheet) (filter : Option Range)
    : Changes .filter filter s { s with filter } where
  merged := rfl
  sound := id
  here := rfl
  others b other := by
    cases b with
    | filter => exact absurd rfl other
    | line axis i => cases axis <;> rfl
    | value | style | freeze => rfl

-----------------------------------------------------------------------------------------
-- On the way to a goal
-----------------------------------------------------------------------------------------

/-- An answer to each question. -/
abbrev Goal := (a : Aspect) → a.Answer

/-- The sheet answers each question as the goal does, or not yet. -/
structure Nears (goal : Goal) (s : Sheet) : Prop where
  sound : s.cells.Sound
  answers : ∀ a, s.view a = a.blank ∨ s.view a = goal a

theorem Nears.start (goal : Goal) (name : String) : ({ name } : Sheet).Nears goal where
  sound := Grid.Sound.empty
  answers a := .inl (view_blank name a)

/-- A step on the way to the goal: no answer that is right is lost, those that are covered are
right, and nothing is merged.
-/
structure Brings (goal : Goal) (covers : Aspect → Prop) (s s' : Sheet) : Prop where
  merged : s.Nears goal → s'.merged = s.merged
  nears : s.Nears goal → s'.Nears goal
  stays : s.Nears goal → ∀ a, s.view a = goal a → s'.view a = goal a
  comes : s.Nears goal → ∀ a, covers a → s'.view a = goal a

namespace Brings

variable {goal : Goal} {covers covers' : Aspect → Prop}

/-- Where the goal asks for nothing, nothing needs to be done. -/
theorem refl (goal : Goal) (s : Sheet) : Brings goal (fun a => goal a = a.blank) s s where
  merged _ := rfl
  nears := id
  stays _ _ right := right
  comes nears a nothing := by
    rcases nears.answers a with untouched | right
    · rw [untouched, nothing]
    · exact right

theorem trans (first : Brings goal covers s s') (second : Brings goal covers' s' s'')
    : Brings goal (fun a => covers a ∨ covers' a) s s'' where
  merged nears := (second.merged (first.nears nears)).trans (first.merged nears)
  nears := second.nears ∘ first.nears
  stays nears a right := second.stays (first.nears nears) a (first.stays nears a right)
  comes nears a covered := by
    rcases covered with covered | covered
    · exact second.stays (first.nears nears) a (first.comes nears a covered)
    · exact second.comes (first.nears nears) a covered

theorem mono (brings : Brings goal covers s s') (fewer : ∀ a, covers' a → covers a)
    : Brings goal covers' s s' :=
  { brings with comes := fun nears a covered => brings.comes nears a (fewer a covered) }

/-- A change to the right answer is a step that covers it. -/
theorem of_changes (changes : s.cells.Sound → Changes a answer s s')
    (right : s.view a = a.blank ∨ s.view a = goal a → answer = goal a)
    : Brings goal (· = a) s s' := by
  have comes (nears : s.Nears goal) : s'.view a = goal a :=
    (changes nears.sound).here.trans (right (nears.answers a))
  refine ⟨fun nears => (changes nears.sound).merged, fun nears => ?_, fun nears b same => ?_, ?_⟩
  · refine ⟨(changes nears.sound).sound nears.sound, fun b => ?_⟩
    by_cases other : b = a
    · subst other
      exact .inr (comes nears)
    · rw [(changes nears.sound).others b other]
      exact nears.answers b
  · by_cases other : b = a
    · subst other
      exact comes nears
    · rw [(changes nears.sound).others b other]
      exact same
  · rintro nears b rfl
    exact comes nears

end Brings

end Sheet

end Spreadsheet
