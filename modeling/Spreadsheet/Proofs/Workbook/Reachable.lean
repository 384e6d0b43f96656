import Mathlib.Data.List.Induction
import Spreadsheet.Proofs.Sheet.MergedRanges
import Spreadsheet.Workbook.Basic

/-! Workbooks that can be built: sheets are added under new names and then changed one operation
at a time. An operation that fails leaves its sheet as it says.
-/

namespace Spreadsheet

namespace Workbook

/-- The workbooks that can be built. -/
inductive Reachable : Workbook → Prop where
  | empty : Reachable {}
  | add {w w' : Workbook} {name : String} (reached : Reachable w) (added : w.add { name } = .ok w')
    : Reachable w'
  | edit {w : Workbook} (reached : Reachable w) (i : Nat) (edit : Sheet.Edit)
    : Reachable { w with sheets := w.sheets.modify i (Sheet.apply · edit) }
  | describe {w : Workbook} (reached : Reachable w) (properties : Properties)
    : Reachable { w with properties }

-----------------------------------------------------------------------------------------
-- Names of sheets
-----------------------------------------------------------------------------------------

/-- Sheets can have these names beside each other: each is one for a sheet, and no two of them are
the same but for the case of their letters.
-/
structure Acceptable (names : List String) : Prop where
  proper : ∀ name ∈ names, checkName name = .ok ()
  distinct : names.Pairwise fun a b => sameName a b = false

/-- The name can join some others. -/
structure Joins (names : List String) (name : String) : Prop where
  proper : checkName name = .ok ()
  new : ∀ other ∈ names, sameName other name = false

/-- Names are acceptable if each can join those before it. -/
theorem acceptable_concat {names : List String} {name : String}
    : Acceptable (names ++ [name]) ↔ Acceptable names ∧ Joins names name := by
  constructor
  · rintro ⟨proper, distinct⟩
    obtain ⟨before, -, apart⟩ := List.pairwise_append.mp distinct
    exact ⟨⟨fun other member => proper other (List.mem_append_left _ member), before⟩,
      proper name (by simp), fun other member => apart other member name (by simp)⟩
  · rintro ⟨⟨proper, distinct⟩, joins⟩
    refine ⟨fun other member => ?_, ?_⟩
    · rcases List.mem_append.mp member with member | member
      · exact proper other member
      · cases List.mem_singleton.mp member
        exact joins.proper
    · refine List.pairwise_append.mpr ⟨distinct, List.pairwise_singleton _ _, ?_⟩
      intro other member last single
      cases List.mem_singleton.mp single
      exact joins.new other member

/-- Some of the first names are acceptable if all names are. -/
theorem Acceptable.front {names others : List String} (acceptable : Acceptable (names ++ others))
    : Acceptable names where
  proper name member := acceptable.proper name (List.mem_append_left _ member)
  distinct := (List.pairwise_append.mp acceptable.distinct).1

variable {w w' : Workbook}

/-- A name is free if it can join those of the sheets. -/
theorem checkNewName_eq_ok {name : String}
    : w.checkNewName name = .ok () ↔ Joins (w.sheets.map (·.name)) name := by
  have any : w.sheets.any (sameName ·.name name) = true
      ↔ ¬ ∀ other ∈ w.sheets.map (·.name), sameName other name = false := by
    simp
  rw [checkNewName, bind_eq_ok]
  constructor
  · rintro ⟨_, proper, new⟩
    refine ⟨mapError_eq_ok.mp proper, Classical.byContradiction fun taken => ?_⟩
    rw [if_pos (any.mpr taken)] at new
    cases new
  · rintro ⟨proper, new⟩
    refine ⟨(), mapError_eq_ok.mpr proper, ?_⟩
    rw [if_neg fun taken => any.mp taken new]
    rfl

/-- The sheets have names that they can have beside each other. -/
def Named (w : Workbook) : Prop := Acceptable (w.sheets.map (·.name))

theorem map_name_modify (sheets : List Sheet) (i : Nat) {f : Sheet → Sheet}
    (kept : ∀ s ∈ sheets, (f s).name = s.name)
    : (sheets.modify i f).map (·.name) = sheets.map (·.name) := by
  induction sheets generalizing i with
  | nil => rw [List.modify_nil]
  | cons s rest ih =>
      cases i with
      | zero =>
          rw [List.modify_zero_cons, List.map_cons, List.map_cons, kept s List.mem_cons_self]
      | succ i =>
          rw [List.modify_succ_cons, List.map_cons, List.map_cons,
            ih i fun s member => kept s (List.mem_cons_of_mem _ member)]

theorem mem_modify_cases {sheets : List Sheet} {i : Nat} {f : Sheet → Sheet} {s' : Sheet}
    (member : s' ∈ sheets.modify i f)
    : ∃ s ∈ sheets, s' = s ∨ s' = f s := by
  obtain ⟨j, found⟩ := List.mem_iff_getElem?.mp member
  rw [List.getElem?_modify] at found
  obtain ⟨s, kept, same⟩ := Option.map_eq_some_iff.mp found
  refine ⟨s, List.mem_of_getElem? kept, ?_⟩
  split at same
  · exact .inr same.symm
  · exact .inl same.symm

/-- A sheet joins the others if its name can. -/
theorem add_eq_ok {s : Sheet}
    : w.add s = .ok w'
      ↔ w.checkNewName s.name = .ok () ∧ w' = { w with sheets := w.sheets ++ [s] } := by
  rw [add, bind_eq_ok]
  constructor
  · rintro ⟨_, free, done⟩
    cases done
    exact ⟨free, rfl⟩
  · rintro ⟨free, rfl⟩
    exact ⟨(), free, rfl⟩

-----------------------------------------------------------------------------------------
-- What can be built
-----------------------------------------------------------------------------------------

/-- What holds of blank sheets and is kept by each operation holds of all sheets, by induction on
how the workbook was built.
-/
theorem Reachable.forall_sheets {property : Sheet → Prop} (blank : ∀ name, property { name })
    (kept : ∀ s edit, property s → property (s.apply edit)) (reached : w.Reachable)
    : ∀ s ∈ w.sheets, property s := by
  induction reached with
  | empty => exact fun s member => absurd member List.not_mem_nil
  | add reached added ih =>
      obtain ⟨-, rfl⟩ := add_eq_ok.mp added
      intro s member
      rcases List.mem_append.mp member with member | member
      · exact ih s member
      · cases List.mem_singleton.mp member
        exact blank _
  | edit reached i edit ih =>
      intro s' member
      obtain ⟨s, before, rfl | rfl⟩ := mem_modify_cases member
      · exact ih _ before
      · exact kept s edit (ih s before)
  | describe reached properties ih => exact ih

/-- The settings of all sheets are as outlines ask for. -/
theorem Reachable.outlined (reached : w.Reachable) : ∀ s ∈ w.sheets, s.Outlined :=
  reached.forall_sheets Sheet.Outlined.blank fun _ edit outlined =>
    (Sheet.apply_keeps outlined edit).outlined

/-- The pools of all sheets know the styles of their cells. -/
theorem Reachable.sound (reached : w.Reachable) : ∀ s ∈ w.sheets, s.cells.Sound :=
  reached.forall_sheets (fun _ => Cell.Grid.Sound.empty) fun _ edit sound =>
    Sheet.apply_sound sound edit

/-- No merged ranges of a sheet overlap. -/
theorem Reachable.mergesClear (reached : w.Reachable) : ∀ s ∈ w.sheets, s.MergesClear :=
  reached.forall_sheets (fun _ => .nil) fun _ edit clear => clear.apply edit

/-- Splits keep something in view. -/
theorem Reachable.holdsSplit (reached : w.Reachable) : ∀ s ∈ w.sheets, s.HoldsSplit :=
  reached.forall_sheets (fun _ => nofun) fun _ edit holds => holds.apply edit

/-- Merged ranges with their corners in order are clear of each other. -/
theorem Reachable.mergesApart (reached : w.Reachable) {s : Sheet} (member : s ∈ w.sheets)
    (inOrder : s.InOrder)
    : s.MergesApart :=
  (Sheet.mergesApart_iff fun r merged => Cell.Range.normalized_eq_self_iff.mpr
    (inOrder r (Sheet.mem_ranges_of_merged merged))).mpr (reached.mergesClear s member)

/-- The sheets have names that could join one after the other. -/
theorem Reachable.named (reached : w.Reachable) : w.Named := by
  induction reached with
  | empty => exact ⟨fun _ member => absurd member List.not_mem_nil, .nil⟩
  | add reached added ih =>
      obtain ⟨free, rfl⟩ := add_eq_ok.mp added
      rw [Named, List.map_append]
      exact acceptable_concat.mpr ⟨ih, checkNewName_eq_ok.mp free⟩
  | edit reached i edit ih =>
      have kept := fun s member => (Sheet.apply_keeps (reached.outlined s member) edit).name
      rw [Named, map_name_modify _ i kept]
      exact ih
  | describe reached properties ih => exact ih

/-- Everything that can be built has names that could join one after the other and settings as
outlines ask for.
-/
theorem Reachable.named_and_outlined (reached : w.Reachable)
    : w.Named ∧ ∀ s ∈ w.sheets, s.Outlined :=
  ⟨reached.named, reached.outlined⟩

/-- A sheet after some operations. -/
def edited (name : String) (edits : List Sheet.Edit) : Sheet := edits.foldl Sheet.apply { name }

/-- If the ranges that operations put on a sheet have their corners in order, all have. -/
theorem edited_inOrder {name : String} {edits : List Sheet.Edit}
    (ordered : ∀ edit ∈ edits, ∀ r ∈ edit.ranges, r.Ordered)
    : (edited name edits).InOrder := by
  induction edits using List.reverseRecOn with
  | nil => exact fun _ member => absurd member List.not_mem_nil
  | append_singleton edits edit ih =>
      rw [edited, List.foldl_append]
      exact (ih fun other member => ordered other (List.mem_append_left _ member)).apply
        (ordered edit (by simp))

/-- A workbook with one sheet that operations have changed can be built. -/
theorem reachable_edited {name : String} (free : ({} : Workbook).checkNewName name = .ok ())
    (edits : List Sheet.Edit)
    : Reachable { sheets := [edited name edits] } := by
  induction edits using List.reverseRecOn with
  | nil => exact .add .empty (add_eq_ok.mpr ⟨free, rfl⟩)
  | append_singleton edits edit ih =>
      have step := ih.edit 0 edit
      rw [edited, List.foldl_append]
      exact step

end Workbook

end Spreadsheet
