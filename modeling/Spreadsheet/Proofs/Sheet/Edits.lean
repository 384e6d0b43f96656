import Spreadsheet.Proofs.Sheet.Operations

/-! The operations on sheets as data, what none of them does to a sheet, and runs of them.
-/

namespace Spreadsheet

open Spreadsheet.Cell

namespace Sheet

/-- An operation on a sheet. -/
inductive Edit where
  | setValue (row column : Nat) (value : Value)
  | setValueAt (address : String) (value : Value)
  | setFormula (row column : Nat) (text : String)
  | setStyle (row column : Nat) (style : Style)
  | updateStyle (row column : Nat) (change : Style → Style)
  | setSize (axis : Axis) (i : Nat) (size : Number.Binary64)
  | setHidden (axis : Axis) (i : Nat) (hidden : Bool)
  | setOutline (axis : Axis) (i level : Nat)
  | group (axis : Axis) (g : OutlineGroup)
  | merge (range : Range)
  | setFreeze (rows columns : Nat)
  | setFilter (range : Range)
  | setPage (page : PageSetup)
  | setHeaderFooter (headerFooter : HeaderFooter)
  | protect (protection : Protection)
  | addRule (rule : Rule)
  | addValidation (validation : Validation)
  | addChart (chart : Chart)
  | addPicture (picture : Picture)
  | insertRows (start count : Nat)

/-- The sheet after an operation that changes nothing if it fails. -/
def orSame (s : Sheet) : Except ModelError Sheet → Sheet
  | .ok s' => s'
  | .error _ => s

/-- The sheet after an operation, whether that has failed or not. -/
def apply (s : Sheet) : Edit → Sheet
  | .setValue row column value => s.orSame (s.setValue row column value)
  | .setValueAt address value => s.orSame (s.setValueAt address value)
  | .setFormula row column text => s.orSame (s.setFormula row column text)
  | .setStyle row column style => s.orSame (s.setStyle row column style)
  | .updateStyle row column change => s.orSame (s.updateStyle row column change)
  | .setSize axis i size => s.orSame (s.setSize axis i size)
  | .setHidden axis i hidden => s.orSame (s.setHidden axis i hidden)
  | .setOutline axis i level => s.orSame (s.setOutline axis i level)
  | .group axis g => (s.group axis g).1
  | .merge range => s.orSame (s.merge range)
  | .setFreeze rows columns => s.setFreeze rows columns
  | .setFilter range => { s with filter := some range }
  | .setPage page => { s with page := some page }
  | .setHeaderFooter headerFooter => { s with headerFooter := some headerFooter }
  | .protect protection => { s with protection := some protection }
  | .addRule rule => s.addRule rule
  | .addValidation validation => s.addValidation validation
  | .addChart chart => s.addChart chart
  | .addPicture picture => s.addPicture picture
  | .insertRows start count => s.orSame (s.insertRows start count)

/-- What holds of a sheet and of the result of an operation holds after the operation. -/
theorem orSame_cases {motive : Sheet → Prop} {s : Sheet} {result : Except ModelError Sheet}
    (same : motive s) (done : ∀ s', result = .ok s' → motive s')
    : motive (s.orSame result) := by
  cases result with
  | error e => exact same
  | ok s' => exact done s' rfl

-----------------------------------------------------------------------------------------
-- What operations keep
-----------------------------------------------------------------------------------------

/-- Levels are within their limit, and settings of columns belong to columns of a sheet. -/
structure Settings.Outlined (axis : Axis) (m : Settings) : Prop where
  shallow : ∀ (i : Nat) (setting : Setting), m[i]? = some setting
    → setting.outlineLevel ≤ maxOutlineLevel
  columns : axis = .columns → ∀ i ∈ m, i < maxColumns

/-- The settings along both axes are as outlines ask for. -/
def Outlined (s : Sheet) : Prop := ∀ axis, Settings.Outlined axis (s.lines axis)

variable {s s' : Sheet} {axis : Axis} {m : Settings}

namespace Settings

theorem Outlined.get_le (outlined : Outlined axis m) (i : Nat)
    : (get m i).outlineLevel ≤ maxOutlineLevel := by
  rw [get, Std.ExtTreeMap.getD_eq_getD_getElem?]
  cases found : m[i]? with
  | none => exact Nat.zero_le _
  | some setting => exact outlined.shallow i setting found

/-- A setting changes with a level within the limit, or with the level that it had. -/
theorem Outlined.insert (outlined : Outlined axis m) {i : Nat} (inside : i < axis.limit)
    {setting : Setting}
    (level : setting.outlineLevel ≤ maxOutlineLevel
      ∨ setting.outlineLevel = (get m i).outlineLevel)
    : Outlined axis (m.insert i setting) where
  shallow j other found := by
    rw [Std.ExtTreeMap.getElem?_insert] at found
    split at found
    · cases found
      rcases level with shallow | same
      · exact shallow
      · rw [same]
        exact outlined.get_le i
    · exact outlined.shallow j other found
  columns isColumns j member := by
    subst isColumns
    rw [Std.ExtTreeMap.mem_insert, Std.compare_eq_iff_eq] at member
    rcases member with rfl | member
    · exact inside
    · exact outlined.columns rfl j member

/-- Grouping keeps levels within their limit, whether it succeeds or fails halfway. -/
theorem Outlined.group (outlined : Outlined axis m) (g : OutlineGroup)
    : Outlined axis (group axis g m).1 := by
  refine group_preserves (motive := Outlined axis) ?_ g outlined
  intro m i setting inside _ level outlined
  exact outlined.insert inside level

end Settings

theorem setOutline_eq_ok {i level : Nat}
    : s.setOutline axis i level = .ok s'
      ↔ level ≤ maxOutlineLevel ∧ i < axis.limit
        ∧ s' = s.withLines axis
          ((s.lines axis).insert i
            { Settings.get (s.lines axis) i with outlineLevel := level }) := by
  rw [setOutline, onLines_eq_ok]
  simp only [Settings.setOutline]
  split
  · next deep =>
      refine iff_of_false ?_ fun h => absurd h.1 (Nat.not_le.mpr deep)
      rintro ⟨_, done, -⟩
      cases done
  · next shallow =>
      rw [← onLines_eq_ok, onLines_update_eq_ok]
      exact ⟨fun h => ⟨Nat.not_lt.mp shallow, h⟩, And.right⟩

theorem Outlined.blank (name : String) : ({ name } : Sheet).Outlined := by
  intro axis
  refine ⟨fun i setting found => ?_, fun _ i member => ?_⟩
  · cases axis <;> exact absurd (Numbered.mem_of_getElem? found) Std.ExtTreeMap.not_mem_empty
  · cases axis <;> exact absurd member Std.ExtTreeMap.not_mem_empty

/-- What does not touch the settings keeps them as outlines ask for. -/
theorem Outlined.of_lines (outlined : s.Outlined) (same : ∀ axis, s'.lines axis = s.lines axis)
    : s'.Outlined := by
  intro axis
  rw [same]
  exact outlined axis

theorem Outlined.withLines (outlined : s.Outlined) (changed : Settings.Outlined axis m)
    : (s.withLines axis m).Outlined := by
  intro other
  cases axis with
  | rows =>
      cases other with
      | rows => exact changed
      | columns => exact outlined .columns
  | columns =>
      cases other with
      | rows => exact outlined .rows
      | columns => exact changed

theorem Outlined.shiftRows (outlined : s.Outlined) (start count : Nat)
    : (s.shiftRows start count).Outlined := by
  intro axis
  cases axis with
  | rows =>
      refine ⟨fun i setting found => ?_, nofun⟩
      obtain ⟨j, found, -⟩ := Numbered.exists_of_getElem?_shiftRows found
      exact (outlined .rows).shallow j setting found
  | columns => exact outlined .columns

-----------------------------------------------------------------------------------------
-- What operations do
-----------------------------------------------------------------------------------------

/-- What an operation can do to the name of a sheet, its settings and its merged ranges: it leaves
them all, changes one setting, groups lines, merges a range, or moves rows down. Where it leaves
them all it may change cells, and the pool still knows the style of each.
-/
inductive Effect (s : Sheet) : Edit → Sheet → Prop where
  | aside {edit : Edit} {s' : Sheet} (name : s'.name = s.name) (merged : s'.merged = s.merged)
      (lines : ∀ axis, s'.lines axis = s.lines axis)
      (sound : s.cells.Sound → s'.cells.Sound) : Effect s edit s'
  | line {edit : Edit} (axis : Axis) {i : Nat} {setting : Setting} (inside : i < axis.limit)
      (level : setting.outlineLevel ≤ maxOutlineLevel
        ∨ setting.outlineLevel = (Settings.get (s.lines axis) i).outlineLevel)
    : Effect s edit (s.withLines axis ((s.lines axis).insert i setting))
  | group (axis : Axis) (g : OutlineGroup)
    : Effect s (.group axis g) (s.withLines axis (Settings.group axis g (s.lines axis)).1)
  | merge {range : Range} (clear : ∀ other ∈ s.merged, ¬ range.overlaps other)
    : Effect s (.merge range) { s with merged := s.merged ++ [range] }
  | shift (start count : Nat) : Effect s (.insertRows start count) (s.shiftRows start count)

namespace Effect

variable {edit : Edit}

theorem nothing : s.Effect edit s := .aside rfl rfl (fun _ => rfl) id

/-- An operation that fails does nothing. -/
theorem orSame {result : Except ModelError Sheet}
    (done : ∀ s', result = .ok s' → s.Effect edit s')
    : s.Effect edit (s.orSame result) := by
  cases result with
  | error e => exact .nothing
  | ok s' => exact done s' rfl

theorem setValue {row column : Nat} {value : Value} (done : s.setValue row column value = .ok s')
    : s.Effect edit s' := by
  obtain ⟨-, rfl⟩ := setValue_eq_ok.mp done
  exact .aside rfl rfl (fun axis => by cases axis <;> rfl) (·.setValue row column value)

theorem setStyle {row column : Nat} {style : Style} (done : s.setStyle row column style = .ok s')
    : s.Effect edit s' := by
  obtain ⟨-, rfl⟩ := setStyle_eq_ok.mp done
  exact .aside rfl rfl (fun axis => by cases axis <;> rfl) (·.setStyle row column style)

theorem insertRows {start count : Nat} (done : s.insertRows start count = .ok s')
    : s.Effect (.insertRows start count) s' := by
  rcases insertRows_cases done with ⟨-, rfl⟩ | ⟨-, rfl⟩
  · exact .nothing
  · exact .shift start count

end Effect

/-- Each operation does one of these things, whether it succeeds or fails. -/
theorem apply_effect (s : Sheet) (edit : Edit) : s.Effect edit (s.apply edit) := by
  cases edit with
  | setValue row column value => exact .orSame fun s' done => .setValue done
  | setValueAt address value =>
      refine .orSame fun s' done => ?_
      obtain ⟨a, -, done⟩ := bind_eq_ok.mp done
      exact .setValue done
  | setFormula row column text => exact .orSame fun s' done => .setValue done
  | setStyle row column style => exact .orSame fun s' done => .setStyle done
  | updateStyle row column change => exact .orSame fun s' done => .setStyle done
  | setSize axis i size =>
      refine .orSame fun s' done => ?_
      obtain ⟨inside, rfl⟩ := setSize_eq_ok.mp done
      exact .line axis inside (.inr rfl)
  | setHidden axis i hidden =>
      refine .orSame fun s' done => ?_
      obtain ⟨inside, rfl⟩ := setHidden_eq_ok.mp done
      exact .line axis inside (.inr rfl)
  | setOutline axis i level =>
      refine .orSame fun s' done => ?_
      obtain ⟨shallow, inside, rfl⟩ := setOutline_eq_ok.mp done
      exact .line axis inside (.inl shallow)
  | group axis g =>
      rw [apply, group_eq]
      exact .group axis g
  | merge range =>
      refine .orSame fun s' done => ?_
      obtain ⟨clear, rfl⟩ := merge_eq_ok.mp done
      exact .merge clear
  | insertRows start count => exact .orSame fun s' done => .insertRows done
  | setFreeze | setFilter | setPage | setHeaderFooter | protect | addRule | addValidation | addChart
  | addPicture =>
      exact .aside rfl rfl (fun axis => by cases axis <;> rfl) id

/-- An operation on the cells or the lines of a sheet. -/
def Edit.OfCells : Edit → Prop
  | .setValue .. | .setValueAt .. | .setFormula .. | .setStyle .. | .updateStyle .. | .setSize ..
  | .setHidden .. | .setOutline .. | .group .. => True
  | _ => False

/-- The sheets agree on everything but cells and lines. -/
def SameAround (s s' : Sheet) : Prop :=
  s' = { s with cells := s'.cells, columns := s'.columns, rows := s'.rows }

theorem sameAround_withLines (s : Sheet) (axis : Axis) (m : Settings)
    : SameAround s (s.withLines axis m) := by
  cases axis <;> rfl

theorem apply_sameAround {edit : Edit} (ofCells : edit.OfCells)
    : SameAround s (s.apply edit) := by
  have valued {row column : Nat} {value : Value}
      : SameAround s (s.orSame (s.setValue row column value)) := by
    refine orSame_cases rfl fun s' done => ?_
    obtain ⟨-, rfl⟩ := setValue_eq_ok.mp done
    rfl
  have styled {row column : Nat} {style : Style}
      : SameAround s (s.orSame (s.setStyle row column style)) := by
    refine orSame_cases rfl fun s' done => ?_
    obtain ⟨-, rfl⟩ := setStyle_eq_ok.mp done
    rfl
  cases edit with
  | setValue | setFormula => exact valued
  | setValueAt address value =>
      refine orSame_cases rfl fun s' done => ?_
      obtain ⟨a, -, done⟩ := bind_eq_ok.mp done
      obtain ⟨-, rfl⟩ := setValue_eq_ok.mp done
      rfl
  | setStyle | updateStyle => exact styled
  | setSize axis i size =>
      refine orSame_cases rfl fun s' done => ?_
      obtain ⟨-, rfl⟩ := setSize_eq_ok.mp done
      exact sameAround_withLines s axis _
  | setHidden axis i hidden =>
      refine orSame_cases rfl fun s' done => ?_
      obtain ⟨-, rfl⟩ := setHidden_eq_ok.mp done
      exact sameAround_withLines s axis _
  | setOutline axis i level =>
      refine orSame_cases rfl fun s' done => ?_
      obtain ⟨-, -, rfl⟩ := setOutline_eq_ok.mp done
      exact sameAround_withLines s axis _
  | group axis g =>
      rw [Sheet.apply, group_eq]
      exact sameAround_withLines s axis _
  | _ => exact ofCells.elim

/-- The sheet has kept its name and has settings as outlines ask for. -/
structure Keeps (s s' : Sheet) : Prop where
  name : s'.name = s.name
  outlined : s'.Outlined

theorem Keeps.withLines (outlined : Settings.Outlined axis m) (others : s.Outlined)
    : s.Keeps (s.withLines axis m) where
  name := by cases axis <;> rfl
  outlined := others.withLines outlined

/-- No operation takes a sheet's name, outline levels above their limit or settings to columns
that no sheet has.
-/
theorem apply_keeps (outlined : s.Outlined) (edit : Edit) : s.Keeps (s.apply edit) := by
  have effect := s.apply_effect edit
  generalize s.apply edit = s' at effect ⊢
  cases effect with
  | aside name _ lines _ => exact ⟨name, outlined.of_lines lines⟩
  | line axis inside level => exact .withLines ((outlined axis).insert inside level) outlined
  | group axis g => exact .withLines ((outlined axis).group g) outlined
  | merge clear => exact ⟨rfl, outlined.of_lines fun axis => by cases axis <;> rfl⟩
  | shift start count => exact ⟨rfl, outlined.shiftRows start count⟩

/-- No operation makes a pool forget the style of a cell. -/
theorem apply_sound (sound : s.cells.Sound) (edit : Edit) : (s.apply edit).cells.Sound := by
  have effect := s.apply_effect edit
  generalize s.apply edit = s' at effect ⊢
  cases effect with
  | aside _ _ _ kept => exact kept sound
  | line axis => cases axis <;> exact sound
  | group axis => cases axis <;> exact sound
  | merge => exact sound
  | shift start count => exact sound.shiftRows start count

-----------------------------------------------------------------------------------------
-- Runs of operations
-----------------------------------------------------------------------------------------

/-- Operations of a kind, one after the other, take the one sheet to the other. -/
inductive Run (kind : Edit → Prop) (s : Sheet) : Sheet → Prop where
  | refl : Run kind s s
  | step {t : Sheet} (run : Run kind s t) (edit : Edit) (ofKind : kind edit)
    : Run kind s (t.apply edit)

namespace Run

variable {kind : Edit → Prop} {s t u : Sheet}

theorem trans (first : Run kind s t) (second : Run kind t u) : Run kind s u := by
  induction second with
  | refl => exact first
  | step _ edit ofKind ih => exact .step ih edit ofKind

/-- What each operation keeps is kept by the run. -/
theorem preserves {motive : Sheet → Prop} (run : Run kind s t)
    (kept : ∀ t edit, kind edit → motive t → motive (t.apply edit)) (start : motive s)
    : motive t := by
  induction run with
  | refl => exact start
  | step _ edit ofKind ih => exact kept _ edit ofKind ih

theorem mono {kind' : Edit → Prop} (wider : ∀ edit, kind edit → kind' edit) (run : Run kind s t)
    : Run kind' s t :=
  run.preserves (motive := Run kind' s) (fun _ edit ofKind ih => .step ih edit (wider edit ofKind))
    .refl

instance : Trans (Run kind) (Run kind) (Run kind) := ⟨trans⟩

theorem single (edit : Edit) (ofKind : kind edit) (same : s.apply edit = t) : Run kind s t := by
  subst same
  exact .step .refl edit ofKind

/-- An operation that succeeds is a run. -/
theorem of_ok (edit : Edit) {result : Except ModelError Sheet} (done : result = .ok t)
    (ofKind : kind edit) (same : s.apply edit = s.orSame result)
    : Run kind s t :=
  single edit ofKind (same.trans (congrArg s.orSame done))

/-- No operation takes a sheet's name. -/
theorem name {title : String} (run : Run kind { name := title } t) : t.name = title := by
  have both : t.name = title ∧ t.Outlined := by
    refine run.preserves (motive := fun t => t.name = title ∧ t.Outlined) ?_ ⟨rfl, .blank title⟩
    intro t edit _ ⟨same, outlined⟩
    have keeps := apply_keeps outlined edit
    exact ⟨keeps.name.trans same, keeps.outlined⟩
  exact both.1

end Run

end Sheet

end Spreadsheet
