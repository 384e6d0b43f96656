import Spreadsheet.Proofs.Sheet.Edits
import Spreadsheet.Proofs.Sheet.ShownCells
import Spreadsheet.Proofs.Workbook.Reachable

/-! What a sheet shows, whatever operations made it. Two sheets may look the same although one has
settings that are the default ones, or styles in its pool that no cell has.
-/

namespace Spreadsheet

open Spreadsheet.Cell

/-- Values are listed in the order of their numbers. -/
theorem Cell.Numbered.values_eq {α : Type} (m : Numbered α) : m.values = m.toList.map (·.2) := by
  obtain ⟨m⟩ := m
  induction m using Std.ExtDTreeMap.inductionOn with
  | mk m =>
      -- there are no laws of this listing but for the trees inside
      change m.inner.values = (Std.DTreeMap.Internal.Impl.Const.toList m.inner).map (·.2)
      rw [Std.DTreeMap.Internal.Impl.values_eq_map_snd,
        Std.DTreeMap.Internal.Impl.Const.toList_eq_toListModel_map, List.map_map]
      rfl

namespace Sheet

variable {s s' : Sheet}

-----------------------------------------------------------------------------------------
-- Cells
-----------------------------------------------------------------------------------------

/-- What does nothing if it fails changes the grid as it does if it succeeds. -/
theorem change_orSame {result : Except ModelError Sheet}
    (done : ∀ s', result = .ok s' → s.cells.Change s'.cells)
    : s.cells.Change (s.orSame result).cells :=
  orSame_cases .nothing done

theorem change_setValue {row column : Nat} {value : Value}
    (done : s.setValue row column value = .ok s')
    : s.cells.Change s'.cells := by
  obtain ⟨-, rfl⟩ := setValue_eq_ok.mp done
  exact .value row column value

theorem change_setStyle {row column : Nat} {style : Style}
    (done : s.setStyle row column style = .ok s')
    : s.cells.Change s'.cells := by
  obtain ⟨-, rfl⟩ := setStyle_eq_ok.mp done
  exact .style row column style

/-- No operation does anything else to the cells than to set a value or a style or to move rows. -/
theorem apply_change (s : Sheet) (edit : Edit) : s.cells.Change (s.apply edit).cells := by
  cases edit with
  | setValue row column value => exact change_orSame fun _ done => change_setValue done
  | setValueAt address value =>
      refine change_orSame fun s' done => ?_
      obtain ⟨a, -, done⟩ := bind_eq_ok.mp done
      exact change_setValue done
  | setFormula row column text => exact change_orSame fun _ done => change_setValue done
  | setStyle row column style => exact change_orSame fun _ done => change_setStyle done
  | updateStyle row column change => exact change_orSame fun _ done => change_setStyle done
  | setSize axis i size =>
      refine change_orSame fun s' done => ?_
      obtain ⟨-, rfl⟩ := setSize_eq_ok.mp done
      cases axis <;> exact .nothing
  | setHidden axis i hidden =>
      refine change_orSame fun s' done => ?_
      obtain ⟨-, rfl⟩ := setHidden_eq_ok.mp done
      cases axis <;> exact .nothing
  | setOutline axis i level =>
      refine change_orSame fun s' done => ?_
      obtain ⟨-, -, rfl⟩ := setOutline_eq_ok.mp done
      cases axis <;> exact .nothing
  | group axis g =>
      rw [apply, group_eq]
      cases axis <;> exact .nothing
  | merge range =>
      refine change_orSame fun s' done => ?_
      obtain ⟨-, rfl⟩ := merge_eq_ok.mp done
      exact .nothing
  | insertRows start count =>
      refine change_orSame fun s' done => ?_
      rcases insertRows_cases done with ⟨-, rfl⟩ | ⟨-, rfl⟩
      · exact .nothing
      · exact .shift start count
  | setFreeze | setFilter | setPage | setHeaderFooter | protect | addRule | addValidation | addChart
  | addPicture =>
      exact .nothing

-----------------------------------------------------------------------------------------
-- Settings
-----------------------------------------------------------------------------------------

namespace Settings

variable {m m' : Settings}

/-- The settings that are not the default one. -/
def own (m : Settings) : Settings := m.filter fun _ setting => !setting.isDefault

theorem getElem?_own (m : Settings) (i : Nat)
    : (own m)[i]? = if get m i = {} then none else some (get m i) := by
  rw [own, Std.ExtTreeMap.getElem?_filter', get, Std.ExtTreeMap.getD_eq_getD_getElem?]
  cases m[i]? with
  | none => rfl
  | some setting =>
      rw [Option.getD_some, Option.filter_some, Setting.isDefault]
      by_cases default : setting = {}
      · simp [default]
      · simp [default]

theorem getD_own (m : Settings) (i : Nat) : get (own m) i = get m i := by
  rw [get, Std.ExtTreeMap.getD_eq_getD_getElem?, getElem?_own]
  split
  · next default => exact default.symm
  · rfl

/-- Lines have the same settings if those that are not the default one are the same, and only then.
-/
theorem own_eq_iff : own m = own m' ↔ ∀ i, get m i = get m' i := by
  constructor
  · intro same i
    rw [← getD_own, same, getD_own]
  · intro same
    apply Std.ExtTreeMap.ext_getElem?
    intro i
    rw [getElem?_own, getElem?_own, same]

/-- Lines with the default setting are on no level. -/
theorem maxLevel_own (m : Settings) : maxLevel (own m) = maxLevel m := by
  rw [maxLevel, maxLevel, Numbered.values_eq, Numbered.values_eq, own,
    Std.ExtTreeMap.toList_filter, List.foldl_map, List.foldl_map, List.foldl_filter]
  congr 1
  funext level line
  split
  · rfl
  · next default =>
      have same : line.2 = {} := by simpa [Setting.isDefault] using default
      rw [same]
      exact (Nat.max_zero level).symm

end Settings

-----------------------------------------------------------------------------------------
-- Sheets
-----------------------------------------------------------------------------------------

/-- The sheets look the same: at each position they have the same value and style, along each axis
the same settings, and everything else on them is the same apart from charts.
-/
structure LooksLike (s s' : Sheet) : Prop where
  name : s.name = s'.name
  value : ∀ row column, s.value row column = s'.value row column
  style : ∀ row column, s.style row column = s'.style row column
  setting : ∀ axis i, Settings.get (s.lines axis) i = Settings.get (s'.lines axis) i
  merged : s.merged = s'.merged
  rules : s.rules = s'.rules
  validations : s.validations = s'.validations
  pictures : s.pictures = s'.pictures
  filter : s.filter = s'.filter
  freeze : s.freeze = s'.freeze
  page : s.page = s'.page
  headerFooter : s.headerFooter = s'.headerFooter
  protection : s.protection = s'.protection

/-- The sheets look the same, and their grids keep no more than they have to. -/
structure Matches (s s' : Sheet) : Prop extends LooksLike s s' where
  compact : s.cells.Compact
  compact' : s'.cells.Compact

/-- The same cells are kept on both sheets. -/
theorem Matches.shown (both : s.Matches s') : s.cells.shown = s'.cells.shown := by
  rw [both.compact.shown_eq_iff both.compact']
  exact fun row column => ⟨both.value row column, both.style row column⟩

/-- The same settings differ from the default one on both sheets. -/
theorem Matches.own (both : s.Matches s') (axis : Axis)
    : Settings.own (s.lines axis) = Settings.own (s'.lines axis) :=
  Settings.own_eq_iff.mpr (both.setting axis)

/-- The sheet without its cells, settings and charts. -/
def bare (s : Sheet) : Sheet := { s with cells := {}, columns := ∅, rows := ∅, charts := [] }

/-- Whether sheets look the same can be told from what they keep. -/
theorem looksLike_iff (compact : s.cells.Compact) (compact' : s'.cells.Compact)
    : s.LooksLike s' ↔ s.cells.shown = s'.cells.shown
        ∧ (∀ axis, Settings.own (s.lines axis) = Settings.own (s'.lines axis))
        ∧ s.bare = s'.bare := by
  constructor
  · intro alike
    have both : s.Matches s' := ⟨alike, compact, compact'⟩
    refine ⟨both.shown, both.own, ?_⟩
    rw [bare, bare, alike.name, alike.merged, alike.freeze, alike.filter, alike.page,
      alike.headerFooter, alike.protection, alike.rules, alike.validations, alike.pictures]
  · rintro ⟨shown, own, rest⟩
    have cells := (compact.shown_eq_iff compact').mp shown
    rw [bare, bare, Sheet.mk.injEq] at rest
    obtain ⟨name, -, -, -, merged, freeze, filter, page, headerFooter, protection, rules,
      validations, -, pictures⟩ := rest
    exact ⟨name, fun row column => (cells row column).1, fun row column => (cells row column).2,
      fun axis => Settings.own_eq_iff.mp (own axis), merged, rules, validations, pictures, filter,
      freeze, page, headerFooter, protection⟩

end Sheet

namespace Workbook

variable {w w' : Workbook}

/-- The grids of all sheets keep no more than they have to. -/
theorem Reachable.compact (reached : w.Reachable) : ∀ s ∈ w.sheets, s.cells.Compact :=
  reached.forall_sheets (fun _ => Grid.Compact.empty) fun s edit compact =>
    (s.apply_change edit).compact compact

/-- The workbooks have the same properties and look the same sheet by sheet. -/
structure LooksLike (w w' : Workbook) : Prop where
  properties : w.properties = w'.properties
  sheets : List.Forall₂ Sheet.LooksLike w.sheets w'.sheets

/-- The sheets of workbooks that can be built match if they look the same. -/
theorem LooksLike.matches (alike : w.LooksLike w') (reached : w.Reachable)
    (reached' : w'.Reachable)
    : List.Forall₂ Sheet.Matches w.sheets w'.sheets := by
  obtain ⟨length, each⟩ := List.forall₂_iff_get.mp alike.sheets
  refine List.forall₂_iff_get.mpr ⟨length, fun i inside inside' => ?_⟩
  exact ⟨each i inside inside', reached.compact _ (List.get_mem ..),
    reached'.compact _ (List.get_mem ..)⟩

end Workbook

end Spreadsheet
