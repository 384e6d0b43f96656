import Spreadsheet.Proofs.Sheet.Operations

/-! What is declared for the rows or the columns of a sheet: sizes, hidden lines and groups of
lines. The settings of a sheet come to show it, one declaration after the other. Only groups can be
refused, and they are just if one of their lines would be nested too deep.
-/

namespace Spreadsheet.Sheet

open Spreadsheet.Number

/-- The line is one of the group. -/
def OutlineGroup.holds (g : OutlineGroup) (i : Nat) : Bool := g.first ≤ i && i ≤ g.last

/-- A setting with what is declared further for its line. -/
def Setting.also (s further : Setting) : Setting where
  size := further.size.or s.size
  hidden := s.hidden || further.hidden
  outlineLevel := s.outlineLevel + further.outlineLevel
  collapsed := s.collapsed || further.collapsed

@[simp]
theorem Setting.also_default (s : Setting) : s.also {} = s := by
  simp [also]

/-- Something that is declared for a line shows. -/
theorem Setting.also_ne_default {s further : Setting} (declared : further ≠ {})
    : s.also further ≠ {} := by
  intro nothing
  simp only [also, Setting.mk.injEq, Option.or_eq_none_iff, Bool.or_eq_false_iff,
    Nat.add_eq_zero_iff] at nothing
  obtain ⟨⟨size, -⟩, ⟨-, hidden⟩, ⟨-, level⟩, ⟨-, collapsed⟩⟩ := nothing
  obtain ⟨_, _, _, _⟩ := further
  cases size
  cases hidden
  cases level
  cases collapsed
  exact declared rfl

-----------------------------------------------------------------------------------------
-- Declarations
-----------------------------------------------------------------------------------------

/-- What is declared for the lines along an axis. Of several sizes of a line the last one counts. -/
structure LineDeclarations where
  sizes : List (Nat × Binary64) := []
  hidden : List Nat := []
  groups : List OutlineGroup := []

namespace LineDeclarations

instance : Append LineDeclarations where
  append d e := ⟨d.sizes ++ e.sizes, d.hidden ++ e.hidden, d.groups ++ e.groups⟩

theorem append_eq (d e : LineDeclarations)
    : d ++ e = ⟨d.sizes ++ e.sizes, d.hidden ++ e.hidden, d.groups ++ e.groups⟩ :=
  rfl

/-- The setting that a line gets: it is nested as deep as there are groups that hold it, and it is
marked if a collapsed group ends right before it.
-/
def setting (d : LineDeclarations) (i : Nat) : Setting where
  size := d.sizes.reverse.lookup i
  hidden := d.hidden.contains i || d.groups.any fun g => g.collapsed && g.holds i
  outlineLevel := d.groups.countP (·.holds i)
  collapsed := d.groups.any fun g => g.collapsed && g.last + 1 == i

variable {d e : LineDeclarations} {i : Nat}

@[simp]
theorem setting_empty (i : Nat) : ({} : LineDeclarations).setting i = {} := rfl

theorem setting_append (d e : LineDeclarations) (i : Nat)
    : (d ++ e).setting i = (d.setting i).also (e.setting i) := by
  rw [append_eq]
  simp only [setting, Setting.also, List.reverse_append, List.lookup_append, List.countP_append,
    List.any_append, List.contains_append, Setting.mk.injEq, true_and, and_true]
  ac_rfl

/-- A group nests its lines, and hides them and marks the line behind them if it is collapsed. -/
theorem setting_group (g : OutlineGroup) (i : Nat)
    : ({ groups := [g] } : LineDeclarations).setting i
      = { hidden := g.collapsed && g.holds i, outlineLevel := if g.holds i then 1 else 0,
          collapsed := g.collapsed && g.last + 1 == i } := by
  simp [setting, List.countP_cons]

@[simp]
theorem append_empty (d : LineDeclarations) : d ++ {} = d := by
  simp only [append_eq, List.append_nil]

theorem append_assoc (d e f : LineDeclarations) : d ++ e ++ f = d ++ (e ++ f) := by
  simp only [append_eq, List.append_assoc]

/-- No line is nested too deep. -/
def Shallow (d : LineDeclarations) : Prop := ∀ i, (d.setting i).outlineLevel ≤ maxOutlineLevel

theorem Shallow.of_append (shallow : (d ++ e).Shallow) : d.Shallow := fun i => by
  have both := shallow i
  rw [setting_append] at both
  exact Nat.le_trans (Nat.le_add_right _ _) both

/-- Declarations without groups nest nothing. -/
theorem shallow_append_of_groups (none : e.groups = []) : (d ++ e).Shallow ↔ d.Shallow := by
  have level (i : Nat) : (e.setting i).outlineLevel = 0 := by
    simp only [setting, none]
    rfl
  simp only [Shallow, setting_append, Setting.also, level, Nat.add_zero]

end LineDeclarations

-----------------------------------------------------------------------------------------
-- Settings that show declarations
-----------------------------------------------------------------------------------------

namespace Settings

variable {axis : Axis} {d e : LineDeclarations} {m m' : Settings} {i : Nat}

theorem getElem?_insert (m : Settings) (i : Nat) (s : Setting) (j : Nat)
    : (m.insert i s)[j]? = if i = j then some s else m[j]? := by
  simp only [Std.ExtTreeMap.getElem?_insert, Std.compare_eq_iff_eq]

theorem get_insert (m : Settings) (i : Nat) (s : Setting) (j : Nat)
    : get (m.insert i s) j = if i = j then s else get m j := by
  simp only [get, Std.ExtTreeMap.getD_insert, Std.compare_eq_iff_eq]

/-- The settings are those that are declared for the lines of a sheet, and no others are kept. -/
def Shows (axis : Axis) (d : LineDeclarations) (m : Settings) : Prop :=
  ∀ i, m[i]? = if i < axis.limit ∧ d.setting i ≠ {} then some (d.setting i) else none

theorem Shows.empty (axis : Axis) : Shows axis {} ∅ := fun i => by
  rw [LineDeclarations.setting_empty, if_neg fun declared => declared.2 rfl]
  exact Std.ExtTreeMap.getElem?_empty

theorem Shows.get_eq (shows : Shows axis d m) (inside : i < axis.limit)
    : get m i = d.setting i := by
  rw [get, Std.ExtTreeMap.getD_eq_getD_getElem?, shows i]
  by_cases declared : d.setting i = {}
  · rw [if_neg fun both => both.2 declared, declared]
    rfl
  · rw [if_pos ⟨inside, declared⟩]
    rfl

/-- Settings that show the same are the same. -/
theorem Shows.eq (shows : Shows axis d m) (shows' : Shows axis e m')
    (same : ∀ i, d.setting i = e.setting i)
    : m = m' := by
  apply Std.ExtTreeMap.ext_getElem?
  intro i
  rw [shows i, shows' i, same i]

/-- What further declarations say is laid over the settings of their lines. -/
theorem Shows.append (shows : Shows axis d m)
    (laid : ∀ i, m'[i]? = if i < axis.limit ∧ e.setting i ≠ {}
      then some ((get m i).also (e.setting i)) else m[i]?)
    : Shows axis (d ++ e) m' := fun i => by
  rw [laid i, LineDeclarations.setting_append]
  by_cases inside : i < axis.limit
  · by_cases declared : e.setting i = {}
    · rw [if_neg fun both => both.2 declared, declared, Setting.also_default, shows i]
    · have shown : (d.setting i).also (e.setting i) ≠ {} := Setting.also_ne_default declared
      rw [if_pos ⟨inside, declared⟩, if_pos ⟨inside, shown⟩, shows.get_eq inside]
  · rw [if_neg fun both => inside both.1, if_neg fun both => inside both.1, shows i,
      if_neg fun both => inside both.1]

/-- Something is declared further for one line. -/
theorem Shows.insert (shows : Shows axis d m) (inside : i < axis.limit) {further : Setting}
    (declared : further ≠ {}) (only : ∀ j, e.setting j = if i = j then further else {})
    : Shows axis (d ++ e) (m.insert i ((get m i).also further)) := by
  refine shows.append fun j => ?_
  rw [getElem?_insert, only j]
  by_cases here : i = j
  · subst here
    rw [if_pos rfl, if_pos rfl, if_pos ⟨inside, declared⟩]
  · rw [if_neg here, if_neg here, if_neg fun both => both.2 rfl]

/-- A size is declared for a line. -/
theorem Shows.size (shows : Shows axis d m) (inside : i < axis.limit) (size : Binary64)
    : Shows axis (d ++ { sizes := [(i, size)] })
        (m.insert i { get m i with size := some size }) := by
  have changed : { get m i with size := some size } = (get m i).also { size := some size } := by
    simp [Setting.also]
  rw [changed]
  refine shows.insert inside nofun fun j => ?_
  by_cases here : i = j
  · subst here
    simp [LineDeclarations.setting]
  · have other : (j == i) = false := beq_false_of_ne (Ne.symm here)
    simp [LineDeclarations.setting, List.lookup_cons, other, here]

/-- A line is declared to be hidden. -/
theorem Shows.hidden (shows : Shows axis d m) (inside : i < axis.limit)
    : Shows axis (d ++ { hidden := [i] }) (m.insert i { get m i with hidden := true }) := by
  have changed : { get m i with hidden := true } = (get m i).also { hidden := true } := by
    simp [Setting.also]
  rw [changed]
  refine shows.insert inside nofun fun j => ?_
  by_cases here : i = j
  · subst here
    simp [LineDeclarations.setting]
  · simp [LineDeclarations.setting, Ne.symm here, here]

-----------------------------------------------------------------------------------------
-- Groups
-----------------------------------------------------------------------------------------

/-- What a group declares for each line inside it. -/
def nested (collapsed : Bool) : Setting := { outlineLevel := 1, hidden := collapsed }

/-- A line is taken deeper if it is on the sheet and not at the greatest depth. -/
theorem deepen_eq_ok {collapsed : Bool}
    : deepen axis collapsed i m = .ok m'
      ↔ (get m i).outlineLevel < maxOutlineLevel ∧ i < axis.limit
        ∧ m' = m.insert i ((get m i).also (nested collapsed)) := by
  have outlined {t : Settings}
      : setOutline axis i ((get m i).outlineLevel + 1) m = .ok t
        ↔ (get m i).outlineLevel < maxOutlineLevel ∧ i < axis.limit
          ∧ t = m.insert i { get m i with outlineLevel := (get m i).outlineLevel + 1 } := by
    rw [setOutline]
    split
    · next deep => exact ⟨by rintro ⟨⟩, fun both => by omega⟩
    · next shallow => rw [update_eq_ok, and_iff_right (by omega : (get m i).outlineLevel < _)]
  simp only [deepen, bind_eq_ok, outlined]
  cases collapsed with
  | false =>
      have same : { get m i with outlineLevel := (get m i).outlineLevel + 1 }
          = (get m i).also (nested false) := by
        simp [Setting.also, nested]
      constructor
      · rintro ⟨t, ⟨shallow, inside, rfl⟩, done⟩
        cases done
        exact ⟨shallow, inside, by rw [same]⟩
      · rintro ⟨shallow, inside, rfl⟩
        exact ⟨_, ⟨shallow, inside, rfl⟩, by rw [same]; rfl⟩
  | true =>
      have twice
          : (m.insert i { get m i with outlineLevel := (get m i).outlineLevel + 1 }).insert i
              { get (m.insert i { get m i with outlineLevel := (get m i).outlineLevel + 1 }) i
                with hidden := true }
            = m.insert i ((get m i).also (nested true)) := by
        apply Std.ExtTreeMap.ext_getElem?
        intro j
        simp only [getElem?_insert, get_insert, if_true]
        by_cases here : i = j
        · simp [here, Setting.also, nested]
        · simp only [if_neg here]
      simp only [if_true, setHidden, update_eq_ok]
      constructor
      · rintro ⟨t, ⟨shallow, inside, rfl⟩, -, rfl⟩
        exact ⟨shallow, inside, twice⟩
      · rintro ⟨shallow, inside, rfl⟩
        exact ⟨_, ⟨shallow, inside, rfl⟩, inside, twice.symm⟩

/-- A run of lines is taken deeper if none of them is at the greatest depth, by induction on its
length.
-/
theorem deepenFrom_ok (axis : Axis) (collapsed : Bool) {count : Nat}
    (inside : i + count ≤ axis.limit)
    (shallow : ∀ j, i ≤ j → j < i + count → (get m j).outlineLevel < maxOutlineLevel)
    : ∃ m', deepenFrom axis collapsed count i m = (m', .ok ())
        ∧ ∀ j, m'[j]? = if i ≤ j ∧ j < i + count then some ((get m j).also (nested collapsed))
            else m[j]? := by
  induction count generalizing i m with
  | zero => exact ⟨m, rfl, fun j => by rw [if_neg (by omega)]⟩
  | succ count ih =>
      have first
          : deepen axis collapsed i m = .ok (m.insert i ((get m i).also (nested collapsed))) :=
        deepen_eq_ok.mpr ⟨shallow i (Nat.le_refl i) (by omega), by omega, rfl⟩
      have others {j : Nat} (other : i ≠ j)
          : get (m.insert i ((get m i).also (nested collapsed))) j = get m j := by
        rw [get_insert, if_neg other]
      obtain ⟨m', done, laid⟩ := ih (i := i + 1) (by omega) fun j lower upper => by
        rw [others (by omega)]
        exact shallow j (by omega) (by omega)
      refine ⟨m', by simp only [deepenFrom, first, done], fun j => ?_⟩
      rw [laid j, getElem?_insert]
      by_cases here : i = j
      · subst here
        rw [if_neg (by omega), if_pos rfl, if_pos (by omega)]
      · rw [if_neg here, others here]
        by_cases behind : i + 1 ≤ j ∧ j < i + 1 + count
        · rw [if_pos behind, if_pos (by omega)]
        · rw [if_neg behind, if_neg (by omega)]

/-- A line at the greatest depth stops the run. -/
theorem deepenFrom_error (axis : Axis) (collapsed : Bool) {count j : Nat} (lower : i ≤ j)
    (upper : j < i + count) (deep : maxOutlineLevel ≤ (get m j).outlineLevel)
    : ∃ m' e, deepenFrom axis collapsed count i m = (m', .error e) := by
  induction count generalizing i m with
  | zero => omega
  | succ count ih =>
      rw [deepenFrom]
      cases first : deepen axis collapsed i m with
      | error e => exact ⟨m, e, rfl⟩
      | ok t =>
          obtain ⟨shallow, -, rfl⟩ := deepen_eq_ok.mp first
          have other : i ≠ j := by
            rintro rfl
            omega
          refine ih (i := i + 1) (by omega) (by omega) ?_
          rwa [get_insert, if_neg other]

theorem not_modulus_le (inside : i < axis.limit) : ¬ axis.modulus ≤ i := by
  have word : axis.limit ≤ axis.modulus := by cases axis <;> decide
  omega

/-- The lines of a group have room for it just if they are not at the greatest depth. -/
theorem Shows.shallow_group_iff (shows : Shows axis d m) (shallow : d.Shallow) {g : OutlineGroup}
    (inside : g.last < axis.limit)
    : (d ++ { groups := [g] }).Shallow
      ↔ ∀ i, g.holds i → (get m i).outlineLevel < maxOutlineLevel := by
  have below {i : Nat} (held : g.holds i) : i < axis.limit := by
    simp only [OutlineGroup.holds, Bool.and_eq_true, decide_eq_true_eq] at held
    omega
  constructor
  · intro deeper i held
    have room := deeper i
    rw [LineDeclarations.setting_append, LineDeclarations.setting_group, if_pos held] at room
    rw [shows.get_eq (below held)]
    exact room
  · intro room i
    rw [LineDeclarations.setting_append, LineDeclarations.setting_group]
    by_cases held : g.holds i
    · have room := room i held
      rw [shows.get_eq (below held)] at room
      rw [if_pos held]
      exact room
    · rw [if_neg held]
      exact shallow i

/-- The settings show a group once its lines are nested and the line behind them is marked if the
group is collapsed and there is such a line.
-/
theorem Shows.mark (shows : Shows axis d m) {g : OutlineGroup} (inside : g.last < axis.limit)
    (laid : ∀ i, m'[i]? = if g.holds i then some ((get m i).also (nested g.collapsed)) else m[i]?)
    : Shows axis (d ++ { groups := [g] })
        (if g.collapsed && g.last + 1 < axis.limit
          then m'.insert (g.last + 1) { get m' (g.last + 1) with collapsed := true } else m') := by
  have below {i : Nat} (held : g.holds i) : i < axis.limit ∧ g.last + 1 ≠ i := by
    simp only [OutlineGroup.holds, Bool.and_eq_true, decide_eq_true_eq] at held
    omega
  have behind : get m' (g.last + 1) = get m (g.last + 1) := by
    rw [get, get, Std.ExtTreeMap.getD_eq_getD_getElem?, laid, if_neg fun held => (below held).2 rfl,
      ← Std.ExtTreeMap.getD_eq_getD_getElem?]
  refine shows.append fun i => ?_
  rw [LineDeclarations.setting_group]
  cases held : g.holds i with
  | true =>
      obtain ⟨onSheet, notBehind⟩ := below held
      have unmarked : (g.last + 1 == i) = false := beq_false_of_ne notBehind
      split
      · rw [getElem?_insert, if_neg notBehind, laid]
        simp [held, onSheet, unmarked, nested]
      · rw [laid]
        simp [held, onSheet, unmarked, nested]
  | false =>
      split
      · next marked =>
          simp only [Bool.and_eq_true, decide_eq_true_eq] at marked
          obtain ⟨collapsed, onSheet⟩ := marked
          rw [getElem?_insert, behind, laid]
          by_cases mark : g.last + 1 = i
          · subst mark
            simp [collapsed, onSheet, Setting.also]
          · simp [held, mark]
      · next unmarked =>
          simp only [Bool.and_eq_true, decide_eq_true_eq, not_and, Nat.not_lt] at unmarked
          rw [laid, held, if_neg Bool.false_ne_true, if_neg]
          rintro ⟨onSheet, declared⟩
          refine declared ?_
          cases collapsed : g.collapsed with
          | false => rfl
          | true =>
              have past := unmarked collapsed
              have noMark : (g.last + 1 == i) = false := beq_false_of_ne (by omega)
              rw [noMark]
              rfl

/-- Where the ends of a group are in order, cutting changes nothing. -/
theorem cut_eq_self {g : OutlineGroup} (ordered : g.first ≤ g.last) (word : g.last < axis.modulus)
    : cut axis g = g := by
  rw [cut, Nat.mod_eq_of_lt (Nat.lt_of_le_of_lt ordered word)]

/-- A group with its ends in order on the sheet is made if none of its lines would be nested too
deep, and then the settings show it.
-/
theorem Shows.group (shows : Shows axis d m) {g : OutlineGroup} (ordered : g.first ≤ g.last)
    (inside : g.last < axis.limit) (shallow : (d ++ { groups := [g] }).Shallow)
    : ∃ m', group axis g m = (m', .ok ()) ∧ Shows axis (d ++ { groups := [g] }) m' := by
  have holds (i : Nat) : g.holds i ↔ g.first ≤ i ∧ i < g.first + (g.last + 1 - g.first) := by
    simp only [OutlineGroup.holds, Bool.and_eq_true, decide_eq_true_eq]
    omega
  have room := (shows.shallow_group_iff shallow.of_append inside).mp shallow
  obtain ⟨t, done, laid⟩ := deepenFrom_ok axis g.collapsed (by omega)
    fun i lower upper => room i ((holds i).mpr ⟨lower, upper⟩)
  simp only [← holds] at laid
  have marked := shows.mark inside laid
  rw [Settings.group, if_neg (not_modulus_le inside),
    cut_eq_self ordered (Nat.not_le.mp (not_modulus_le inside))]
  simp only [done]
  split
  · next h => exact ⟨_, rfl, by rwa [if_pos h] at marked⟩
  · next h => exact ⟨_, rfl, by rwa [if_neg h] at marked⟩

/-- A group is refused if one of its lines would be nested too deep. -/
theorem Shows.group_error (shows : Shows axis d m) {g : OutlineGroup}
    (inside : g.last < axis.limit) (shallow : d.Shallow)
    (deep : ¬ (d ++ { groups := [g] }).Shallow)
    : ∃ m' e, Settings.group axis g m = (m', .error e) := by
  rw [shows.shallow_group_iff shallow inside] at deep
  simp only [not_forall, Nat.not_lt, exists_prop] at deep
  obtain ⟨i, held, full⟩ := deep
  simp only [OutlineGroup.holds, Bool.and_eq_true, decide_eq_true_eq] at held
  obtain ⟨m', e, stopped⟩ :=
    deepenFrom_error axis g.collapsed held.1 (by omega : i < g.first + (g.last + 1 - g.first)) full
  refine ⟨m', e, ?_⟩
  rw [Settings.group, if_neg (not_modulus_le inside),
    cut_eq_self (by omega) (Nat.not_le.mp (not_modulus_le inside))]
  simp only [stopped]

end Settings

end Spreadsheet.Sheet
