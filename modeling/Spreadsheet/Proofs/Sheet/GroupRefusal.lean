import Mathlib.Data.Nat.Find
import Spreadsheet.Proofs.Sheet.Confinement
import Spreadsheet.Proofs.Sheet.LineDeclarations

/-! When a group of rows or columns is refused, and what is left of it then. Its lines are nested
one after the other up to the first one that is refused, and those stay nested.
-/

namespace Spreadsheet

namespace Sheet

namespace Settings

variable {axis : Axis} {g : OutlineGroup} {m m' : Settings} {collapsed : Bool} {i stop : Nat}
  {e : ModelError}

-----------------------------------------------------------------------------------------
-- One line
-----------------------------------------------------------------------------------------

/-- Why a line is not taken deeper, if it is not: it is at the greatest depth already, or there is
no such line. The depth is looked at first.
-/
def refusal? (axis : Axis) (m : Settings) (i : Nat) : Option ModelError :=
  if maxOutlineLevel ≤ (get m i).outlineLevel then
    some (.outlineTooDeep ((get m i).outlineLevel + 1))
  else if axis.limit ≤ i then some (axis.outOfBounds i)
  else none

theorem refusal?_eq_none
    : refusal? axis m i = none ↔ (get m i).outlineLevel < maxOutlineLevel ∧ i < axis.limit := by
  rw [refusal?]
  split
  · next deep => exact ⟨nofun, fun room => absurd deep (Nat.not_le.mpr room.1)⟩
  · next shallow =>
      split
      · next outside => exact ⟨nofun, fun room => absurd outside (Nat.not_le.mpr room.2)⟩
      · next inside => exact ⟨fun _ => ⟨Nat.not_le.mp shallow, Nat.not_le.mp inside⟩, fun _ => rfl⟩

/-- The refusal of a line depends on nothing but its own setting. -/
theorem refusal?_congr (same : get m i = get m' i) : refusal? axis m i = refusal? axis m' i := by
  rw [refusal?, refusal?, same]

theorem deepen_of_none (room : refusal? axis m i = none)
    : deepen axis collapsed i m = .ok (m.insert i ((get m i).also (nested collapsed))) := by
  obtain ⟨shallow, inside⟩ := refusal?_eq_none.mp room
  exact deepen_eq_ok.mpr ⟨shallow, inside, rfl⟩

theorem deepen_of_some (refused : refusal? axis m i = some e)
    : deepen axis collapsed i m = .error e := by
  rw [refusal?] at refused
  split at refused
  · next deep =>
      cases refused
      rw [deepen, setOutline, if_pos (Nat.lt_succ_of_le deep)]
      rfl
  · next shallow =>
      split at refused
      · next outside =>
          cases refused
          rw [deepen, setOutline, if_neg (by omega), update, if_pos outside]
          rfl
      · cases refused

-----------------------------------------------------------------------------------------
-- A run of lines
-----------------------------------------------------------------------------------------

/-- The lines from one on and before another one are nested in the second settings, and the others
are as in the first.
-/
def NestedTo (collapsed : Bool) (first stop : Nat) (m m' : Settings) : Prop :=
  ∀ i, m'[i]? = if first ≤ i ∧ i < stop then some ((get m i).also (nested collapsed)) else m[i]?

theorem NestedTo.get_eq {first : Nat} (nestedTo : NestedTo collapsed first stop m m')
    (outside : ¬ (first ≤ i ∧ i < stop))
    : get m' i = get m i := by
  rw [get, get, Std.ExtTreeMap.getD_eq_getD_getElem?, Std.ExtTreeMap.getD_eq_getD_getElem?,
    nestedTo i, if_neg outside]

/-- Settings are kept just if there is no line to be nested: a line that is nested is deeper. -/
theorem NestedTo.eq_iff {first : Nat} (nestedTo : NestedTo collapsed first stop m m')
    : m' = m ↔ stop ≤ first := by
  constructor
  · intro same
    refine Nat.not_lt.mp fun some => ?_
    have deeper := nestedTo first
    rw [if_pos ⟨Nat.le_refl first, some⟩, same] at deeper
    have level : (get m first).outlineLevel = (get m first).outlineLevel + 1 := by
      conv_lhs => rw [get, Std.ExtTreeMap.getD_eq_getD_getElem?, deeper]
      rfl
    omega
  · intro none
    refine Std.ExtTreeMap.ext_getElem? fun i => ?_
    rw [nestedTo i, if_neg (by omega)]

/-- A run of lines ends at the first one that is refused and leaves those before it nested, by
induction on its length. A line that is nested does not change what is said about later ones.
-/
theorem deepenFrom_stops (collapsed : Bool) {count : Nat} (lower : i ≤ stop)
    (upper : stop < i + count)
    (clear : ∀ j, i ≤ j → j < stop → refusal? axis m j = none)
    (refused : refusal? axis m stop = some e)
    : ∃ m', deepenFrom axis collapsed count i m = (m', .error e)
        ∧ NestedTo collapsed i stop m m' := by
  induction count generalizing i m with
  | zero => omega
  | succ count ih =>
      rw [deepenFrom]
      by_cases here : i = stop
      · subst here
        rw [deepen_of_some refused]
        exact ⟨m, rfl, fun j => by rw [if_neg (by omega)]⟩
      · rw [deepen_of_none (clear i (Nat.le_refl i) (by omega))]
        have others {j : Nat} (other : i ≠ j)
            : get (m.insert i ((get m i).also (nested collapsed))) j = get m j := by
          rw [get_insert, if_neg other]
        obtain ⟨m', ran, laid⟩ := ih (i := i + 1) (by omega) (by omega)
          (fun j above below => by
            rw [refusal?_congr (others (by omega))]
            exact clear j (by omega) below)
          (by rwa [refusal?_congr (others here)])
        refine ⟨m', ran, fun j => ?_⟩
        rw [laid j, getElem?_insert]
        by_cases first : i = j
        · subst first
          rw [if_neg (by omega), if_pos rfl, if_pos (by omega)]
        · rw [if_neg first, others first]
          by_cases behind : i + 1 ≤ j ∧ j < stop
          · rw [if_pos behind, if_pos (by omega)]
          · rw [if_neg behind, if_neg (by omega)]

-----------------------------------------------------------------------------------------
-- Groups
-----------------------------------------------------------------------------------------

theorem holds_iff : g.holds i ↔ g.first ≤ i ∧ i < g.first + (g.last + 1 - g.first) := by
  simp only [OutlineGroup.holds, Bool.and_eq_true, decide_eq_true_eq]
  omega

/-- The line is the first one of the group that is refused. -/
structure FirstRefused (axis : Axis) (g : OutlineGroup) (m : Settings) (stop : Nat) (e : ModelError)
    : Prop where
  held : g.holds stop
  refused : refusal? axis m stop = some e
  before : ∀ i < stop, g.holds i → refusal? axis m i = none

/-- If any line of a group is refused, there is a first one, the least of them. -/
theorem exists_firstRefused (held : g.holds i) (refused : refusal? axis m i ≠ none)
    : ∃ stop e, FirstRefused axis g m stop e := by
  have some : ∃ i, g.holds i ∧ refusal? axis m i ≠ none := ⟨i, held, refused⟩
  classical
  obtain ⟨held, refused⟩ := Nat.find_spec some
  obtain ⟨e, refused⟩ := Option.ne_none_iff_exists'.mp refused
  refine ⟨Nat.find some, e, held, refused, fun j before held => ?_⟩
  have least := Nat.find_min some before
  exact not_not.mp fun refused => least ⟨held, refused⟩

/-- How a group ends, with the settings that it leaves. -/
inductive GroupOutcome (axis : Axis) (g : OutlineGroup) (m : Settings)
    : Settings → Except ModelError Unit → Prop
  /-- All lines are nested, and the line behind a collapsed group is marked, if there is one. -/
  | grouped {m' : Settings} (word : g.last < axis.modulus)
    (room : ∀ i, g.holds i → refusal? axis m i = none)
    (laid
      : ∀ i, m'[i]? = if g.holds i then some ((get m i).also (nested g.collapsed))
          else if g.collapsed ∧ i = g.last + 1 ∧ i < axis.limit
            then some { get m i with collapsed := true }
          else m[i]?)
    : GroupOutcome axis g m m' (.ok ())
  /-- The last line has no number of the kind that lines have. -/
  | numberless (far : axis.modulus ≤ g.last)
    : GroupOutcome axis g m m (.error (axis.outOfBounds g.last))
  /-- The lines before the first one that is refused are nested. -/
  | stopped {m' : Settings} {stop : Nat} {e : ModelError} (word : g.last < axis.modulus)
    (first : FirstRefused axis g m stop e) (laid : NestedTo g.collapsed g.first stop m m')
    : GroupOutcome axis g m m' (.error e)

/-- Once its lines are nested, the line behind a collapsed group is marked. -/
theorem getElem?_marked (axis : Axis)
    (laid : NestedTo g.collapsed g.first (g.first + (g.last + 1 - g.first)) m m') (i : Nat)
    : (if g.collapsed && g.last + 1 < axis.limit
        then m'.insert (g.last + 1) { get m' (g.last + 1) with collapsed := true } else m')[i]?
      = if g.holds i then some ((get m i).also (nested g.collapsed))
        else if g.collapsed ∧ i = g.last + 1 ∧ i < axis.limit
          then some { get m i with collapsed := true }
        else m[i]? := by
  have behind : get m' (g.last + 1) = get m (g.last + 1) := laid.get_eq (by omega)
  have nested := laid i
  simp only [← holds_iff] at nested
  split
  · next marked =>
      simp only [Bool.and_eq_true, decide_eq_true_eq] at marked
      rw [getElem?_insert, behind]
      by_cases here : g.last + 1 = i
      · subst here
        have outside : ¬ g.holds (g.last + 1) := by simp [OutlineGroup.holds]
        rw [if_pos rfl, if_neg outside, if_pos ⟨marked.1, rfl, marked.2⟩]
      · have elsewhere : ¬ (g.collapsed = true ∧ i = g.last + 1 ∧ i < axis.limit) := by
          rintro ⟨-, same, -⟩
          exact here same.symm
        rw [if_neg here, if_neg elsewhere, nested]
  · next unmarked =>
      have none : ¬ (g.collapsed = true ∧ i = g.last + 1 ∧ i < axis.limit) := by
        rintro ⟨folded, rfl, inside⟩
        simp [folded, inside] at unmarked
      rw [if_neg none, nested]

/-- A group is carried out, or ends at its first line that is refused, if not at the number of its
last one.
-/
theorem group_outcome (axis : Axis) (g : OutlineGroup) (m : Settings)
    : GroupOutcome axis (cut axis g) m (group axis g m).1 (group axis g m).2 := by
  rw [group]
  split
  · next far => exact .numberless far
  · next word =>
      have word : (cut axis g).last < axis.modulus := Nat.not_le.mp word
      generalize cut axis g = g at word ⊢
      by_cases room : ∀ i, g.holds i → refusal? axis m i = none
      · have roomy (i : Nat) (held : g.holds i) := refusal?_eq_none.mp (room i held)
        obtain ⟨m', ran, laid⟩ : ∃ m',
            deepenFrom axis g.collapsed (g.last + 1 - g.first) g.first m = (m', .ok ())
              ∧ NestedTo g.collapsed g.first (g.first + (g.last + 1 - g.first)) m m' := by
          by_cases ordered : g.first ≤ g.last
          · have last := (roomy g.last (holds_iff.mpr (by omega))).2
            exact deepenFrom_ok axis g.collapsed (by omega)
              fun j above below => (roomy j (holds_iff.mpr ⟨above, below⟩)).1
          · rw [Nat.sub_eq_zero_of_le (by omega)]
            exact ⟨m, rfl, fun j => by rw [if_neg (by omega)]⟩
        have marked := getElem?_marked axis laid
        simp only [ran]
        split
        · next behind =>
            simp only [if_pos behind] at marked
            exact .grouped word room marked
        · next behind =>
            simp only [if_neg behind] at marked
            exact .grouped word room marked
      · obtain ⟨i, held, refused⟩ : ∃ i, g.holds i ∧ refusal? axis m i ≠ none := by
          simpa using room
        obtain ⟨stop, e, first⟩ := exists_firstRefused held refused
        have within := holds_iff.mp first.held
        obtain ⟨m', ran, laid⟩ := deepenFrom_stops g.collapsed within.1 within.2
          (fun j above before => first.before j before (holds_iff.mpr ⟨above, by omega⟩))
          first.refused
        simp only [ran]
        exact .stopped word first laid

/-- A group gets under way and is refused later on: its first line is nested and one behind it is
refused.
-/
def StopsMidway (axis : Axis) (g : OutlineGroup) (m : Settings) : Prop :=
  g.last < axis.modulus ∧ refusal? axis m g.first = none
    ∧ ∃ i, g.holds i ∧ refusal? axis m i ≠ none

/-- The only groups that are not all or nothing are those that get under way and are refused. -/
theorem GroupOutcome.allOrNothing_iff {result : Except ModelError Unit}
    (outcome : GroupOutcome axis g m m' result)
    : result = .ok () ∨ m' = m ↔ ¬ StopsMidway axis g m := by
  cases outcome with
  | grouped _ room _ =>
      exact iff_of_true (.inl rfl) fun ⟨_, _, i, held, refused⟩ => refused (room i held)
  | numberless far =>
      exact iff_of_true (.inr rfl) fun ⟨word, _⟩ => absurd word (Nat.not_lt.mpr far)
  | @stopped _ stop e word first laid =>
      have within := (holds_iff.mp first.held).1
      constructor
      · rintro (done | same) ⟨-, room, -⟩
        · cases done
        · have atOnce : stop = g.first := Nat.le_antisymm (laid.eq_iff.mp same) within
          rw [← atOnce, first.refused] at room
          cases room
      · refine fun atOnce => .inr (laid.eq_iff.mpr (Nat.not_lt.mp fun later => ?_))
        have room := first.before g.first later
          (holds_iff.mpr ⟨Nat.le_refl _, by have := holds_iff.mp first.held; omega⟩)
        exact atOnce ⟨word, room, stop, first.held, by rw [first.refused]; nofun⟩

end Settings

variable {s : Sheet} {axis : Axis} {m : Settings}

theorem withLines_eq_self_iff : s.withLines axis m = s ↔ m = s.lines axis := by
  constructor
  · intro same
    have lines := congrArg (lines · axis) same
    cases axis <;> exact lines
  · rintro rfl
    cases axis <;> rfl

/-- Grouping changes nothing but the settings of the lines along its axis. It is carried out, or
ends at the first line that is refused with those before it nested, which is why it is all or
nothing just if no line behind a nested first one is refused. A group is meant with its first line
cut to a word, which is the group itself where that line does not stand behind the last one.
-/
theorem group_allOrNothing_iff (s : Sheet) (axis : Axis) (g : OutlineGroup)
    : ∃ m result, s.group axis g = (s.withLines axis m, result)
        ∧ Settings.GroupOutcome axis (Settings.cut axis g) (s.lines axis) m result
        ∧ (result = .ok () ∨ s.withLines axis m = s
            ↔ ¬ Settings.StopsMidway axis (Settings.cut axis g) (s.lines axis))
        ∧ (g.first ≤ g.last → g.last < axis.modulus → Settings.cut axis g = g) := by
  have outcome := Settings.group_outcome axis g (s.lines axis)
  refine ⟨_, _, group_eq s axis g, outcome, ?_, Settings.cut_eq_self⟩
  rw [withLines_eq_self_iff]
  exact outcome.allOrNothing_iff

/-- The second column is at the greatest depth. -/
def deepColumnEdits : List Edit := [.setOutline .columns 1 maxOutlineLevel]

/-- A group of the first two columns is refused at the second one, and the first one is nested
then.
-/
theorem group_deepColumnEdits
    : ∃ s, Run (fun _ => True) { name := "Deep" } s
        ∧ (s.group .columns ⟨0, 1, false⟩).2 = .error (.outlineTooDeep 8)
        ∧ s.columns[0]? = none
        ∧ (s.group .columns ⟨0, 1, false⟩).1.columns[0]? = some { outlineLevel := 1 } := by
  have run
      : Run (fun _ => True) { name := "Deep" } (deepColumnEdits.foldl apply { name := "Deep" }) :=
    .of_list fun _ _ => trivial
  exact ⟨_, run, by decide +kernel, by decide +kernel, by decide +kernel⟩

end Sheet

end Spreadsheet
