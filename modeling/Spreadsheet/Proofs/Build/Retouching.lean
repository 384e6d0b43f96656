import Mathlib.Data.List.Forall2
import Spreadsheet.Build.Table
import Spreadsheet.Proofs.Sheet.Bounds

/-! The steps of building a table, each taken apart once into what it does when it succeeds. Those
that declare something for a sheet as a whole touch no cell, no width of a column and no validation,
and each keeps to the limits of the sheet.
-/

namespace Spreadsheet.Build

open Spreadsheet.Cell Spreadsheet.Request Spreadsheet.Sheet

-----------------------------------------------------------------------------------------
-- Steps for each item of a list
-----------------------------------------------------------------------------------------

theorem onModel_eq_ok {step : Except ModelError α} {a : α} : onModel step = .ok a ↔ step = .ok a :=
  mapError_eq_ok

/-- What holds before the first step and passes from each step to the next holds at the end, by
list induction over the steps still to come.
-/
theorem forEachFrom_invariant {step : Nat → α → σ → Except BuildError σ}
    {motive : Nat → σ → Prop} {list : List α} {s s' : σ}
    (kept
      : ∀ i a s s', list[i]? = some a → step i a s = .ok s' → motive i s → motive (i + 1) s')
    (done : forEachFrom step 0 list s = .ok s') (start : motive 0 s)
    : motive list.length s' := by
  suffices remaining
      : ∀ (rest : List α) (i : Nat) (s : σ),
          (∀ j, rest[j]? = list[i + j]?) → i + rest.length = list.length
          → forEachFrom step i rest s = .ok s' → motive i s → motive list.length s' from
    remaining list 0 s (by simp) (by simp) done start
  intro rest
  induction rest with
  | nil =>
      intro i s _ reached finished start
      cases finished
      rwa [← reached]
  | cons a rest ih =>
      intro i s items reached finished start
      obtain ⟨t, first, finished⟩ := bind_eq_ok.mp finished
      have here : list[i]? = some a := (items 0).symm
      apply ih (i + 1) t _ _ finished (kept i a s t here first start)
      · intro j
        rw [Nat.add_assoc, Nat.add_comm 1 j]
        exact items (j + 1)
      · simp only [List.length_cons] at reached
        omega

/-- Steps for the numbers below a bound. -/
theorem forEach_range_invariant {step : Nat → σ → Except BuildError σ} {motive : Nat → σ → Prop}
    {n : Nat} {s s' : σ}
    (kept : ∀ i < n, ∀ s s', step i s = .ok s' → motive i s → motive (i + 1) s')
    (done : forEach step (List.range n) s = .ok s') (start : motive 0 s)
    : motive n s' := by
  rw [← List.length_range (n := n)]
  refine forEachFrom_invariant (motive := motive) ?_ done start
  intro i a s s' listed stepped reached
  obtain ⟨inside, same⟩ := List.getElem?_eq_some_iff.mp listed
  rw [List.length_range] at inside
  rw [List.getElem_range] at same
  subst same
  exact kept i inside s s' stepped reached

/-- A relation that each step keeps is kept by all of them. -/
theorem forEachFrom_preserves {step : Nat → α → σ → Except BuildError σ} {motive : σ → Prop}
    {list : List α} {s s' : σ}
    (kept : ∀ i a s s', a ∈ list → step i a s = .ok s' → motive s → motive s')
    (done : forEachFrom step 0 list s = .ok s') (start : motive s)
    : motive s' :=
  forEachFrom_invariant (motive := fun _ => motive)
    (fun i a s s' item => kept i a s s' (List.mem_of_getElem? item)) done start

/-- Steps on the items of a list succeed with one result for each item, by list induction. -/
theorem mapM_eq_ok {f : α → Except ε β} {list : List α} {results : List β}
    : list.mapM f = .ok results ↔ List.Forall₂ (fun a b => f a = .ok b) list results := by
  induction list generalizing results with
  | nil =>
      rw [List.mapM_nil, List.forall₂_nil_left_iff]
      exact ⟨fun same => (Except.ok.inj same).symm, fun same => congrArg Except.ok same.symm⟩
  | cons a rest ih =>
      simp only [List.mapM_cons, bind_eq_ok, ih, List.forall₂_cons_left_iff]
      constructor
      · rintro ⟨b, first, bs, later, same⟩
        cases same
        exact ⟨b, bs, first, later, rfl⟩
      · rintro ⟨b, bs, first, later, rfl⟩
        exact ⟨b, first, bs, later, rfl⟩

/-- A list is related to another one if each of its items is related to something. -/
theorem exists_forall₂_iff {R : α → β → Prop} {list : List α}
    : (∃ results, List.Forall₂ R list results) ↔ ∀ a ∈ list, ∃ b, R a b := by
  induction list with
  | nil => exact iff_of_true ⟨[], .nil⟩ nofun
  | cons a rest ih =>
      rw [List.forall_mem_cons, ← ih]
      constructor
      · rintro ⟨results, each⟩
        cases each with
        | cons first later => exact ⟨⟨_, first⟩, _, later⟩
      · rintro ⟨⟨b, first⟩, bs, later⟩
        exact ⟨b :: bs, .cons first later⟩

theorem exists_of_mem_of_mapM {f : α → Except ε β} {list : List α} {results : List β}
    (done : list.mapM f = .ok results) {a : α} (member : a ∈ list)
    : ∃ b, f a = .ok b :=
  exists_forall₂_iff.mp ⟨results, mapM_eq_ok.mp done⟩ a member

/-- Every result of steps on the items of a list is the result for one of them. -/
theorem exists_of_mem_mapM {f : α → Except ε β} {list : List α} {results : List β}
    (done : list.mapM f = .ok results) {b : β} (member : b ∈ results)
    : ∃ a ∈ list, f a = .ok b := by
  have each := mapM_eq_ok.mp done
  obtain ⟨i, inside, rfl⟩ := List.getElem_of_mem member
  have inside' : i < list.length := by rwa [each.length_eq]
  exact ⟨list[i], List.getElem_mem inside', each.get inside' inside⟩

-----------------------------------------------------------------------------------------
-- Steps that succeed
-----------------------------------------------------------------------------------------

section Steps

variable {spec : SheetSpec} {s s' : Sheet}

theorem columnAt_eq_ok {i c : Nat} : columnAt i = .ok c ↔ i < maxColumns ∧ c = i := by
  simp only [columnAt]
  split
  · next inside => simp [inside, eq_comm]
  · next outside => simp [outside]

theorem dataRowAt_eq_ok {i r : Nat} : dataRowAt i = .ok r ↔ i + 1 < maxRows ∧ r = i + 1 := by
  simp only [dataRowAt]
  split
  · next inside => simp [inside, eq_comm]
  · next outside => simp [outside]

theorem writeHeaderCell_eq_ok {i : Nat} {column : ColumnSpec}
    : writeHeaderCell i column s = .ok s'
      ↔ i < maxColumns ∧ ∃ sized, s.setSize .columns i column.width = .ok sized
        ∧ ∃ valued, sized.setValue 0 i (.text column.header) = .ok valued
        ∧ ∃ style, withOverlay column.style headerStyle = .ok style
        ∧ valued.setStyle 0 i style = .ok s' := by
  simp only [writeHeaderCell, bind_eq_ok, onModel_eq_ok, columnAt_eq_ok, and_assoc,
    exists_and_left, exists_eq_left]

/-- A step that is left out in some cases, before another one. -/
theorem skippable_bind_eq_ok {p : Prop} [Decidable p] {a b : α} {x : Except ε α}
    {f : α → Except ε α}
    : (if p then .ok a >>= f else x >>= f) = .ok b
      ↔ ∃ c, (if p then .ok a else x) = .ok c ∧ f c = .ok b := by
  rw [← bind_eq_ok]
  split <;> rfl

/-- The value of a data cell may be left out, and then its style. -/
theorem writeDataCell_eq_ok {row i : Nat} {data : Json.Members} {column : ColumnSpec × Style}
    : writeDataCell row data i column s = .ok s'
      ↔ i < maxColumns
        ∧ ∃ t, (if (cellValue column.1.kind (data.get? column.1.key)).isEmpty then .ok s
            else onModel (s.setValue row i (cellValue column.1.kind (data.get? column.1.key))))
              = .ok t
        ∧ (if column.2 = {} then .ok t else onModel (t.setStyle row i column.2)) = .ok s' := by
  rw [writeDataCell, bind_eq_ok]
  simp only [skippable_bind_eq_ok, columnAt_eq_ok, and_assoc, exists_and_left, exists_eq_left]

theorem attachValidation_eq_ok {lastRow i : Nat} {column : ColumnSpec}
    : attachValidation lastRow i column s = .ok s'
      ↔ column.validation = none ∧ s' = s
        ∨ ∃ declared, column.validation = some declared ∧ i < maxColumns
          ∧ ∃ v, validation declared (.ofCorners ⟨1, i⟩ ⟨lastRow, i⟩) = .ok v
          ∧ s' = s.addValidation v := by
  simp only [attachValidation]
  cases column.validation with
  | none => simp [eq_comm]
  | some declared =>
      simp [bind_eq_ok, columnAt_eq_ok, and_assoc, pure, Except.pure, eq_comm (a := s')]

theorem applyFreeze_eq_ok {cell : Option String}
    : applyFreeze cell s = .ok s'
      ↔ cell = none ∧ s' = s
        ∨ ∃ text, cell = some text ∧ ∃ a, ModelError.parseAddress text = .ok a
          ∧ s' = s.setFreeze a.row a.column := by
  cases cell with
  | none => simp [applyFreeze, eq_comm]
  | some text =>
      simp [applyFreeze, bind_eq_ok, onModel_eq_ok, pure, Except.pure, eq_comm (a := s')]

theorem applyFilter_eq_ok {wanted : Option Bool}
    : applyFilter spec wanted s = .ok s'
      ↔ ¬ (wanted = some true ∧ spec.columns ≠ []) ∧ s' = s
        ∨ (wanted = some true ∧ spec.columns ≠ []) ∧ spec.columns.length - 1 < maxColumns
          ∧ s' = { s with filter := some (.ofCorners ⟨0, 0⟩ ⟨0, spec.columns.length - 1⟩) } := by
  simp only [applyFilter]
  split
  · next filtered =>
      simp [filtered, bind_eq_ok, columnAt_eq_ok, and_assoc, pure, Except.pure, eq_comm (a := s')]
  · next unfiltered => simp [unfiltered, eq_comm]

theorem writeTotal_eq_ok {row : Nat} {total : String × String}
    : writeTotal spec row total s = .ok s'
      ↔ spec.columnPosition? total.1 = none ∧ s' = s
        ∨ ∃ i, spec.columnPosition? total.1 = some i ∧ i < maxColumns
          ∧ ∃ t, s.setFormula row i total.2 = .ok t
          ∧ t.updateStyle row i (fun s => { s with font := { s.font with bold := true } })
            = .ok s' := by
  simp only [writeTotal]
  cases spec.columnPosition? total.1 with
  | none => simp [eq_comm]
  | some i => simp [bind_eq_ok, onModel_eq_ok, columnAt_eq_ok, and_assoc]

theorem addRule_eq_ok {i : Nat} {declared : RuleSpec}
    : addRule i declared s = .ok s' ↔ ∃ r, rule (i + 1) declared = .ok r ∧ s' = s.addRule r := by
  simp only [addRule, bind_eq_ok, pure, Except.pure, Except.ok.injEq, eq_comm (a := s')]

theorem mergeCells_eq_ok {text : String}
    : mergeCells text s = .ok s'
      ↔ ∃ range, ModelError.parseRange text = .ok range ∧ s.merge range = .ok s' := by
  simp only [mergeCells, bind_eq_ok, onModel_eq_ok]

theorem setRowHeight_eq_ok {entry : String × Number.Binary64}
    : setRowHeight entry s = .ok s'
      ↔ ∃ number, Number.readNat? rowNumberLimit (Text.trimChars entry.1.toList) = some number
        ∧ ∃ row, rowOfNumber number = .ok row ∧ s.setSize .rows row entry.2 = .ok s' := by
  simp only [setRowHeight]
  cases Number.readNat? rowNumberLimit (Text.trimChars entry.1.toList) with
  | none => simp
  | some number => simp [bind_eq_ok, onModel_eq_ok]

theorem hideRow_eq_ok {number : Nat}
    : hideRow number s = .ok s'
      ↔ ∃ row, rowOfNumber number = .ok row ∧ s.setHidden .rows row true = .ok s' := by
  simp only [hideRow, bind_eq_ok, onModel_eq_ok]

theorem hideColumn_eq_ok {letters : String}
    : hideColumn letters s = .ok s'
      ↔ ∃ column, columnOfLetters letters = .ok column
        ∧ s.setHidden .columns column true = .ok s' := by
  simp only [hideColumn, bind_eq_ok, onModel_eq_ok]

theorem groupLines_eq_ok {axis : Axis} {g : OutlineGroup}
    : groupLines axis g s = .ok s' ↔ s.group axis g = (s', .ok ()) := by
  rw [groupLines]
  rcases s.group axis g with ⟨t, _ | _⟩ <;> simp

theorem groupRows_eq_ok {g : RowGroupSpec}
    : groupRows g s = .ok s'
      ↔ ∃ first, rowOfNumber g.first = .ok first ∧ ∃ last, rowOfNumber g.last = .ok last
        ∧ groupLines .rows (.ofEnds first last (g.collapsed.getD false)) s = .ok s' := by
  simp only [groupRows, bind_eq_ok]

theorem groupColumns_eq_ok {g : ColumnGroupSpec}
    : groupColumns g s = .ok s'
      ↔ ∃ first, columnOfLetters g.first = .ok first ∧ ∃ last, columnOfLetters g.last = .ok last
        ∧ groupLines .columns (.ofEnds first last (g.collapsed.getD false)) s = .ok s' := by
  simp only [groupColumns, bind_eq_ok]

end Steps

-----------------------------------------------------------------------------------------
-- Retouched sheets
-----------------------------------------------------------------------------------------

/-- The second sheet has the name, cells, validations and column widths of the first, and it
keeps to the limits if the first does.
-/
structure Retouch (s s' : Sheet) : Prop where
  name : s'.name = s.name
  cells : s'.cells = s.cells
  validations : s'.validations = s.validations
  widths : ∀ i, (Settings.get s'.columns i).size = (Settings.get s.columns i).size
  inBounds : s.AllInBounds → s'.AllInBounds

theorem Retouch.refl (s : Sheet) : Retouch s s := ⟨rfl, rfl, rfl, fun _ => rfl, id⟩

theorem Retouch.trans {s t u : Sheet} (first : Retouch s t) (second : Retouch t u)
    : Retouch s u where
  name := second.name.trans first.name
  cells := second.cells.trans first.cells
  validations := second.validations.trans first.validations
  widths i := (second.widths i).trans (first.widths i)
  inBounds := second.inBounds ∘ first.inBounds

/-- Retouching steps in a row retouch the sheet. -/
theorem forEachFrom_retouch {step : Nat → α → Sheet → Except BuildError Sheet} {list : List α}
    {s s' : Sheet} (each : ∀ i a s s', step i a s = .ok s' → Retouch s s')
    (done : forEachFrom step 0 list s = .ok s')
    : Retouch s s' :=
  forEachFrom_preserves (motive := Retouch s)
    (fun i a t t' _ stepped reached => reached.trans (each i a t t' stepped)) done (.refl s)

variable {s s' : Sheet}

theorem applyFreeze_retouch {cell : Option String} (done : applyFreeze cell s = .ok s')
    : Retouch s s' := by
  rcases applyFreeze_eq_ok.mp done with ⟨-, rfl⟩ | ⟨text, -, a, parsed, rfl⟩
  · exact .refl s'
  · refine ⟨rfl, rfl, rfl, fun _ => rfl, fun inside => { inside with freeze := ?_ }⟩
    intro f split
    simp only [setFreeze] at split
    split at split
    · cases split
    · cases split
      exact ModelError.parseAddress_onSheet parsed

theorem applyFilter_retouch {spec : SheetSpec} {wanted : Option Bool}
    (done : applyFilter spec wanted s = .ok s')
    : Retouch s s' := by
  rcases applyFilter_eq_ok.mp done with ⟨-, rfl⟩ | ⟨-, inside, rfl⟩
  · exact .refl s'
  · refine ⟨rfl, rfl, rfl, fun _ => rfl, fun bounds => { bounds with filter := ?_ }⟩
    intro range filtered
    cases filtered
    have top : 0 < maxRows := by decide
    have left : 0 < maxColumns := by decide
    exact Range.ofCorners_onSheet ⟨top, left⟩ ⟨top, inside⟩

theorem applyLayout_retouch (f : FormattingSpec) (s : Sheet) : Retouch s (applyLayout f s) :=
  ⟨rfl, rfl, rfl, fun _ => rfl, fun inside => { inside with }⟩

-----------------------------------------------------------------------------------------
-- Rules and merged cells
-----------------------------------------------------------------------------------------

/-- A rule has the condition, the ranges and, if it shows one, the style that its declaration
comes to.
-/
theorem rule_eq_ok {priority : Nat} {spec : RuleSpec} {r : Rule}
    : rule priority spec = .ok r
      ↔ condition spec = .ok r.condition
        ∧ (Text.words spec.range).mapM (fun part => onModel (ModelError.parseRange part))
            = .ok r.ranges
        ∧ r.ranges.isEmpty = false ∧ r.priority = priority ∧ r.stopIfTrue = false
        ∧ (if r.condition.usesFormat then optionally ruleStyle spec.style else .ok none)
            = .ok r.format := by
  simp only [rule, bind_eq_ok]
  constructor
  · rintro ⟨shown, looked, ranges, placed, done⟩
    split at done
    · cases done
    · next filled =>
        have filled := Bool.eq_false_iff.mpr filled
        split at done
        · next uses =>
            obtain ⟨format, styled, done⟩ := bind_eq_ok.mp done
            cases done
            exact ⟨looked, placed, filled, rfl, rfl, (if_pos uses).trans styled⟩
        · next plain =>
            cases done
            exact ⟨looked, placed, filled, rfl, rfl, if_neg plain⟩
  · obtain ⟨shown, ranges, _, _, format⟩ := r
    rintro ⟨looked, placed, filled, rfl, rfl, styled⟩
    refine ⟨shown, looked, ranges, placed, ?_⟩
    rw [if_neg (Bool.eq_false_iff.mp filled)]
    split at styled
    · next uses =>
        rw [if_pos uses, styled]
        rfl
    · next plain =>
        cases styled
        rw [if_neg plain]
        rfl

/-- Every range of a rule is one of the texts between the blanks of its range text. -/
theorem rule_onSheet {priority : Nat} {spec : RuleSpec} {r : Rule}
    (built : rule priority spec = .ok r)
    : RangesOnSheet r.ranges := by
  intro range member
  obtain ⟨part, -, read⟩ := exists_of_mem_mapM (rule_eq_ok.mp built).2.1 member
  exact ModelError.parseRange_onSheet (onModel_eq_ok.mp read)

theorem addRule_retouch {i : Nat} {spec : RuleSpec} (done : addRule i spec s = .ok s')
    : Retouch s s' := by
  obtain ⟨r, built, rfl⟩ := addRule_eq_ok.mp done
  refine ⟨rfl, rfl, rfl, fun _ => rfl, fun inside => { inside with rules := ?_ }⟩
  intro other member
  rcases List.mem_append.mp member with old | new
  · exact inside.rules other old
  · rw [List.mem_singleton.mp new]
    exact rule_onSheet built

/-- A merged range is read from its text and clear of the others. -/
theorem mergeCells_retouch {text : String} (done : mergeCells text s = .ok s')
    : Retouch s s' := by
  obtain ⟨range, read, merged⟩ := mergeCells_eq_ok.mp done
  obtain ⟨-, rfl⟩ := merge_eq_ok.mp merged
  refine ⟨rfl, rfl, rfl, fun _ => rfl, fun inside => { inside with merged := ?_, descending := ?_ }⟩
  · intro other member
    rcases List.mem_append.mp member with old | new
    · exact inside.merged other old
    · rw [List.mem_singleton.mp new]
      exact ModelError.parseRange_onSheet read
  · intro other member
    rcases List.mem_append.mp member with old | new
    · exact inside.descending other old
    · rw [List.mem_singleton.mp new]
      exact ModelError.parseRange_descending read

-----------------------------------------------------------------------------------------
-- Rows and columns
-----------------------------------------------------------------------------------------

/-- The setting of a row is changed. -/
theorem withRow_retouch {row : Nat} {setting : Setting} (inside : row < maxRows)
    : Retouch s (s.withLines .rows ((s.lines .rows).insert row setting)) :=
  ⟨rfl, rfl, rfl, fun _ => rfl, fun bounds => bounds.insertLine .rows inside setting⟩

theorem setRowHeight_retouch {entry : String × Number.Binary64}
    (done : setRowHeight entry s = .ok s')
    : Retouch s s' := by
  obtain ⟨number, -, row, -, sized⟩ := setRowHeight_eq_ok.mp done
  obtain ⟨inside, rfl⟩ := setSize_eq_ok.mp sized
  exact withRow_retouch inside

theorem hideRow_retouch {number : Nat} (done : hideRow number s = .ok s') : Retouch s s' := by
  obtain ⟨row, -, hidden⟩ := hideRow_eq_ok.mp done
  obtain ⟨inside, rfl⟩ := setHidden_eq_ok.mp hidden
  exact withRow_retouch inside

/-- A changed setting leaves all sizes alone if it keeps its own. -/
theorem get_insert_size {m : Settings} {i : Nat} {setting : Setting}
    (same : setting.size = (Settings.get m i).size) (j : Nat)
    : (Settings.get (m.insert i setting) j).size = (Settings.get m j).size := by
  simp only [Settings.get, Std.ExtTreeMap.getD_insert, Std.compare_eq_iff_eq]
  split
  · next here =>
      subst here
      exact same
  · rfl

theorem hideColumn_retouch {letters : String} (done : hideColumn letters s = .ok s')
    : Retouch s s' := by
  obtain ⟨column, -, hidden⟩ := hideColumn_eq_ok.mp done
  obtain ⟨inside, rfl⟩ := setHidden_eq_ok.mp hidden
  exact ⟨rfl, rfl, rfl, get_insert_size rfl, fun bounds => bounds.insertLine .columns inside _⟩

/-- Grouping keeps to the lines of the sheet and changes no size. -/
theorem groupLines_retouch {axis : Axis} {g : OutlineGroup}
    (done : groupLines axis g s = .ok s')
    : Retouch s s' := by
  have grouped := groupLines_eq_ok.mp done
  rw [group_eq] at grouped
  obtain rfl : s.withLines axis (Settings.group axis g (s.lines axis)).1 = s' :=
    congrArg Prod.fst grouped
  have bounds (bounds : s.AllInBounds)
      : (s.withLines axis (Settings.group axis g (s.lines axis)).1).AllInBounds :=
    bounds.withLines <| Settings.group_preserves (motive := fun m => ∀ i ∈ m, i < axis.limit)
      (fun _ _ setting inside _ _ below => Settings.lt_limit_insert below inside setting) g
      (bounds.lines axis)
  cases axis with
  | rows => exact ⟨rfl, rfl, rfl, fun _ => rfl, bounds⟩
  | columns =>
      refine ⟨rfl, rfl, rfl, ?_, bounds⟩
      refine Settings.group_preserves
        (motive := fun m => ∀ i, (Settings.get m i).size = (Settings.get s.columns i).size)
        ?_ g fun _ => rfl
      intro m i setting _ same _ sizes j
      rw [get_insert_size same]
      exact sizes j

theorem groupRows_retouch {g : RowGroupSpec} (done : groupRows g s = .ok s') : Retouch s s' := by
  obtain ⟨first, -, last, -, grouped⟩ := groupRows_eq_ok.mp done
  exact groupLines_retouch grouped

theorem groupColumns_retouch {g : ColumnGroupSpec} (done : groupColumns g s = .ok s')
    : Retouch s s' := by
  obtain ⟨first, -, last, -, grouped⟩ := groupColumns_eq_ok.mp done
  exact groupLines_retouch grouped

-----------------------------------------------------------------------------------------
-- Charts and pictures
-----------------------------------------------------------------------------------------

/-- Two steps that may warn end as two steps that do not. -/
theorem Logged.result_bind (x : Logged ε α) (f : α → Logged ε β)
    : (x >>= f).result = x.result >>= fun a => (f a).result := by
  obtain ⟨warnings, result⟩ := x
  cases result <;> rfl

theorem Logged.bind_result_eq_ok {x : Logged ε α} {f : α → Logged ε β} {b : β}
    : (x >>= f).result = .ok b ↔ ∃ a, x.result = .ok a ∧ (f a).result = .ok b := by
  rw [result_bind, bind_eq_ok]

theorem anchor_eq_ok {spec : AnchorSpec} {a : Anchor}
    : anchor spec = .ok a
      ↔ ModelError.parseAddress spec.topLeft = .ok a.topLeft
        ∧ ModelError.parseAddress spec.bottomRight = .ok a.bottomRight := by
  simp only [anchor, bind_eq_ok, onModel_eq_ok, pure, Except.pure, Except.ok.injEq]
  constructor
  · rintro ⟨topLeft, first, bottomRight, second, rfl⟩
    exact ⟨first, second⟩
  · rintro ⟨first, second⟩
    exact ⟨_, first, _, second, rfl⟩

theorem anchor_onSheet {spec : AnchorSpec} {a : Anchor} (built : anchor spec = .ok a)
    : a.OnSheet := by
  obtain ⟨first, second⟩ := anchor_eq_ok.mp built
  exact ⟨ModelError.parseAddress_onSheet first, ModelError.parseAddress_onSheet second⟩

theorem anchor_of_chart {spec : ChartSpec} {c : Chart} (built : chart spec = .ok c)
    : anchor spec.position = .ok c.anchor := by
  obtain ⟨a, anchored, built⟩ := bind_eq_ok.mp built
  cases built
  exact anchored

theorem picture_eq_ok {sheet payload : String} {index : Nat} {spec : PictureSpec} {p : Picture}
    : picture sheet index spec payload = .ok p
      ↔ pictureData payload = .ok p.data ∧ pictureFormat? spec.extension p.data = some p.format
        ∧ anchor spec.position = .ok p.anchor := by
  rw [picture, bind_eq_ok]
  constructor
  · rintro ⟨data, decoded, built⟩
    split at built
    · cases built
    · next format known =>
        obtain ⟨a, anchored, built⟩ := bind_eq_ok.mp built
        cases built
        exact ⟨decoded, known, anchored⟩
  · rintro ⟨decoded, known, anchored⟩
    refine ⟨p.data, decoded, ?_⟩
    rw [known, anchored]
    rfl

theorem foldl_addChart (charts : List Chart) (s : Sheet)
    : charts.foldl Sheet.addChart s = { s with charts := s.charts ++ charts } := by
  induction charts generalizing s with
  | nil => rw [List.append_nil]; rfl
  | cons c rest ih => rw [List.foldl_cons, ih, Sheet.addChart, List.append_assoc]; rfl

/-- Charts are made of all declarations before it is asked whether they can be shown. -/
theorem addCharts_result (can : Capabilities) (specs : List ChartSpec) (s : Sheet)
    : (addCharts can specs s).result
      = (specs.mapM chart).map fun charts =>
          if can.charts then { s with charts := s.charts ++ charts } else s := by
  rw [addCharts, Logged.result_bind]
  change (specs.mapM chart >>= _) = _
  cases specs.mapM chart with
  | error e => rfl
  | ok charts =>
      change Logged.result (if can.charts = true then _ else _) = Except.ok _
      split
      · rw [foldl_addChart]; rfl
      · rfl

theorem addCharts_eq_ok {can : Capabilities} {specs : List ChartSpec}
    : (addCharts can specs s).result = .ok s'
      ↔ ∃ charts, specs.mapM chart = .ok charts
        ∧ s' = if can.charts then { s with charts := s.charts ++ charts } else s := by
  simp only [addCharts_result, map_eq_ok, eq_comm (a := s')]

theorem addCharts_retouch {can : Capabilities} {specs : List ChartSpec}
    (done : (addCharts can specs s).result = .ok s')
    : Retouch s s' := by
  obtain ⟨charts, built, rfl⟩ := addCharts_eq_ok.mp done
  split
  · refine ⟨rfl, rfl, rfl, fun _ => rfl, fun inside => { inside with charts := ?_ }⟩
    intro c member
    rcases List.mem_append.mp member with old | new
    · exact inside.charts c old
    · obtain ⟨spec, -, made⟩ := exists_of_mem_mapM built new
      exact anchor_onSheet (anchor_of_chart made)
  · exact .refl s

/-- A picture with data is made before it is asked whether it can be shown. -/
theorem addPicture_result (can : Capabilities) (index : Nat) (spec : PictureSpec) (s : Sheet)
    : (addPicture can index spec s).result
      = match spec.base64 with
        | none => .ok s
        | some payload =>
          (picture s.name index spec payload).map fun p =>
            if can.pictures then s.addPicture p else s := by
  rw [addPicture]
  cases spec.base64 with
  | none => rfl
  | some payload =>
      rw [Logged.result_bind]
      change (picture s.name index spec payload >>= _) = Except.map _ _
      cases picture s.name index spec payload with
      | error e => rfl
      | ok p =>
          change Logged.result (if can.pictures = true then _ else _) = Except.ok _
          split <;> rfl

theorem addPicture_eq_ok {can : Capabilities} {index : Nat} {spec : PictureSpec}
    : (addPicture can index spec s).result = .ok s'
      ↔ spec.base64 = none ∧ s' = s
        ∨ ∃ payload, spec.base64 = some payload
          ∧ ∃ p, picture s.name index spec payload = .ok p
          ∧ s' = if can.pictures then s.addPicture p else s := by
  rw [addPicture_result]
  cases spec.base64 with
  | none =>
      simp only [Except.ok.injEq, reduceCtorEq, false_and, exists_false, or_false, true_and,
        eq_comm (a := s')]
  | some payload =>
      simp only [map_eq_ok, reduceCtorEq, false_and, false_or, Option.some.injEq, exists_eq_left',
        eq_comm (a := s')]

theorem addPicture_retouch {can : Capabilities} {index : Nat} {spec : PictureSpec}
    (done : (addPicture can index spec s).result = .ok s')
    : Retouch s s' := by
  rcases addPicture_eq_ok.mp done with ⟨-, rfl⟩ | ⟨payload, -, p, built, rfl⟩
  · exact .refl s'
  · split
    · refine ⟨rfl, rfl, rfl, fun _ => rfl, fun inside => { inside with pictures := ?_ }⟩
      intro other member
      rcases List.mem_append.mp member with old | new
      · exact inside.pictures other old
      · rw [List.mem_singleton.mp new]
        exact anchor_onSheet (picture_eq_ok.mp built).2.2
    · exact .refl s

/-- Pictures retouch a sheet one by one, by list induction. -/
theorem addPictures_retouch {can : Capabilities} {index : Nat} {specs : List PictureSpec}
    (done : (addPictures can index specs s).result = .ok s')
    : Retouch s s' := by
  induction specs generalizing index s with
  | nil =>
      cases done
      exact .refl _
  | cons spec rest ih =>
      obtain ⟨t, first, done⟩ := Logged.bind_result_eq_ok.mp done
      exact (addPicture_retouch first).trans (ih done)

end Spreadsheet.Build
