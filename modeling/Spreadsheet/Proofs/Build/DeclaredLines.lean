import Spreadsheet.Proofs.Build.TableFilling
import Spreadsheet.Proofs.Sheet.LineDeclarations

/-! The rows and columns of a built table are set as its formatting declares them, whatever the
order of the declarations. Apart from texts that name no line, only groups nested too deep are
refused.
-/

namespace Spreadsheet

open Spreadsheet.Cell Spreadsheet.Sheet

-----------------------------------------------------------------------------------------
-- Sheets with declared lines
-----------------------------------------------------------------------------------------

namespace Sheet

/-- What is declared for rows and for columns. -/
abbrev Declarations := Axis → LineDeclarations

namespace Declarations

instance : Append Declarations where
  append d e := fun axis => d axis ++ e axis

theorem append_apply (d e : Declarations) (axis : Axis) : (d ++ e) axis = d axis ++ e axis := rfl

/-- What is declared along either axis. -/
def both (rows columns : LineDeclarations) : Declarations
  | .rows => rows
  | .columns => columns

/-- Nothing but what is declared along one axis. -/
def along (axis : Axis) (e : LineDeclarations) : Declarations :=
  fun other => if other = axis then e else {}

def Shallow (d : Declarations) : Prop := ∀ axis, (d axis).Shallow

variable {d e f : Declarations} {axis : Axis} {lines : LineDeclarations}

theorem append_empty (d : Declarations) : d ++ (fun _ => {} : Declarations) = d :=
  funext fun axis => LineDeclarations.append_empty (d axis)

theorem append_assoc (d e f : Declarations) : d ++ e ++ f = d ++ (e ++ f) :=
  funext fun axis => LineDeclarations.append_assoc (d axis) (e axis) (f axis)

@[simp]
theorem along_empty (axis : Axis) : along axis {} = fun _ => {} := funext fun _ => ite_self _

theorem along_append (axis : Axis) (lines more : LineDeclarations)
    : along axis (lines ++ more) = along axis lines ++ along axis more := by
  funext other
  by_cases same : other = axis
  · simp only [append_apply, along, if_pos same]
  · simp only [append_apply, along, if_neg same, LineDeclarations.append_empty]

theorem Shallow.of_append (shallow : (d ++ e).Shallow) : d.Shallow := fun axis =>
  (shallow axis).of_append

theorem append_along_self : (d ++ along axis lines) axis = d axis ++ lines := by
  rw [append_apply, along, if_pos rfl]

theorem append_along_other {other : Axis} (different : other ≠ axis)
    : (d ++ along axis lines) other = d other := by
  rw [append_apply, along, if_neg different, LineDeclarations.append_empty]

/-- Declarations along one axis take only its lines deeper. -/
theorem Shallow.append_along (shallow : d.Shallow) (inner : (d axis ++ lines).Shallow)
    : (d ++ along axis lines).Shallow := fun other => by
  by_cases same : other = axis
  · rwa [same, append_along_self]
  · rw [append_along_other same]
    exact shallow other

end Declarations

/-- A sheet as it is apart from its rows and columns, which are set as declared. -/
structure Lined (base : Sheet) (d : Declarations) (s : Sheet) : Prop where
  rest : s = { base with rows := s.rows, columns := s.columns }
  shows : ∀ axis, Settings.Shows axis (d axis) (s.lines axis)

namespace Lined

variable {base s s' : Sheet} {d e : Declarations} {axis : Axis}

/-- Declarations that give each line the same setting make the same sheet. -/
theorem eq (lined : Lined base d s) (lined' : Lined base e s')
    (same : ∀ axis i, (d axis).setting i = (e axis).setting i)
    : s = s' := by
  have rows : s.rows = s'.rows := (lined.shows .rows).eq (lined'.shows .rows) (same .rows)
  have columns : s.columns = s'.columns :=
    (lined.shows .columns).eq (lined'.shows .columns) (same .columns)
  rw [lined.rest, lined'.rest, rows, columns]

theorem congr (lined : Lined base d s)
    (same : ∀ axis i, (d axis).setting i = (e axis).setting i)
    : Lined base e s where
  rest := lined.rest
  shows axis i := by rw [lined.shows axis i, same axis i]

/-- The settings along one axis change to show more declarations. -/
theorem withLines (lined : Lined base d s) {lines : LineDeclarations} {m : Settings}
    (shows : Settings.Shows axis (d axis ++ lines) m)
    : Lined base (d ++ .along axis lines) (s.withLines axis m) where
  rest := by
    rw [lined.rest]
    cases axis <;> rfl
  shows other := by
    by_cases same : other = axis
    · subst same
      rw [Declarations.append_along_self]
      have changed : (s.withLines other m).lines other = m := by cases other <;> rfl
      rwa [changed]
    · rw [Declarations.append_along_other same]
      have kept : (s.withLines axis m).lines other = s.lines other := by
        cases axis <;> cases other <;> first | rfl | exact absurd rfl same
      rw [kept]
      exact lined.shows other

end Lined

end Sheet

namespace Build

open Spreadsheet.Request

-----------------------------------------------------------------------------------------
-- Steps that declare lines
-----------------------------------------------------------------------------------------

/-- A step succeeds if its declarations can be read and leave no line nested too deep, and then
the sheet shows them.
-/
structure Declares (read : Except BuildError Declarations)
    (step : Sheet → Except BuildError Sheet) : Prop where
  shown
    : ∀ {base d s e}, Lined base d s → d.Shallow → read = .ok e → (d ++ e).Shallow
        → ∃ s', step s = .ok s' ∧ Lined base (d ++ e) s'
  needed
    : ∀ {base d s s'}, Lined base d s → d.Shallow → step s = .ok s'
        → ∃ e, read = .ok e ∧ (d ++ e).Shallow

namespace Declares

variable {read next : Except BuildError Declarations} {step more : Sheet → Except BuildError Sheet}

/-- The sheet after a step that succeeds. -/
theorem lined (declares : Declares read step) {base s s' : Sheet} {d : Declarations}
    (lined : Lined base d s) (shallow : d.Shallow) (done : step s = .ok s')
    : ∃ e, read = .ok e ∧ (d ++ e).Shallow ∧ Lined base (d ++ e) s' := by
  obtain ⟨e, known, deeper⟩ := declares.needed lined shallow done
  obtain ⟨t, done', shown⟩ := declares.shown lined shallow known deeper
  cases done.symm.trans done'
  exact ⟨e, known, deeper, shown⟩

theorem nothing : Declares (.ok fun _ => {}) .ok where
  shown {base d s e} lined _ known _ := by
    cases known
    exact ⟨s, rfl, by rwa [Declarations.append_empty]⟩
  needed {base d s s'} _ shallow _ := ⟨_, rfl, by rwa [Declarations.append_empty]⟩

/-- Two steps in a row declare what both of them do. -/
theorem bind (first : Declares read step) (second : Declares next more)
    : Declares (read >>= fun d => next >>= fun e => .ok (d ++ e)) fun s => step s >>= more where
  shown {base d s both} lined shallow known deeper := by
    obtain ⟨e, here, known⟩ := bind_eq_ok.mp known
    obtain ⟨e', there, known⟩ := bind_eq_ok.mp known
    cases known
    rw [← Declarations.append_assoc] at deeper ⊢
    obtain ⟨t, done, middle⟩ := first.shown lined shallow here deeper.of_append
    obtain ⟨s', done', final⟩ := second.shown middle deeper.of_append there deeper
    exact ⟨s', bind_eq_ok.mpr ⟨t, done, done'⟩, final⟩
  needed {base d s s'} lined shallow done := by
    obtain ⟨t, done, done'⟩ := bind_eq_ok.mp done
    obtain ⟨e, here, deeper, middle⟩ := first.lined lined shallow done
    obtain ⟨e', there, deepest⟩ := second.needed middle deeper done'
    refine ⟨e ++ e', ?_, by rwa [← Declarations.append_assoc]⟩
    rw [here, there]
    rfl

theorem congr {read' : Except BuildError Declarations} (declares : Declares read step)
    (same : read = read')
    : Declares read' step :=
  same ▸ declares

/-- Steps on the items of a list declare for all of them, by list induction. -/
theorem forEach {each : α → Sheet → Except BuildError Sheet} {item : α → Except BuildError β}
    (axis : Axis) (lines : List β → LineDeclarations) (empty : lines [] = {})
    (cons : ∀ b bs, lines (b :: bs) = lines [b] ++ lines bs)
    (declares : ∀ a, Declares (item a >>= fun b => .ok (.along axis (lines [b]))) (each a))
    (list : List α)
    : Declares (list.mapM item >>= fun bs => .ok (.along axis (lines bs)))
        (Build.forEach each list) := by
  suffices from_
      : ∀ i, Declares (list.mapM item >>= fun bs => .ok (.along axis (lines bs)))
          (forEachFrom (fun _ => each) i list) from from_ 0
  induction list with
  | nil => exact fun i => nothing.congr (by rw [← Declarations.along_empty axis, ← empty]; rfl)
  | cons a rest ih =>
      intro i
      refine ((declares a).bind (ih (i + 1))).congr ?_
      rw [List.mapM_cons]
      cases item a with
      | error e => rfl
      | ok b =>
          cases rest.mapM item with
          | error e => rfl
          | ok bs =>
              have joined := Declarations.along_append axis (lines [b]) (lines bs)
              rw [← cons] at joined
              exact congrArg Except.ok joined.symm

end Declares

-----------------------------------------------------------------------------------------
-- The declarations of a formatting
-----------------------------------------------------------------------------------------

/-- The row whose number a text gives. -/
def rowOfText (text : String) : Except BuildError Nat :=
  match Number.readNat? Cell.rowNumberLimit (Text.trimChars text.toList) with
  | none => .error (.badRowNumber text)
  | some number => rowOfNumber number

def rowHeight (entry : String × Number.Binary64) : Except BuildError (Nat × Number.Binary64) := do
  let row ← rowOfText entry.1
  return (row, entry.2)

def rowGroup (g : RowGroupSpec) : Except BuildError OutlineGroup := do
  let first ← rowOfNumber g.first
  let last ← rowOfNumber g.last
  return .ofEnds first last (g.collapsed.getD false)

def columnGroup (g : ColumnGroupSpec) : Except BuildError OutlineGroup := do
  let first ← columnOfLetters g.first
  let last ← columnOfLetters g.last
  return .ofEnds first last (g.collapsed.getD false)

/-- What a formatting declares for rows and columns, if all its texts name lines of a sheet. -/
def declaredLines (f : FormattingSpec) : Except BuildError Declarations := do
  let heights ← f.rowHeights.mapM rowHeight
  let hiddenRows ← f.hiddenRows.mapM rowOfNumber
  let hiddenColumns ← f.hiddenColumns.mapM columnOfLetters
  let rowGroups ← f.rowGroups.mapM rowGroup
  let columnGroups ← f.columnGroups.mapM columnGroup
  return .both ⟨heights, hiddenRows, rowGroups⟩ ⟨[], hiddenColumns, columnGroups⟩

theorem declaredLines_eq_ok {f : FormattingSpec} {d : Declarations}
    : declaredLines f = .ok d
      ↔ ∃ heights, f.rowHeights.mapM rowHeight = .ok heights
        ∧ ∃ hiddenRows, f.hiddenRows.mapM rowOfNumber = .ok hiddenRows
        ∧ ∃ hiddenColumns, f.hiddenColumns.mapM columnOfLetters = .ok hiddenColumns
        ∧ ∃ rowGroups, f.rowGroups.mapM rowGroup = .ok rowGroups
        ∧ ∃ columnGroups, f.columnGroups.mapM columnGroup = .ok columnGroups
        ∧ .both ⟨heights, hiddenRows, rowGroups⟩ ⟨[], hiddenColumns, columnGroups⟩ = d := by
  simp only [declaredLines, bind_eq_ok, pure, Except.pure, Except.ok.injEq]

/-- The steps of formatting that set rows and columns. -/
def applyLines (f : FormattingSpec) (s : Sheet) : Except BuildError Sheet := do
  let s ← forEach setRowHeight f.rowHeights s
  let s ← forEach hideRow f.hiddenRows s
  let s ← forEach hideColumn f.hiddenColumns s
  let s ← forEach groupRows f.rowGroups s
  forEach groupColumns f.columnGroups s

theorem rowOfNumber_lt {number row : Nat} (read : rowOfNumber number = .ok row)
    : row < Axis.rows.limit :=
  rowIndex_lt (mapError_eq_ok.mp (onModel_eq_ok.mp read))

theorem columnOfLetters_lt {letters : String} {column : Nat}
    (read : columnOfLetters letters = .ok column)
    : column < Axis.columns.limit :=
  columnIndex_lt (mapError_eq_ok.mp (onModel_eq_ok.mp read))

theorem rowOfText_eq_ok {text : String} {row : Nat}
    : rowOfText text = .ok row
      ↔ ∃ number, Number.readNat? rowNumberLimit (Text.trimChars text.toList) = some number
        ∧ rowOfNumber number = .ok row := by
  rw [rowOfText]
  cases Number.readNat? rowNumberLimit (Text.trimChars text.toList) <;> simp

theorem rowOfText_lt {text : String} {row : Nat} (read : rowOfText text = .ok row)
    : row < Axis.rows.limit := by
  obtain ⟨number, -, named⟩ := rowOfText_eq_ok.mp read
  exact rowOfNumber_lt named

-----------------------------------------------------------------------------------------
-- One declaration
-----------------------------------------------------------------------------------------

/-- Setting a line declares it, if what is declared nests nothing. -/
theorem declares_of_update {axis : Axis} {read : Except BuildError Nat}
    {step : Sheet → Except BuildError Sheet} {change : Nat → Settings → Settings}
    (lines : Nat → LineDeclarations) (onSheet : ∀ {i}, read = .ok i → i < axis.limit)
    (flat : ∀ i, (lines i).groups = [])
    (steps
      : ∀ {s s'}, step s = .ok s'
          ↔ ∃ i, read = .ok i ∧ s' = s.withLines axis (change i (s.lines axis)))
    (shows
      : ∀ {d m i}, Settings.Shows axis d m → i < axis.limit
          → Settings.Shows axis (d ++ lines i) (change i m))
    : Declares (read >>= fun i => .ok (.along axis (lines i))) step where
  shown {base d s e} lined _ known _ := by
    obtain ⟨i, named, made⟩ := bind_eq_ok.mp known
    cases made
    exact ⟨_, steps.mpr ⟨i, named, rfl⟩, lined.withLines (shows (lined.shows axis) (onSheet named))⟩
  needed {base d s s'} _ shallow done := by
    obtain ⟨i, named, -⟩ := steps.mp done
    refine ⟨.along axis (lines i), bind_eq_ok.mpr ⟨i, named, rfl⟩, shallow.append_along ?_⟩
    rw [LineDeclarations.shallow_append_of_groups (flat i)]
    exact shallow axis

/-- Grouping lines declares a group of them. -/
theorem groupLines_declares {axis : Axis} {g : OutlineGroup} (ordered : g.first ≤ g.last)
    (inside : g.last < axis.limit)
    : Declares (.ok (.along axis { groups := [g] })) (groupLines axis g) where
  shown {base d s e} lined shallow known deeper := by
    cases known
    have nested : (d axis ++ { groups := [g] }).Shallow := by
      rw [← Declarations.append_along_self]
      exact deeper axis
    obtain ⟨m, grouped, shows⟩ := (lined.shows axis).group ordered inside nested
    refine ⟨s.withLines axis m, groupLines_eq_ok.mpr ?_, lined.withLines shows⟩
    rw [group_eq, grouped]
  needed {base d s s'} lined shallow done := by
    refine ⟨_, rfl, shallow.append_along ?_⟩
    by_contra deep
    obtain ⟨m, e, refused⟩ := (lined.shows axis).group_error inside (shallow axis) deep
    rw [groupLines_eq_ok, group_eq, refused] at done
    cases done

variable {s s' : Sheet}

theorem setRowHeight_declares (entry : String × Number.Binary64)
    : Declares (rowHeight entry >>= fun h => .ok (.along .rows { sizes := [h] }))
        (setRowHeight entry) := by
  have steps {s s' : Sheet}
      : setRowHeight entry s = .ok s'
        ↔ ∃ row, rowOfText entry.1 = .ok row ∧ s' = s.withLines .rows ((s.lines .rows).insert row
            { Settings.get (s.lines .rows) row with size := some entry.2 }) := by
    have named
        : setRowHeight entry s = .ok s'
          ↔ ∃ row, rowOfText entry.1 = .ok row ∧ s.setSize .rows row entry.2 = .ok s' := by
      simp only [setRowHeight_eq_ok, rowOfText_eq_ok]
      tauto
    rw [named]
    refine exists_congr fun row => and_congr_right fun read => ?_
    rw [setSize_eq_ok, and_iff_right (rowOfText_lt read)]
  have declares := declares_of_update (fun row => { sizes := [(row, entry.2)] }) rowOfText_lt
    (fun _ => rfl) steps fun shows inside => shows.size inside entry.2
  refine declares.congr ?_
  simp only [rowHeight, bind_assoc]
  rfl

theorem hideRow_declares (number : Nat)
    : Declares (rowOfNumber number >>= fun row => .ok (.along .rows { hidden := [row] }))
        (hideRow number) := by
  refine declares_of_update (fun row => { hidden := [row] }) rowOfNumber_lt (fun _ => rfl) ?_
    fun shows inside => shows.hidden inside
  intro s s'
  rw [hideRow_eq_ok]
  refine exists_congr fun row => and_congr_right fun read => ?_
  rw [setHidden_eq_ok, and_iff_right (rowOfNumber_lt read)]

theorem hideColumn_declares (letters : String)
    : Declares
        (columnOfLetters letters >>= fun column => .ok (.along .columns { hidden := [column] }))
        (hideColumn letters) := by
  refine declares_of_update (fun column => { hidden := [column] }) columnOfLetters_lt
    (fun _ => rfl) ?_ fun shows inside => shows.hidden inside
  intro s s'
  rw [hideColumn_eq_ok]
  refine exists_congr fun column => and_congr_right fun read => ?_
  rw [setHidden_eq_ok, and_iff_right (columnOfLetters_lt read)]

/-- A group between two lines, in whatever order they are given. -/
theorem group_declares {axis : Axis} {first last : Except BuildError Nat} {collapsed : Bool}
    (onSheet : ∀ {i}, first = .ok i ∨ last = .ok i → i < axis.limit)
    : Declares
        ((do return .ofEnds (← first) (← last) collapsed : Except BuildError OutlineGroup)
          >>= fun g => .ok (.along axis { groups := [g] }))
        fun s => (do groupLines axis (.ofEnds (← first) (← last) collapsed) s) := by
  cases first with
  | error e => exact ⟨nofun, nofun⟩
  | ok a =>
      cases last with
      | error e => exact ⟨nofun, nofun⟩
      | ok b =>
          have left : a < axis.limit := onSheet (.inl rfl)
          have right : b < axis.limit := onSheet (.inr rfl)
          have ordered : min a b ≤ max a b := by omega
          exact groupLines_declares ordered (by simp only [OutlineGroup.ofEnds]; omega)

theorem groupRows_declares (g : RowGroupSpec)
    : Declares (rowGroup g >>= fun g => .ok (.along .rows { groups := [g] })) (groupRows g) :=
  group_declares fun read => read.elim rowOfNumber_lt rowOfNumber_lt

theorem groupColumns_declares (g : ColumnGroupSpec)
    : Declares (columnGroup g >>= fun g => .ok (.along .columns { groups := [g] }))
        (groupColumns g) :=
  group_declares fun read => read.elim columnOfLetters_lt columnOfLetters_lt

-----------------------------------------------------------------------------------------
-- All declarations
-----------------------------------------------------------------------------------------

/-- The steps for rows and columns declare what the formatting does. -/
theorem applyLines_declares (f : FormattingSpec) : Declares (declaredLines f) (applyLines f) := by
  have heights := Declares.forEach .rows (fun list => { sizes := list }) rfl
    (fun _ _ => rfl) setRowHeight_declares f.rowHeights
  have hiddenRows := Declares.forEach .rows (fun list => { hidden := list }) rfl
    (fun _ _ => rfl) hideRow_declares f.hiddenRows
  have hiddenColumns := Declares.forEach .columns (fun list => { hidden := list }) rfl
    (fun _ _ => rfl) hideColumn_declares f.hiddenColumns
  have rowGroups := Declares.forEach .rows (fun list => { groups := list }) rfl
    (fun _ _ => rfl) groupRows_declares f.rowGroups
  have columnGroups := Declares.forEach .columns (fun list => { groups := list }) rfl
    (fun _ _ => rfl) groupColumns_declares f.columnGroups
  refine (heights.bind (hiddenRows.bind (hiddenColumns.bind
    (rowGroups.bind columnGroups)))).congr ?_
  have settled {β : Type} (d : Declarations) (next : Declarations → Except BuildError β)
      : (.ok d >>= next) = next d := rfl
  simp only [declaredLines, bind_assoc, settled]
  refine bind_congr fun heights => bind_congr fun hiddenRows => bind_congr fun hiddenColumns =>
    bind_congr fun rowGroups => bind_congr fun columnGroups => ?_
  refine congrArg Except.ok (funext fun axis => ?_)
  cases axis
  · simp [Declarations.append_apply, Declarations.along, LineDeclarations.append_eq,
      Declarations.both]
  · simp [Declarations.append_apply, Declarations.along, LineDeclarations.append_eq,
      Declarations.both]

end Build

end Spreadsheet
