import Spreadsheet.Package.Reader
import Spreadsheet.Proofs.Cell.AddressBounds

/-! A sheet that is read keeps the name under which that began, and no failure on the way is about
a name.
-/

namespace Spreadsheet

open Spreadsheet.Cell Spreadsheet.Sheet

-----------------------------------------------------------------------------------------
-- How computations end
-----------------------------------------------------------------------------------------

/-- The computation has a result of one kind or a failure of another. -/
inductive Ends (good : α → Prop) (bad : ε → Prop) : Except ε α → Prop where
  | ok {a : α} (holds : good a) : Ends good bad (.ok a)
  | error {e : ε} (holds : bad e) : Ends good bad (.error e)

namespace Ends

variable {good : α → Prop} {good' : β → Prop} {bad : ε → Prop} {x : Except ε α}

theorem map {f : α → β} (ends : Ends good bad x) (told : ∀ a, good a → good' (f a))
    : Ends good' bad (x.map f) := by
  cases ends with
  | ok holds => exact .ok (told _ holds)
  | error holds => exact .error holds

theorem bind {f : α → Except ε β} (first : Ends good bad x)
    (second : ∀ a, good a → Ends good' bad (f a))
    : Ends good' bad (x >>= f) := by
  cases first with
  | ok holds => exact second _ holds
  | error holds => exact .error holds

/-- Any computation ends somehow. -/
theorem somehow (x : Except ε α) : Ends (fun _ => True) (fun _ => True) x := by
  cases x with
  | ok a => exact .ok trivial
  | error e => exact .error trivial

theorem mono {good' : α → Prop} (ends : Ends good bad x) (weaker : ∀ a, good a → good' a)
    : Ends good' bad x := by
  cases ends with
  | ok holds => exact .ok (weaker _ holds)
  | error holds => exact .error holds

/-- Other words for a failure have to be of their own kind. -/
theorem mapError {bad' : ε' → Prop} {f : ε → ε'} (ends : Ends good bad x)
    (told : ∀ e, bad e → bad' (f e))
    : Ends good bad' (x.mapError f) := by
  cases ends with
  | ok holds => exact .ok holds
  | error holds => exact .error (told _ holds)

/-- A run of steps ends as each of them does, by induction on the run. -/
theorem foldlM {step : α → β → Except ε α} (each : ∀ a b, good a → Ends good bad (step a b))
    {start : α} (begun : good start) (items : List β)
    : Ends good bad (items.foldlM step start) := by
  induction items generalizing start with
  | nil => exact .ok begun
  | cons item rest ih =>
      rw [List.foldlM_cons]
      exact (each start item begun).bind fun _ reached => ih reached

end Ends

-----------------------------------------------------------------------------------------
-- Sheets
-----------------------------------------------------------------------------------------

/-- The failure is about the name of a sheet. -/
def ModelError.IsOfName : ModelError → Prop
  | .sheetName _ | .duplicateSheetName _ => True
  | .address _ | .range _ | .mergeConflict _ | .outlineTooDeep _ | .other _ | .overflow => False

/-- A name that is refused is refused as one. -/
theorem Workbook.checkNewName_ends (w : Workbook) (name : String)
    : Ends (fun _ => True) ModelError.IsOfName (w.checkNewName name) := by
  refine ((Ends.somehow _).mapError fun _ _ => trivial).bind fun _ _ => ?_
  split
  · exact .error trivial
  · exact .ok trivial

namespace Sheet

/-- A change of a sheet leaves its name, or fails for another reason. -/
abbrev KeepsName (s : Sheet) : Except ModelError Sheet → Prop :=
  Ends (·.name = s.name) (¬ ·.IsOfName)

variable {s : Sheet} {f : Sheet → Except ModelError Sheet} {result : Except ModelError Sheet}

theorem KeepsName.bind (first : s.KeepsName result) (second : ∀ s' : Sheet, s'.KeepsName (f s'))
    : s.KeepsName (result >>= f) :=
  Ends.bind first fun s' same => (second s').mono fun _ same' => same'.trans same

theorem setValue_keepsName (row column : Nat) (value : Value)
    : s.KeepsName (s.setValue row column value) :=
  ((Ends.somehow _).mapError fun _ _ => id).bind fun _ _ => .ok rfl

theorem setStyle_keepsName (row column : Nat) (style : Style)
    : s.KeepsName (s.setStyle row column style) :=
  ((Ends.somehow _).mapError fun _ _ => id).bind fun _ _ => .ok rfl

/-- A change of settings leaves the name, if no failure of it is about one. -/
theorem onLines_keepsName {axis : Axis} {change : Settings → Except ModelError Settings}
    (ends : ∀ m, Ends (fun _ => True) (¬ ·.IsOfName) (change m))
    : s.KeepsName (s.onLines axis change) := by
  cases axis with
  | rows => exact (ends s.rows).map fun _ _ => rfl
  | columns => exact (ends s.columns).map fun _ _ => rfl

theorem Settings.update_ends (axis : Axis) (i : Nat) (f : Setting → Setting) (m : Settings)
    : Ends (fun _ => True) (¬ ·.IsOfName) (update axis i f m) := by
  rw [update]
  rcases Nat.lt_or_ge i axis.limit with inside | outside
  · rw [if_neg (Nat.not_le.mpr inside)]
    exact .ok trivial
  · rw [if_pos outside]
    cases axis <;> exact .error id

theorem Settings.setOutline_ends (axis : Axis) (i level : Nat) (m : Settings)
    : Ends (fun _ => True) (¬ ·.IsOfName) (setOutline axis i level m) := by
  rw [setOutline]
  split
  · exact .error id
  · exact update_ends axis i _ m

theorem merge_keepsName (range : Range) : s.KeepsName (s.merge range) := by
  rw [merge]
  split
  · refine .error ?_
    split <;> exact id
  · exact .ok rfl

end Sheet

-----------------------------------------------------------------------------------------
-- Reading
-----------------------------------------------------------------------------------------

namespace Package

/-- The failure is about the name of a sheet. -/
def ReadError.IsOfName : ReadError → Prop
  | .model cause => cause.IsOfName
  | .noFile | .notArchive | .malformed | .noContentTypes | .missingPart _ | .missingSheet _
  | .cellWithoutReference | .badStringNumber _ | .missingString _ | .badNumber _
  | .unreadable _ => False

namespace SheetReading

variable {shared : Shared} {sheet : Sheet}

theorem ifGiven_keepsName {a : Option α} {change : α → Sheet → Except ModelError Sheet}
    (kept : ∀ a, sheet.KeepsName (change a sheet))
    : sheet.KeepsName (ifGiven a change sheet) := by
  cases a with
  | none => exact .ok rfl
  | some a => exact kept a

theorem applyLine_keepsName (axis : Axis) (r : LineReading) (i : Nat)
    : sheet.KeepsName (applyLine axis r i sheet) := by
  have sized : ∀ s : Sheet, s.KeepsName (ifGiven r.size (fun size s => s.setSize axis i size) s) :=
    fun s => ifGiven_keepsName fun size => onLines_keepsName fun m => m.update_ends axis i _
  have outlined : ∀ s : Sheet,
      s.KeepsName (ifGiven r.level (fun level s => s.setOutline axis i level) s) :=
    fun s => ifGiven_keepsName fun level =>
      onLines_keepsName fun m => m.setOutline_ends axis i level
  refine .bind (sized sheet) fun s => ?_
  split
  · exact .bind (onLines_keepsName fun m => m.update_ends axis i _) outlined
  · exact outlined s

theorem applyRow_keepsName (tag : Xml.Tag) : sheet.KeepsName (applyRow tag sheet) := by
  rw [applyRow]
  split
  · exact .ok rfl
  · exact .ok rfl
  · exact applyLine_keepsName _ _ _

/-- A run of columns, by induction on its length. -/
theorem applyColumns_keepsName (r : LineReading) (count column : Nat)
    : sheet.KeepsName (applyColumns r count column sheet) := by
  induction count generalizing column sheet with
  | zero => exact .ok rfl
  | succ count ih => exact .bind (applyLine_keepsName .columns r column) fun _ => ih _

theorem applyColumnSpan_keepsName (tag : Xml.Tag)
    : sheet.KeepsName (applyColumnSpan tag sheet) := by
  rw [applyColumnSpan]
  split
  · exact applyColumns_keepsName _ _ _
  · exact .ok rfl

theorem applyMerge_keepsName (text : String) : sheet.KeepsName (applyMerge text sheet) :=
  ((Ends.somehow _).mapError fun _ _ => id).bind fun range _ => merge_keepsName range

theorem applyFilter_keepsName (text : String) : sheet.KeepsName (applyFilter text sheet) :=
  ((Ends.somehow _).mapError fun _ _ => id).bind fun _ _ => .ok rfl

theorem applyStyle_keepsName (head : CellHead)
    : sheet.KeepsName (applyStyle shared head sheet) := by
  rw [applyStyle]
  split
  · exact .ok rfl
  · exact ifGiven_keepsName fun style => setStyle_keepsName _ _ style

theorem onModel_ends {good : α → Prop} {result : Except ModelError α}
    (ends : Ends good (¬ ·.IsOfName) result)
    : Ends good (¬ ·.IsOfName) (onModel result) :=
  ends.mapError fun _ other => other

/-- A step leaves the name of the sheet, or fails for another reason. -/
abbrev KeepsName (s : SheetReading) : Except ReadError SheetReading → Prop :=
  Ends (·.sheet.name = s.sheet.name) (¬ ·.IsOfName)

variable {s : SheetReading}

theorem onSheet_keepsName {change : Sheet → Except ModelError Sheet}
    (kept : ∀ sheet : Sheet, sheet.KeepsName (change sheet))
    : s.KeepsName (s.onSheet change) :=
  Ends.bind (onModel_ends (kept s.sheet)) fun _ same => .ok same

theorem cellHead_ends (tag : Xml.Tag) : Ends (fun _ => True) (¬ ·.IsOfName) (cellHead tag) := by
  rw [cellHead]
  split
  · exact .error id
  · next text _ =>
      have parsed : Ends (fun _ => True) (¬ ·.IsOfName) (ModelError.parseAddress text) :=
        (Ends.somehow _).mapError fun _ _ => id
      exact (onModel_ends parsed).bind fun _ _ => .ok trivial

theorem known_ends (text : Option String)
    : Ends (fun _ => True) (¬ ·.IsOfName) (known text) := by
  cases text with
  | none => exact .error id
  | some text => exact .ok trivial

theorem rawValue_ends (kind : Option String) (raw : String)
    : Ends (fun _ => True) (¬ ·.IsOfName) (rawValue shared kind raw) := by
  unfold rawValue
  split
  · rw [sharedText]
    split
    · exact .error id
    · split
      · exact .error id
      · exact .ok trivial
  · exact .ok trivial
  · exact .ok trivial
  · exact .ok trivial
  · split
    · exact .ok trivial
    · exact .error id

theorem cellValue_ends (kind value formula : Option String)
    : Ends (fun _ => True) (¬ ·.IsOfName) (cellValue shared kind value formula) := by
  unfold cellValue
  split
  · exact .ok trivial
  · exact rawValue_ends _ _
  · exact .ok trivial

theorem start_keepsName (tag : Xml.Tag) : s.KeepsName (s.start tag) := by
  unfold start
  split
  · exact onSheet_keepsName fun _ => applyRow_keepsName tag
  · exact (cellHead_ends tag).bind fun _ _ => .ok rfl
  · exact .ok rfl
  · exact .ok rfl
  · refine .ok ?_
    split <;> rfl
  · exact .ok rfl

theorem empty_keepsName (tag : Xml.Tag) : s.KeepsName (s.empty shared tag) := by
  unfold SheetReading.empty
  split
  · exact onSheet_keepsName fun _ => applyRow_keepsName tag
  · exact (cellHead_ends tag).bind fun head _ => onSheet_keepsName fun _ =>
      applyStyle_keepsName head
  · exact onSheet_keepsName fun _ => applyColumnSpan_keepsName tag
  · refine .ok ?_
    change (applyPane tag s.sheet).name = _
    rw [applyPane]
    split <;> rfl
  · exact onSheet_keepsName fun _ => ifGiven_keepsName applyMerge_keepsName
  · exact onSheet_keepsName fun _ => ifGiven_keepsName applyFilter_keepsName
  · exact .ok rfl

theorem text_keepsName (content : Option String) : s.KeepsName (s.text content) := by
  unfold SheetReading.text
  split
  · exact .ok rfl
  · exact (known_ends content).bind fun _ _ => .ok rfl
  · exact (known_ends content).bind fun _ _ => .ok rfl

theorem close_keepsName (name : String) : s.KeepsName (s.close shared name) := by
  unfold SheetReading.close
  split
  · exact .ok rfl
  · exact .ok rfl
  · exact .ok rfl
  · split
    · exact .ok rfl
    · next head _ =>
        refine (cellValue_ends _ _ _).bind fun value _ => Ends.bind
          (onSheet_keepsName fun _ => setValue_keepsName _ _ value) fun s' same => ?_
        exact (onSheet_keepsName fun _ => applyStyle_keepsName head).mono
          fun _ same' => same'.trans same
  · exact .ok rfl

theorem step_keepsName (s : SheetReading) (event : Xml.Event)
    : s.KeepsName (step shared s event) := by
  cases event with
  | start tag => exact start_keepsName tag
  | empty tag => exact empty_keepsName tag
  | text content => exact text_keepsName content
  | close name => exact close_keepsName name

end SheetReading

/-- Whatever is read, a sheet that comes of it has the name under which that began, and a failure
is not about a name.
-/
theorem readSheet_ends (p : Package) (shared : Shared) (part name : String)
    : Ends (·.name = name) (¬ ·.IsOfName) (readSheet p shared part name) := by
  have folded : ∀ content, Ends (·.sheet.name = name) (¬ ·.IsOfName)
      (foldEvents (SheetReading.step shared) { sheet := { name } } content) := by
    intro content
    rw [foldEvents]
    have each : ∀ (s : SheetReading) event, s.sheet.name = name
        → Ends (·.sheet.name = name) (¬ ·.IsOfName) (SheetReading.step shared s event) :=
      fun s event same => (SheetReading.step_keepsName s event).mono fun _ same' => same'.trans same
    refine (Ends.foldlM each rfl _).bind fun s same => ?_
    · split
      · exact .error id
      · exact .ok same
  rw [readSheet, foldPart]
  refine Ends.bind ?_ fun s same => .ok same
  split
  · exact .error id
  · exact folded _

end Package

end Spreadsheet
