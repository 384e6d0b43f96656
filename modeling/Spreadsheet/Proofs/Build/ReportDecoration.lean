import Spreadsheet.Proofs.Build.BuiltTable

/-! A report is the table of its sheet with stripes, moved down below the title if there is one.
-/

namespace Spreadsheet

open Spreadsheet.Cell Spreadsheet.Sheet

-----------------------------------------------------------------------------------------
-- Moving down
-----------------------------------------------------------------------------------------

/-- The address `k` rows further down. -/
def Cell.Address.down (k : Nat) (a : Address) : Address := ⟨a.row + k, a.column⟩

/-- The range `k` rows further down. -/
def Cell.Range.down (k : Nat) (r : Range) : Range := ⟨r.topLeft.down k, r.bottomRight.down k⟩

def Sheet.Anchor.down (k : Nat) (a : Anchor) : Anchor := ⟨a.topLeft.down k, a.bottomRight.down k⟩

/-- A split that keeps rows in view keeps `k` more of them; one that keeps only columns stays. -/
def Sheet.Freeze.down (k : Nat) (f : Freeze) : Freeze :=
  { f with rows := if 0 < f.rows then f.rows + k else 0 }

section Down

variable {k : Nat}

theorem shiftRow_eq_add (k row : Nat) : shiftRow 0 k row = row + k := if_pos (Nat.zero_le row)

theorem Address.shiftRows_eq_down (k : Nat) (a : Address) : a.shiftRows 0 k = a.down k := by
  rw [Address.shiftRows, shiftRow_eq_add]
  rfl

theorem Range.shiftRows_eq_down (k : Nat) (r : Range) : r.shiftRows 0 k = r.down k := by
  rw [Range.shiftRows, Address.shiftRows_eq_down, Address.shiftRows_eq_down]
  rfl

theorem map_shiftRows_eq_down (k : Nat) (ranges : List Range)
    : ranges.map (·.shiftRows 0 k) = ranges.map (·.down k) :=
  List.map_congr_left fun range _ => Range.shiftRows_eq_down k range

theorem Anchor.shiftRows_eq_down (k : Nat) (a : Anchor) : a.shiftRows 0 k = a.down k := by
  rw [Anchor.shiftRows, Address.shiftRows_eq_down, Address.shiftRows_eq_down]
  rfl

theorem Freeze.shiftRows_eq_down (k : Nat) (f : Freeze) : f.shiftRows 0 k = f.down k := by
  simp only [Freeze.shiftRows, Freeze.down]
  split
  · rfl
  · next none => rw [Nat.eq_zero_of_not_pos none]

end Down

/-- Everything but the cells and the merged ranges has moved down from the first sheet to the
second.
-/
structure Sheet.RestDown (k : Nat) (s t : Sheet) : Prop where
  name : t.name = s.name
  rows : ∀ row, t.rows[row + k]? = s.rows[row]?
  rowsAbove : ∀ row, row < k → t.rows[row]? = none
  columns : t.columns = s.columns
  freeze : t.freeze = s.freeze.map (·.down k)
  filter : t.filter = s.filter.map (·.down k)
  page : t.page = s.page
  headerFooter : t.headerFooter = s.headerFooter
  protection : t.protection = s.protection
  rules : t.rules = s.rules.map fun r => { r with ranges := r.ranges.map (·.down k) }
  validations
    : t.validations = s.validations.map fun v => { v with ranges := v.ranges.map (·.down k) }
  charts : t.charts = s.charts.map fun c => { c with anchor := c.anchor.down k }
  pictures : t.pictures = s.pictures.map fun p => { p with anchor := p.anchor.down k }

namespace Sheet.RestDown

variable {k : Nat} {s s' t t' : Sheet}

/-- By no rows nothing moves. -/
theorem zero (s : Sheet) : RestDown 0 s s where
  name := rfl
  rows _ := rfl
  rowsAbove _ none := absurd none (Nat.not_lt_zero _)
  columns := rfl
  freeze := by
    have same (f : Freeze) : f.down 0 = f := by
      simp only [Freeze.down]
      split
      · rfl
      · next none => rw [← Nat.eq_zero_of_not_pos none]
    simp [same]
  filter := by simp [Range.down, Address.down]
  page := rfl
  headerFooter := rfl
  protection := rfl
  rules := by simp [Range.down, Address.down]
  validations := by simp [Range.down, Address.down]
  charts := by simp [Anchor.down, Address.down]
  pictures := by simp [Anchor.down, Address.down]

/-- Cells and merged ranges do not matter to the rest. -/
theorem congr (down : RestDown k s t)
    (source : s' = { s with cells := s'.cells, merged := s'.merged })
    (target : t' = { t with cells := t'.cells, merged := t'.merged })
    : RestDown k s' t' := by
  rw [source, target]
  exact { down with }

/-- Rows put in at the top move everything down. -/
theorem of_shiftRows (k : Nat) (s : Sheet) : RestDown k s (s.shiftRows 0 k) where
  name := rfl
  rows row := by
    rw [Sheet.shiftRows, Numbered.getElem?_shiftRows, if_neg (Nat.not_lt_zero _),
      if_neg (by omega), Nat.add_sub_cancel]
  rowsAbove row above := by
    rw [Sheet.shiftRows, Numbered.getElem?_shiftRows, if_neg (Nat.not_lt_zero _),
      if_pos (by omega)]
  columns := rfl
  freeze := Option.map_congr fun f _ => Freeze.shiftRows_eq_down k f
  filter := Option.map_congr fun r _ => Range.shiftRows_eq_down k r
  page := rfl
  headerFooter := rfl
  protection := rfl
  rules := List.map_congr_left fun r _ => by rw [Rule.shiftRows, map_shiftRows_eq_down]
  validations := List.map_congr_left fun v _ => by rw [Validation.shiftRows, map_shiftRows_eq_down]
  charts := List.map_congr_left fun c _ => by rw [Chart.shiftRows, Anchor.shiftRows_eq_down]
  pictures := List.map_congr_left fun p _ => by rw [Picture.shiftRows, Anchor.shiftRows_eq_down]

end Sheet.RestDown

-----------------------------------------------------------------------------------------
-- Cells moving down
-----------------------------------------------------------------------------------------

section Cells

variable {k : Nat} {s : Sheet}

theorem value_shiftRows_zero (row i : Nat)
    : (s.shiftRows 0 k).value row i = if row < k then .empty else s.value (row - k) i := by
  simp only [Sheet.shiftRows, Sheet.value, Grid.value_eq, Grid.cell_shiftRows, Nat.not_lt_zero,
    if_false, Nat.zero_add]
  split <;> rfl

theorem style_shiftRows_zero (sound : s.cells.Sound) (row i : Nat)
    : (s.shiftRows 0 k).style row i = if row < k then {} else s.style (row - k) i := by
  simp only [Sheet.shiftRows, Sheet.style, Grid.style_eq, Grid.cell_shiftRows, Nat.not_lt_zero,
    if_false, Nat.zero_add]
  split
  · exact sound.default
  · rfl

end Cells

namespace Build

open Spreadsheet.Request Spreadsheet.Style

variable {spec : SheetSpec} {s s' t t' : Sheet} {row i : Nat}

-----------------------------------------------------------------------------------------
-- Stripes
-----------------------------------------------------------------------------------------

/-- The position is one of a data row that is striped, under a declared column, and the table has
no fill there. Data rows are striped in turns, beginning with the first.
-/
def isStriped (spec : SheetSpec) (s : Sheet) (row i : Nat) : Bool :=
  row % 2 == 1 && row ≤ spec.data.length && i < spec.columns.length &&
    (s.style row i).fill == .none

/-- A style with the fill of stripes. -/
def withStripe (style : Style) : Style := { style with fill := .solid stripeColor }

/-- Up to a position in reading order the second sheet has the stripes of the first one. -/
structure StripedTo (spec : SheetSpec) (s : Sheet) (row i : Nat) (t : Sheet) : Prop where
  rest : t = { s with cells := t.cells }
  sound : t.cells.Sound
  inBounds : s.AllInBounds → t.AllInBounds
  value : ∀ r c, t.value r c = s.value r c
  style
    : ∀ r c, t.style r c
        = if isStriped spec s r c ∧ (r < row ∨ r = row ∧ c < i) then withStripe (s.style r c)
          else s.style r c

namespace StripedTo

theorem start (spec : SheetSpec) (sound : s.cells.Sound) : StripedTo spec s 1 0 s where
  rest := rfl
  sound := sound
  inBounds := id
  value _ _ := rfl
  style r c := by
    rw [if_neg]
    rintro ⟨striped, before⟩
    simp only [isStriped, Bool.and_eq_true, beq_iff_eq] at striped
    omega

/-- Positions without a stripe do not matter to how far the stripes go. -/
theorem skip {row' i' : Nat} (striped : StripedTo spec s row i t)
    (same : ∀ r c, isStriped spec s r c
      → ((r < row' ∨ r = row' ∧ c < i') ↔ (r < row ∨ r = row ∧ c < i)))
    : StripedTo spec s row' i' t where
  rest := striped.rest
  sound := striped.sound
  inBounds := striped.inBounds
  value := striped.value
  style r c := by
    rw [striped.style]
    by_cases stripe : isStriped spec s r c
    · simp only [stripe, true_and, same r c stripe]
    · simp only [stripe, false_and, if_false, Bool.false_eq_true]

end StripedTo

theorem fill_isNone_iff (f : Fill) : f.isNone = (f == .none) := by
  cases f <;> rfl

theorem stripeCell_eq_ok
    : stripeCell row i s = .ok s'
      ↔ i < maxColumns
        ∧ if (s.style row i).fill.isNone then s.updateStyle row i withStripe = .ok s'
          else s' = s := by
  simp only [stripeCell, bind_eq_ok, columnAt_eq_ok, and_assoc, exists_and_left, exists_eq_left]
  refine and_congr_right fun _ => ?_
  split
  · exact onModel_eq_ok
  · simp [pure, Except.pure, eq_comm]

/-- One cell of a striped row gets its stripe unless it has a fill. -/
theorem stripeCell_stripedTo (odd : row % 2 = 1) (data : row ≤ spec.data.length)
    (column : i < spec.columns.length) (done : stripeCell row i t = .ok t')
    (striped : StripedTo spec s row i t)
    : StripedTo spec s row (i + 1) t' := by
  have unstriped : t.style row i = s.style row i := by
    rw [striped.style, if_neg]
    rintro ⟨-, before⟩
    omega
  have stripe : isStriped spec s row i = (s.style row i).fill.isNone := by
    simp [isStriped, odd, data, column, fill_isNone_iff]
  have w : Writes row i (t.value row i)
      (if isStriped spec s row i then withStripe (s.style row i) else s.style row i) t t' := by
    obtain ⟨-, stepped⟩ := stripeCell_eq_ok.mp done
    rw [stripe, ← unstriped]
    split at stepped
    · next noFill =>
        rw [if_pos noFill]
        exact .of_setStyle striped.sound stepped
    · next filled =>
        subst stepped
        rw [if_neg filled]
        exact .refl striped.sound row i
  exact {
    rest := by rw [w.rest, striped.rest]
    sound := w.sound
    inBounds := w.allInBounds ∘ striped.inBounds
    value := fun r c => by
      rw [w.value, ← striped.value]
      split
      · next here => rw [here.1, here.2]
      · rfl
    style := fun r c => by
      rw [w.style]
      split
      · next here =>
          obtain ⟨rfl, rfl⟩ := here
          simp
      · next other =>
          rw [striped.style]
          have same : (r < row ∨ r = row ∧ c < i + 1) ↔ (r < row ∨ r = row ∧ c < i) := by omega
          simp only [same]
  }

/-- A data row is striped if its number from zero is even, and else it has no stripes at all. -/
theorem stripeRow_stripedTo {j : Nat} (data : j < spec.data.length)
    (done : stripeRow spec.columns.length j t = .ok t') (striped : StripedTo spec s (j + 1) 0 t)
    : StripedTo spec s (j + 1 + 1) 0 t' := by
  simp only [stripeRow] at done
  split at done
  · next even =>
      obtain ⟨row, found, looped⟩ := bind_eq_ok.mp done
      obtain ⟨-, rfl⟩ := dataRowAt_eq_ok.mp found
      have odd : (j + 1) % 2 = 1 := by omega
      have wholeRow : StripedTo spec s (j + 1) spec.columns.length t' :=
        forEach_range_invariant (motive := StripedTo spec s (j + 1))
          (fun _ column _ _ => stripeCell_stripedTo odd data column) looped striped
      refine wholeRow.skip fun r c stripe => ?_
      simp only [isStriped, Bool.and_eq_true, decide_eq_true_eq] at stripe
      omega
  · next odd =>
      cases done
      refine striped.skip fun r c stripe => ?_
      simp only [isStriped, Bool.and_eq_true, beq_iff_eq] at stripe
      omega

theorem stripeRows_stripedTo (sound : s.cells.Sound) (done : stripeRows spec s = .ok t)
    : StripedTo spec s (spec.data.length + 1) 0 t :=
  forEach_range_invariant (motive := fun j => StripedTo spec s (j + 1) 0)
    (fun _ data _ _ => stripeRow_stripedTo data) done (.start spec sound)

/-- When all rows are done, every stripe is there. -/
theorem StripedTo.style_eq (striped : StripedTo spec s (spec.data.length + 1) 0 t) (r c : Nat)
    : t.style r c
      = if isStriped spec s r c then withStripe (s.style r c) else s.style r c := by
  rw [striped.style]
  have before (stripe : isStriped spec s r c)
      : r < spec.data.length + 1 ∨ r = spec.data.length + 1 ∧ c < 0 := by
    simp only [isStriped, Bool.and_eq_true, decide_eq_true_eq] at stripe
    omega
  by_cases stripe : isStriped spec s r c
  · simp only [stripe, before stripe, and_self, if_true]
  · simp only [stripe, false_and, Bool.false_eq_true]

-----------------------------------------------------------------------------------------
-- The title
-----------------------------------------------------------------------------------------

/-- The ranges of the title and of the day below it: all columns, if there are several. -/
def titleRanges (spec : SheetSpec) : List Range :=
  if spec.columns.length < 2 then []
  else
    [⟨⟨0, 0⟩, ⟨0, spec.columns.length - 1⟩⟩, ⟨⟨1, 0⟩, ⟨1, spec.columns.length - 1⟩⟩]

/-- What a title block shows: the title, the day below it, and nothing else. -/
def titleValue (today : Time.Date) (title : String) (row i : Nat) : Value :=
  if row = 0 ∧ i = 0 then .text title
  else if row = 1 ∧ i = 0 then .text ("Generated: " ++ today.slashed)
  else .empty

/-- The second sheet is the first one with a title written into the rows at its top. -/
structure TitledOver (today : Time.Date) (spec : SheetSpec) (title : String) (s t : Sheet)
    : Prop where
  rest : t = { s with cells := t.cells, merged := t.merged }
  merged : t.merged = s.merged ++ titleRanges spec
  onSheet : RangesOnSheet (titleRanges spec)
  inBounds : s.cells.InBounds → t.cells.InBounds
  value
    : ∀ r c, t.value r c
        = if (r = 0 ∨ r = 1) ∧ c = 0 then titleValue today title r c else s.value r c
  style : ∀ r c, t.style r c = if r = 0 ∧ c = 0 then titleStyle else s.style r c

/-- The ranges of a title are merged one after the other, if there are several columns. -/
def MergesTitle (spec : SheetSpec) (s t : Sheet) : Prop :=
  if spec.columns.length < 2 then t = s
  else
    spec.columns.length - 1 < maxColumns
      ∧ ∃ u, s.merge (.ofCorners ⟨0, 0⟩ ⟨0, spec.columns.length - 1⟩) = .ok u
        ∧ u.merge (.ofCorners ⟨1, 0⟩ ⟨1, spec.columns.length - 1⟩) = .ok t

/-- The title and the day are written and merged when the rows for them have been put in. -/
theorem exists_of_writeTitle {today : Time.Date} {title : String}
    (done : writeTitle today spec title s = .ok t)
    : s.insertRows 0 titleRows = .ok (s.shiftRows 0 titleRows)
      ∧ ∃ titled, (s.shiftRows 0 titleRows).setValue 0 0 (.text title) = .ok titled
        ∧ ∃ styled, titled.setStyle 0 0 titleStyle = .ok styled
        ∧ ∃ dated, styled.setValue 1 0 (.text ("Generated: " ++ today.slashed)) = .ok dated
        ∧ MergesTitle spec dated t := by
  obtain ⟨shifted, inserted, done⟩ := bind_eq_ok.mp done
  obtain ⟨titled, titling, done⟩ := bind_eq_ok.mp done
  obtain ⟨styled, styling, done⟩ := bind_eq_ok.mp done
  obtain ⟨dated, dating, merging⟩ := bind_eq_ok.mp done
  have inserted := onModel_eq_ok.mp inserted
  obtain ⟨⟨⟩, -⟩ | ⟨-, rfl⟩ := insertRows_cases inserted
  refine ⟨inserted, titled, onModel_eq_ok.mp titling, styled, onModel_eq_ok.mp styling, dated,
    onModel_eq_ok.mp dating, ?_⟩
  rw [MergesTitle]
  split at merging
  · next narrow =>
      cases merging
      rw [if_pos narrow]
  · next wide =>
      obtain ⟨last, found, merging⟩ := bind_eq_ok.mp merging
      obtain ⟨u, first, second⟩ := bind_eq_ok.mp merging
      obtain ⟨inside, rfl⟩ := columnAt_eq_ok.mp found
      rw [if_neg wide]
      exact ⟨inside, u, onModel_eq_ok.mp first, onModel_eq_ok.mp second⟩

theorem MergesTitle.eq (merges : MergesTitle spec s t)
    : RangesOnSheet (titleRanges spec) ∧ t = { s with merged := s.merged ++ titleRanges spec } := by
  simp only [MergesTitle] at merges
  simp only [titleRanges]
  split at merges
  · next narrow =>
      subst merges
      rw [if_pos narrow, List.append_nil]
      exact ⟨fun range member => absurd member List.not_mem_nil, rfl⟩
  · next wide =>
      obtain ⟨inside, u, first, second⟩ := merges
      obtain ⟨-, rfl⟩ := merge_eq_ok.mp first
      obtain ⟨-, rfl⟩ := merge_eq_ok.mp second
      rw [if_neg wide]
      refine ⟨fun range member => ?_, by simp [Range.ofCorners]⟩
      have left : 0 < maxColumns := Nat.zero_lt_of_lt inside
      have first : 0 < maxRows := by decide
      have second : 1 < maxRows := by decide
      rcases List.mem_pair.mp member with rfl | rfl
      · exact ⟨⟨first, left⟩, ⟨first, inside⟩⟩
      · exact ⟨⟨second, left⟩, ⟨second, inside⟩⟩

/-- The title and the day are written and merged one after the other. -/
theorem writeTitle_titledOver {today : Time.Date} {title : String}
    (sound : s.cells.Sound) (done : writeTitle today spec title s = .ok t)
    : TitledOver today spec title (s.shiftRows 0 titleRows) t := by
  obtain ⟨-, s₂, titled, s₃, styled, s₄, dated, merges⟩ := exists_of_writeTitle done
  obtain ⟨onSheet, merged⟩ := merges.eq
  rw [merged]
  have w₂ := Writes.of_setValue (sound.shiftRows 0 titleRows) titled
  have w₃ := w₂.trans (.of_setStyle w₂.sound styled)
  have w₄ := Writes.of_setValue w₃.sound dated
  rw [w₂.value_self] at w₃
  have rest : s₄ = { s.shiftRows 0 titleRows with cells := s₄.cells } := by rw [w₄.rest, w₃.rest]
  refine ⟨by rw [rest], by rw [rest], onSheet, w₄.inBounds ∘ w₃.inBounds, fun r c => ?_,
    fun r c => ?_⟩
  · change s₄.value r c = _
    rw [w₄.value, w₃.value, titleValue]
    split
    · next here =>
        obtain ⟨rfl, rfl⟩ := here
        simp
    · next notDay =>
        split
        · next here =>
            obtain ⟨rfl, rfl⟩ := here
            simp
        · next notTitle =>
            rw [if_neg]
            omega
  · change s₄.style r c = _
    rw [w₄.style]
    split
    · next here =>
        obtain ⟨rfl, rfl⟩ := here
        rw [w₃.style]
        simp
    · simp only [w₃.style, eq_comm (a := r), eq_comm (a := c)]

-----------------------------------------------------------------------------------------
-- Reports
-----------------------------------------------------------------------------------------

/-- The number of rows above the table: three with a title in the metadata, else none. -/
def rowsAbove (spec : SheetSpec) : Nat := if spec.title?.isSome then 3 else 0

/-- The second sheet is the report that is made of the first one, the table of its sheet. All of
the table has moved down by the rows above it and has stripes; the rows above show the title.
-/
structure IsReport (today : Time.Date) (spec : SheetSpec) (s r : Sheet) : Prop
    extends Sheet.RestDown (Build.rowsAbove spec) s r where
  value : ∀ row i, r.value (row + Build.rowsAbove spec) i = s.value row i
  style
    : ∀ row i, r.style (row + Build.rowsAbove spec) i
        = if isStriped spec s row i then withStripe (s.style row i) else s.style row i
  valueAbove
    : ∀ title, spec.title? = some title → ∀ row i, row < 3
        → r.value row i = titleValue today title row i
  styleAbove
    : ∀ title, spec.title? = some title → ∀ row i, row < 3
        → r.style row i = if row = 0 ∧ i = 0 then titleStyle else {}
  merged
    : r.merged = s.merged.map (·.down (Build.rowsAbove spec))
        ++ if spec.title?.isSome then titleRanges spec else []

theorem StripedTo.isReport {today : Time.Date} {r : Sheet} (untitled : spec.title? = none)
    (striped : StripedTo spec s (spec.data.length + 1) 0 r)
    : IsReport today spec s r := by
  have none : Build.rowsAbove spec = 0 := by rw [Build.rowsAbove, untitled]; rfl
  refine {
    toRestDown := ?_
    value := fun row i => ?_
    style := fun row i => ?_
    valueAbove := fun title titled => ?_
    styleAbove := fun title titled => ?_
    merged := ?_
  }
  · rw [none]
    exact (RestDown.zero s).congr rfl (by rw [striped.rest])
  · rw [none, Nat.add_zero]
    exact striped.value row i
  · rw [none, Nat.add_zero]
    exact striped.style_eq row i
  · rw [untitled] at titled
    cases titled
  · rw [untitled] at titled
    cases titled
  · rw [none, untitled, striped.rest]
    simp [Range.down, Address.down]

/-- A title above a striped table makes a report: the table moves down as a whole, and only the
rows above it are written to.
-/
theorem TitledOver.isReport {today : Time.Date} {title : String} {t r : Sheet}
    (titled : spec.title? = some title)
    (striped : StripedTo spec s (spec.data.length + 1) 0 t)
    (headed : TitledOver today spec title (t.shiftRows 0 titleRows) r)
    : IsReport today spec s r := by
  have height : Build.rowsAbove spec = titleRows := by rw [Build.rowsAbove, titled]; rfl
  have value := value_shiftRows_zero (s := t) (k := titleRows)
  have style := style_shiftRows_zero (k := titleRows) striped.sound
  refine {
    toRestDown := ?_
    value := fun row i => ?_
    style := fun row i => ?_
    valueAbove := fun title' titled' row i (above : row < titleRows) => ?_
    styleAbove := fun title' titled' row i (above : row < titleRows) => ?_
    merged := ?_
  }
  · rw [height]
    exact (RestDown.of_shiftRows titleRows t).congr (by rw [striped.rest]) headed.rest
  · rw [height, headed.value, if_neg (by simp only [titleRows]; omega), value,
      if_neg (by omega), Nat.add_sub_cancel, striped.value]
  · rw [height, headed.style, if_neg (by simp only [titleRows]; omega), style,
      if_neg (by omega), Nat.add_sub_cancel, striped.style_eq]
  · cases titled.symm.trans titled'
    rw [headed.value]
    split
    · rfl
    · rw [value, if_pos above, titleValue, if_neg (by omega), if_neg (by omega)]
  · rw [headed.style]
    split
    · rfl
    · rw [style, if_pos above]
  · rw [height, titled, headed.merged]
    have same : t.merged = s.merged := by rw [striped.rest]
    have moved : (t.shiftRows 0 titleRows).merged = s.merged.map (·.down titleRows) := by
      rw [← same]
      exact map_shiftRows_eq_down titleRows t.merged
    rw [moved]
    rfl

/-- A finished table with stripes and, if the metadata give one, a title is a report. -/
theorem decorate_isReport {today : Time.Date} {r : Sheet} (sound : s.cells.Sound)
    (decorated : decorate today spec s = .ok r)
    : IsReport today spec s r := by
  obtain ⟨t, stripes, titling⟩ := bind_eq_ok.mp decorated
  have striped := stripeRows_stripedTo sound stripes
  split at titling
  · next untitled =>
      cases titling
      exact striped.isReport untitled
  · next title titled =>
      have headed := writeTitle_titledOver striped.sound titling
      exact headed.isReport titled striped

/-- Wherever a sheet is built both as a table and as a report, the report is the table with
stripes, moved down below the title if the metadata give one.
-/
theorem reportSheet_isReport {can : Capabilities} {today : Time.Date} {r : Sheet}
    (table : (tableSheet can spec).result = .ok s)
    (report : (reportSheet can today spec).result = .ok r)
    : IsReport today spec s r := by
  obtain ⟨s', built, decorated⟩ := Logged.bind_result_eq_ok.mp report
  obtain rfl : s = s' := Except.ok.inj (table.symm.trans built)
  have finished := tableSheet_builtTable table
  exact decorate_isReport finished.sound decorated

/-- A table of one row with a title and a filter. -/
def sampleReport : SheetSpec where
  name := "Sales"
  columns := [{ header := "Region", key := "region" }, { header := "Sum", key := "sum" }]
  data := [[("region", .string "North"), ("sum", .int 7)]]
  formatting := some { freezePanes := some "A2", autoFilter := some true, mergedCells := ["A3:B3"] }
  metadata := some [("title", .string "Report")]

/-- The sample is built as a table and as a report; its title takes three rows. -/
theorem reportSheet_sampleReport
    : ∃ s r, (tableSheet ⟨true, true⟩ sampleReport).result = .ok s
        ∧ (reportSheet ⟨true, true⟩ ⟨2024, 3, 7⟩ sampleReport).result = .ok r
        ∧ IsReport ⟨2024, 3, 7⟩ sampleReport s r
        ∧ Build.rowsAbove sampleReport = 3 := by
  obtain ⟨s, table⟩ := exists_of_isOk
    (x := (tableSheet ⟨true, true⟩ sampleReport).result) (by decide +kernel)
  obtain ⟨r, report⟩ := exists_of_isOk
    (x := (reportSheet ⟨true, true⟩ ⟨2024, 3, 7⟩ sampleReport).result) (by decide +kernel)
  exact ⟨s, r, table, report, reportSheet_isReport table report, by decide +kernel⟩

end Build

end Spreadsheet
