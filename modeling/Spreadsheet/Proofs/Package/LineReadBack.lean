import Spreadsheet.Proofs.Package.CellReadBack
import Spreadsheet.Proofs.Sheet.Edits

/-! Rows and columns that were written are read with their settings.
-/

namespace Spreadsheet

open Spreadsheet.Cell Spreadsheet.Sheet Spreadsheet.Xml

/-- The setting that is read where one was written. That a group is collapsed is not read. -/
def Sheet.Setting.asRead (setting : Setting) : Setting where
  size := setting.size.map fun x => (Number.readBinary64? (x.text .cell)).getD x
  hidden := setting.hidden
  outlineLevel := setting.outlineLevel

namespace Package.SheetReading

variable {shared : Shared} {attributes : List (String × String)} {goal : Goal} {axis : Axis}
  {i : Nat}

-----------------------------------------------------------------------------------------
-- Settings on the sheet
-----------------------------------------------------------------------------------------

/-- A setting after what was read of its line has been applied to it. -/
def LineReading.onto (r : LineReading) (setting : Setting) : Setting :=
  { setting with
    size := r.size.or setting.size
    hidden := r.hidden || setting.hidden
    outlineLevel := r.level.getD setting.outlineLevel }

/-- What was read of a line of the sheet can be applied. -/
theorem exists_applyLine {r : LineReading} (inside : i < axis.limit)
    (shallow : ∀ level, r.level = some level → level ≤ maxOutlineLevel) (s : Sheet)
    : ∃ s', applyLine axis r i s = .ok s'
      ∧ Changes (.line axis i) (r.onto (Settings.get (s.lines axis) i)) s s' := by
  obtain ⟨size, hidden, level⟩ := r
  have sized : ∃ s₁, ifGiven size (fun size s => s.setSize axis i size) s = .ok s₁
      ∧ Changes (.line axis i)
        ((⟨size, false, none⟩ : LineReading).onto (Settings.get (s.lines axis) i)) s s₁ := by
    cases size with
    | none => exact ⟨s, rfl, .refl s (.line axis i)⟩
    | some size => exact ⟨_, setSize_eq_ok.mpr ⟨inside, rfl⟩, changes_insertLine s axis i _⟩
  obtain ⟨s₁, sized, first⟩ := sized
  have now : Settings.get (s₁.lines axis) i = _ := first.here
  have shown : ∃ s₂, (if hidden then s₁.setHidden axis i true else .ok s₁) = .ok s₂
      ∧ Changes (.line axis i)
        ((⟨size, hidden, none⟩ : LineReading).onto (Settings.get (s.lines axis) i)) s s₂ := by
    cases hidden with
    | false => exact ⟨s₁, rfl, first⟩
    | true =>
        refine ⟨_, setHidden_eq_ok.mpr ⟨inside, rfl⟩, first.trans ?_⟩
        rw [now]
        exact changes_insertLine s₁ axis i _
  obtain ⟨s₂, shown, second⟩ := shown
  have now : Settings.get (s₂.lines axis) i = _ := second.here
  have outlined : ∃ s₃, ifGiven level (fun level s => s.setOutline axis i level) s₂ = .ok s₃
      ∧ Changes (.line axis i)
        ((⟨size, hidden, level⟩ : LineReading).onto (Settings.get (s.lines axis) i)) s s₃ := by
    cases level with
    | none => exact ⟨s₂, rfl, second⟩
    | some level =>
        refine ⟨_, setOutline_eq_ok.mpr ⟨shallow level rfl, inside, rfl⟩, second.trans ?_⟩
        rw [now]
        exact changes_insertLine s₂ axis i _
  obtain ⟨s₃, outlined, third⟩ := outlined
  refine ⟨s₃, bind_eq_ok.mpr ⟨s₁, sized, ?_⟩, third⟩
  dsimp only
  split
  · next on =>
      rw [if_pos on] at shown
      exact bind_eq_ok.mpr ⟨s₂, shown, outlined⟩
  · next off =>
      rw [if_neg off] at shown
      exact bind_eq_ok.mpr ⟨s₂, shown, outlined⟩

-----------------------------------------------------------------------------------------
-- Settings in tags
-----------------------------------------------------------------------------------------

/-- What is read of the setting of a line that was written. -/
def reading (setting : Setting) : LineReading where
  size := setting.asRead.size
  hidden := setting.hidden
  level := if 0 < setting.outlineLevel then some setting.outlineLevel else none

/-- What was read of a setting brings it to an untouched line, and leaves it where it is. -/
theorem reading_onto {setting before : Setting} (reached : before = {} ∨ before = setting.asRead)
    : (reading setting).onto before = setting.asRead := by
  obtain ⟨size, hidden, level, collapsed⟩ := setting
  rcases reached with rfl | rfl
  · cases size <;> cases hidden <;> cases level <;> rfl
  · cases size <;> cases hidden <;> cases level <;> rfl

theorem nat?_readAttributes {name key : String} {n limit : Nat} (below : n < limit)
    (found : attributes.lookup key = some (Nat.repr n))
    : (⟨name, readAttributes attributes⟩ : Tag).nat? key limit = some n := by
  rw [Tag.nat?, attribute?_readAttributes, found, Option.map_some,
    legalPart_eq_self (legal_repr n)]
  exact Number.readNat?_repr below

theorem number?_readAttributes {name key : String} {x : Number.Binary64}
    (found : attributes.lookup key = some x.display)
    : (⟨name, readAttributes attributes⟩ : Tag).number? key
      = some ((Number.readBinary64? (x.text .cell)).getD x) := by
  obtain ⟨y, read⟩ := Number.Binary64.exists_readBinary64?_text x
  rw [Tag.number?, attribute?_readAttributes, found, Option.map_some,
    legalPart_eq_self (legal_display x), Number.Binary64.display]
  change Number.readBinary64? (String.ofList (x.text .cell)).toList = _
  rw [String.toList_ofList, read]
  rfl

/-- The attributes show the setting of a line, apart from its size. -/
structure ShowsSetting (attributes : List (String × String)) (setting : Setting) : Prop where
  hidden : attributes.lookup "hidden" = if setting.hidden then some "1" else none
  level : attributes.lookup "outlineLevel"
    = if 0 < setting.outlineLevel then some (Nat.repr setting.outlineLevel) else none

theorem lookup_settingAttributes_other (setting : Setting) {key : String}
    (other : key ∉ ["hidden", "outlineLevel", "collapsed"])
    : (settingAttributes setting).lookup key = none := by
  rw [List.lookup_eq_none_iff]
  intro entry member
  rw [bne_iff_ne]
  rintro rfl
  refine other ?_
  simp only [settingAttributes, levelAttribute, flag, attributeIf, List.mem_append] at member
  rcases member with (member | member) | member
  all_goals
    split at member
    · cases List.mem_singleton.mp member
      simp
    · cases member

theorem showsSetting_append {front : List (String × String)} (setting : Setting)
    (apart : front.lookup "hidden" = none ∧ front.lookup "outlineLevel" = none)
    : ShowsSetting (front ++ settingAttributes setting) setting := by
  obtain ⟨size, hidden, level, collapsed⟩ := setting
  constructor
  · rw [List.lookup_append, apart.1, Option.none_or]
    cases hidden <;> cases level <;> cases collapsed <;> rfl
  · rw [List.lookup_append, apart.2, Option.none_or]
    cases hidden <;> cases level <;> cases collapsed <;> rfl

theorem lineReading_eq {name : String} {size : Option Number.Binary64} {setting : Setting}
    (sized : size = setting.asRead.size) (shows : ShowsSetting attributes setting)
    (shallow : setting.outlineLevel ≤ maxOutlineLevel)
    : lineReading size ⟨name, readAttributes attributes⟩ = reading setting := by
  have hidden : (⟨name, readAttributes attributes⟩ : Tag).isOn "hidden" = setting.hidden := by
    rw [Tag.isOn, attribute?_readAttributes, shows.hidden]
    cases setting.hidden <;> rfl
  have level : ((⟨name, readAttributes attributes⟩ : Tag).nat? "outlineLevel" 256).filter (0 < ·)
      = if 0 < setting.outlineLevel then some setting.outlineLevel else none := by
    have below : setting.outlineLevel < 256 := Nat.lt_of_le_of_lt shallow (by decide)
    have shown := shows.level
    split at shown
    · next deep =>
        rw [nat?_readAttributes below shown, if_pos deep, Option.filter_some,
          if_pos (by simpa using deep)]
    · next flat =>
        rw [Tag.nat?, attribute?_readAttributes, shown, if_neg flat]
        rfl
  rw [lineReading, sized, hidden, level]
  rfl

theorem reading_shallow {setting : Setting} (shallow : setting.outlineLevel ≤ maxOutlineLevel)
    : ∀ level, (reading setting).level = some level → level ≤ maxOutlineLevel := by
  intro level same
  rw [reading] at same
  split at same
  · cases same
    exact shallow
  · cases same

/-- A line whose setting is read comes to have it. -/
theorem exists_applyLine_reading {setting : Setting} (inside : i < axis.limit)
    (shallow : setting.outlineLevel ≤ maxOutlineLevel)
    (aimed : goal (.line axis i) = setting.asRead) (s : Sheet)
    : ∃ s', applyLine axis (reading setting) i s = .ok s'
      ∧ s.Brings goal (· = .line axis i) s' := by
  obtain ⟨s', applied, changes⟩ := exists_applyLine inside (reading_shallow shallow) s
  refine ⟨s', applied, .of_changes (fun _ => changes) fun reached => ?_⟩
  rw [aimed] at reached ⊢
  exact reading_onto reached

-----------------------------------------------------------------------------------------
-- Written lines
-----------------------------------------------------------------------------------------

/-- The setting of a written column is read for that column alone. -/
theorem exists_takes_columnNode {column : Nat} {setting : Setting} (inside : column < maxColumns)
    (shallow : setting.outlineLevel ≤ maxOutlineLevel)
    (aimed : goal (.line .columns column) = setting.asRead) (s : Sheet)
    : ∃ s', Takes shared (columnNode column setting) s s'
      ∧ s.Brings goal (· = .line .columns column) s' := by
  have below : column + 1 < Number.wordLimit 16 :=
    Nat.lt_of_le_of_lt (Nat.succ_le_of_lt inside) (by decide)
  obtain ⟨s', applied, brings⟩ := exists_applyLine_reading inside shallow aimed s
  rw [columnNode]
  generalize tagged : (([("min", Nat.repr (column + 1)), ("max", Nat.repr (column + 1))] : List _)
    ++ _ ++ settingAttributes setting : List (String × String)) = attributes
  have first : attributes.lookup "min" = some (Nat.repr (column + 1)) := by rw [← tagged]; rfl
  have last : attributes.lookup "max" = some (Nat.repr (column + 1)) := by rw [← tagged]; rfl
  have shows : ShowsSetting attributes setting := by
    rw [← tagged]
    refine showsSetting_append setting ?_
    cases setting.size <;> exact ⟨rfl, rfl⟩
  have width : (⟨"col", readAttributes attributes⟩ : Tag).number? "width"
      = setting.asRead.size := by
    rw [Setting.asRead]
    cases size : setting.size with
    | none =>
        have unsaid : attributes.lookup "width" = none := by
          rw [← tagged, size, List.lookup_append,
            lookup_settingAttributes_other setting (by decide)]
          rfl
        rw [Tag.number?, attribute?_readAttributes, unsaid]
        rfl
    | some x => exact number?_readAttributes (by rw [← tagged, size]; rfl)
  refine ⟨s', .leaf (onSheet_of_ok ?_), brings⟩
  rw [applyColumnSpan, nat?_readAttributes below first, nat?_readAttributes below last]
  dsimp only
  rw [Nat.add_sub_cancel, Nat.add_sub_cancel_left, applyColumns, lineReading_eq width shows shallow]
  exact bind_eq_ok.mpr ⟨s', applied, rfl⟩

/-- A row without a setting has the attributes of one that has the default setting. -/
theorem rowAttributes_eq (source : Sheet) (row : Nat)
    : rowAttributes source row
      = (match (Settings.get source.rows row).size with
          | some height => [("ht", height.display), ("customHeight", "1")]
          | none => [])
        ++ settingAttributes (Settings.get source.rows row) := by
  rw [rowAttributes, Settings.get, Std.ExtTreeMap.getD_eq_getD_getElem?]
  cases source.rows[row]? <;> rfl

/-- The setting of a written row is read. -/
theorem exists_applyRow {source : Sheet} (outlined : source.Outlined) {row : Nat}
    (inside : row < maxRows)
    (aimed : goal (.line .rows row) = (Settings.get source.rows row).asRead) (s : Sheet)
    : ∃ s', applyRow
          ⟨"row", readAttributes ([("r", Nat.repr (row + 1))] ++ rowAttributes source row)⟩ s
        = .ok s' ∧ s.Brings goal (· = .line .rows row) s' := by
  have below : row + 1 < rowNumberLimit :=
    Nat.lt_of_le_of_lt (Nat.succ_le_of_lt inside) (by decide)
  have shallow := (outlined .rows).get_le row
  change (Settings.get source.rows row).outlineLevel ≤ maxOutlineLevel at shallow
  rw [rowAttributes_eq, ← List.append_assoc]
  generalize Settings.get source.rows row = setting at aimed shallow
  obtain ⟨s', applied, brings⟩ := exists_applyLine_reading inside shallow aimed s
  generalize tagged : ([("r", Nat.repr (row + 1))] ++ _ ++ settingAttributes setting
    : List (String × String)) = attributes
  have number : attributes.lookup "r" = some (Nat.repr (row + 1)) := by rw [← tagged]; rfl
  have shows : ShowsSetting attributes setting := by
    rw [← tagged]
    refine showsSetting_append setting ?_
    cases setting.size <;> exact ⟨rfl, rfl⟩
  have height : (if (⟨"row", readAttributes attributes⟩ : Tag).isOn "customHeight"
        then (⟨"row", readAttributes attributes⟩ : Tag).number? "ht" else none)
      = setting.asRead.size := by
    rw [Setting.asRead]
    cases size : setting.size with
    | none =>
        have unsaid : attributes.lookup "customHeight" = none := by
          rw [← tagged, size, List.lookup_append,
            lookup_settingAttributes_other setting (by decide)]
          rfl
        rw [Tag.isOn, attribute?_readAttributes, unsaid]
        rfl
    | some x =>
        have custom : attributes.lookup "customHeight" = some "1" := by rw [← tagged, size]; rfl
        have said : attributes.lookup "ht" = some x.display := by rw [← tagged, size]; rfl
        rw [Tag.isOn, attribute?_readAttributes, custom, number?_readAttributes said]
        rfl
  refine ⟨s', ?_, brings⟩
  rw [applyRow, nat?_readAttributes below number]
  dsimp only
  rw [lineReading_eq height shows shallow]
  exact applied

end Package.SheetReading

end Spreadsheet
