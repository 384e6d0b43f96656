import Spreadsheet.Proofs.Package.WorkbookReadBack

/-! Workbooks that were built, written and read again: what is kept of the styles of cells.
-/

namespace Spreadsheet

open Spreadsheet.Cell Spreadsheet.Xml

namespace Style

-----------------------------------------------------------------------------------------
-- Styles
-----------------------------------------------------------------------------------------

/-- The style says nothing that the document of styles cannot hold: its font has a finite size, its
format is the general one or has a code of its own, and a solid fill has a color of its own and is
not given as a pattern.
-/
structure Writable (style : Style) : Prop where
  size : style.font.size.isFinite = true
  format : style.format = .general
    ∨ ∃ text, style.format = .code text ∧ text ≠ "" ∧ Legal text ∧ Text.lowerAscii text ≠ "general"
  color : ∀ color, style.fill = .solid color → color.isAuto = false
  pattern : ∀ foreground background, style.fill ≠ .pattern .solid foreground background

/-- Another style has the same number format, boldness and size, and the same fill if that is solid,
but none if it is not.
-/
structure Kept (style style' : Style) : Prop where
  format : style'.format = style.format
  bold : style'.font.bold = style.font.bold
  size : style'.font.size = style.font.size
  solid : ∀ color, style.fill = .solid color → style'.fill = .solid color
  unfilled : style.fill.solidColor? = none → style'.fill = .none

variable {style : Style}

/-- Styles with finite sizes are told apart. -/
theorem Writable.isComparable (writable : style.Writable) : style.isComparable = true := by
  have finite := writable.size
  rw [Number.Binary64.isFinite, decide_eq_true_eq] at finite
  rw [Style.isComparable, Font.isComparable, Number.Binary64.isNaN, Bool.not_eq_true',
    decide_eq_false_iff_not]
  exact Nat.lt_asymm finite

/-- A style that says nothing else is kept by what is read of it. -/
theorem Writable.kept_asRead (writable : style.Writable) : style.Kept style.asRead where
  format := by
    change style.format.asRead = style.format
    rcases writable.format with general | ⟨text, coded, filled, legal, own⟩
    · rw [general]
      rfl
    · rw [coded, NumberFormat.asRead, legalPart_eq_self legal, NumberFormat.ofCode, if_neg]
      simp [filled, own]
  bold := rfl
  size := by
    change style.font.reading.size = style.font.size
    rw [Font.reading, Number.Binary64.readBinary64?_text_of_isFinite writable.size,
      Option.getD_some]
  solid color solid := by
    change style.fill.asRead = .solid color
    rw [solid, Fill.asRead, writable.color color solid]
    rfl
  unfilled other := by
    change style.fill.asRead = .none
    cases fill : style.fill with
    | none => rfl
    | solid color =>
        rw [fill] at other
        cases other
    | pattern pattern foreground background =>
        cases pattern with
        | solid => exact absurd fill (writable.pattern foreground background)
        | _ => rfl

theorem kept_default : ({} : Style).Kept {} where
  format := rfl
  bold := rfl
  size := rfl
  solid _ solid := by cases solid
  unfilled _ := rfl

end Style

/-- The sheet has the same name, and the styles at all positions are kept, those of blank cells
among them.
-/
structure Sheet.KeepsStyles (s s' : Sheet) : Prop where
  name : s'.name = s.name
  style : ∀ row column, (s.style row column).Kept (s'.style row column)

namespace Package

variable {w : Workbook} {shared : Shared} {now : Time.DateTime}

/-- What is read at a position of a sheet keeps the style that was there. -/
theorem kept_readGoal_style (sound : ∀ s ∈ w.sheets, s.cells.Sound)
    (writable : ∀ style ∈ w.cellStyles, style.Writable)
    (few : (StyleTable.ofWorkbook w).styles.size ≤ 2 ^ 31)
    (styled : CellStyles.ofPackage (ofWorkbook now w) = .ok shared.styles) {index : Nat} {s : Sheet}
    (found : w.sheets[index]? = some s) (row column : Nat)
    : (s.style row column).Kept
        (readGoal shared (StyleTable.ofWorkbook w) index s (.style row column)) := by
  have member := List.mem_of_getElem? found
  have default : ∀ s ∈ w.sheets, s.cells.pool.get 0 = {} := fun s member => (sound s member).default
  rw [CellStyles.ofPackage_ofWorkbook now w few] at styled
  have styles := (Except.ok.inj styled).symm
  rw [Sheet.style, Grid.style, readGoal]
  cases kept : s.cells.entry? row column with
  | none =>
      rw [Option.getD_none, default s member]
      exact Style.kept_default
  | some e =>
      have listed := StyleTable.getElem?_cellNumber default found kept
      rw [Option.getD_some, Option.elim_some]
      generalize (StyleTable.ofWorkbook w).cellNumber index e.style = number at listed
      obtain ⟨place, -⟩ := Array.getElem?_eq_some_iff.mp listed
      have small : number < Number.wordLimit 32 :=
        Nat.lt_of_lt_of_le (Nat.lt_of_lt_of_le place few) (by decide)
      rw [SheetReading.numberAsRead, Number.readNat?_repr small, Option.getD_some,
        SheetReading.styleOf]
      split
      · next zero =>
          rw [zero, (StyleTable.ofWorkbook_covers default).default] at listed
          rw [← Option.some.inj listed]
          exact Style.kept_default
      · rw [styles, Array.getElem?_map, listed]
        refine (writable _ (List.mem_flatMap.mpr ⟨s, member, ?_⟩)).kept_asRead
        exact List.mem_map.mpr ⟨(⟨row, column⟩, e), Grid.mem_entries_iff.mpr kept, rfl⟩

end Package

namespace Workbook

/-- A heading: bold and large, on a solid fill, with a number format of its own. -/
def headingStyle : Style where
  font := { size := 14, bold := true }
  fill := .solid (.rgb 255 224 0)
  format := .code "0.0\" kg\""

/-- A pattern behind a blank cell. -/
def patternStyle : Style where
  fill := .pattern .darkGrid .black .auto
  format := .code "0.00"

/-- Two cells with styles, one of them blank. -/
def styleEdits : List Sheet.Edit :=
  [.setValue 0 0 (.number 3), .setStyle 0 0 headingStyle, .setStyle 2 1 patternStyle]

theorem cellStyles_styleEdits
    : (edited "Data" styleEdits).cells.cellStyles = [headingStyle, patternStyle] := by
  decide +kernel

theorem writable_headingStyle : headingStyle.Writable where
  size := by decide +kernel
  format := .inr ⟨_, rfl, by decide, by decide, by decide⟩
  color color solid := by
    cases solid
    rfl
  pattern _ _ solid := by cases solid

theorem writable_patternStyle : patternStyle.Writable where
  size := by decide +kernel
  format := .inr ⟨_, rfl, by decide, by decide, by decide⟩
  color color solid := by cases solid
  pattern _ _ solid := by cases solid

theorem styleEdits_inBounds : (edited "Data" styleEdits).InBounds := by
  have corner : Address.OnSheet ⟨0, 0⟩ := ⟨by decide, by decide⟩
  have below : Address.OnSheet ⟨2, 1⟩ := ⟨by decide, by decide⟩
  have valued := Grid.InBounds.empty.update corner fun e => { e with value := .number 3 }
  have heading := valued.setStyle corner headingStyle
  exact { Sheet.AllInBounds.blank "Data" with cells := heading.setStyle below patternStyle }

theorem styleEdits_inOrder : (edited "Data" styleEdits).InOrder := by
  refine edited_inOrder ?_
  simp [styleEdits, Sheet.Edit.ranges]

end Workbook

end Spreadsheet
