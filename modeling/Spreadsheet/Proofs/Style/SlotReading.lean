import Spreadsheet.Package.CellStyles
import Spreadsheet.Package.StyleSheet
import Spreadsheet.Proofs.Xml.LegalText

/-! What can be told of the slots of a style from the document of styles. Number formats, boldness,
sizes and solid fills come through; all other slots are read as those of the default style.
-/

namespace Spreadsheet.Style

open Spreadsheet.Encoding.Hex Spreadsheet.Xml

-----------------------------------------------------------------------------------------
-- Colors
-----------------------------------------------------------------------------------------

/-- A digit is neither white space nor a number sign, and documents can hold it. -/
theorem upperDigit_plain (n : Nat)
    : Text.isBlank (upperDigit n) = false ∧ (upperDigit n == '#') = false
      ∧ isLegal (upperDigit n) = true := by
  have each : ∀ m < 16, Text.isBlank (upperDigit m) = false ∧ (upperDigit m == '#') = false
      ∧ isLegal (upperDigit m) = true := by decide
  have same : upperDigit n = upperDigit (n % 16) := by rw [upperDigit, upperDigit, Nat.mod_mod]
  rw [same]
  exact each _ (Nat.mod_lt n (by decide))

namespace Color

/-- A byte can be told from its digits. -/
theorem byte?_upperDigit (b : UInt8)
    : byte? (upperDigit (b.toNat / 16)) (upperDigit b.toNat) = some b := by
  have each : ∀ n < 256, byte? (upperDigit (n / 16)) (upperDigit n) = some (UInt8.ofNat n) := by
    decide +kernel
  rw [each b.toNat b.toNat_lt, UInt8.ofNat_toNat]

theorem exists_of_mem_argbHex {alpha red green blue : UInt8} {c : Char}
    (member : c ∈ (argb alpha red green blue).argbHex.toList)
    : ∃ n, c = upperDigit n := by
  rw [argbHex, String.toList_ofList] at member
  simp only [byteText, List.cons_append, List.nil_append, List.mem_cons, List.not_mem_nil,
    or_false] at member
  rcases member with rfl | rfl | rfl | rfl | rfl | rfl | rfl | rfl <;> exact ⟨_, rfl⟩

theorem legal_argbHex (color : Color) : Legal color.argbHex := by
  cases color with
  | auto => decide
  | argb alpha red green blue =>
      intro c member
      obtain ⟨n, rfl⟩ := exists_of_mem_argbHex member
      exact (upperDigit_plain n).2.2

/-- A color that is not the automatic one can be told from its digits. -/
theorem ofHex?_argbHex {color : Color} (own : color.isAuto = false)
    : ofHex? color.argbHex = some color := by
  cases color with
  | auto => cases own
  | argb alpha red green blue =>
      have solid : ∀ c ∈ (argb alpha red green blue).argbHex.toList, Text.isBlank c = false := by
        intro c member
        obtain ⟨n, rfl⟩ := exists_of_mem_argbHex member
        exact (upperDigit_plain n).1
      have first := (upperDigit_plain (alpha.toNat / 16)).2.1
      rw [ofHex?, Text.trimChars_eq_self solid, argbHex, String.toList_ofList]
      simp only [byteText, List.cons_append, List.nil_append]
      rw [List.dropWhile_cons_of_neg (by simp [first])]
      simp only [ofDigits?, byte?_upperDigit]
      rfl

end Color

-----------------------------------------------------------------------------------------
-- Slots as read
-----------------------------------------------------------------------------------------

/-- The format that is read where one was written. -/
def NumberFormat.asRead : NumberFormat → NumberFormat
  | .general => .general
  | .code text => .ofCode (legalPart text)

/-- The fill that is read where one was written: a solid one, if its color is not the automatic
one.
-/
def Fill.asRead : Fill → Fill
  | .solid color => if color.isAuto then .none else .solid color
  | .pattern .solid color _ => if color.isAuto then .none else .solid color
  | .none | .pattern .. => .none

/-- What is read of a font that was written. -/
def Font.reading (font : Font) : Package.FontReading where
  bold := font.bold
  size := (Number.readBinary64? (font.size.text .cell)).getD font.size

/-- The style that is read where one was written. -/
def asRead (style : Style) : Style :=
  let base : Style := {}
  { base with
    format := style.format.asRead
    font := { base.font with bold := style.font.reading.bold, size := style.font.reading.size }
    fill := style.fill.asRead }

/-- A format with a number of its own can be told from it. -/
theorem NumberFormat.of_builtIn? {format : NumberFormat} {number : Nat}
    (builtIn : format.builtIn? = some number)
    : ofBuiltIn? number = some format ∧ number < Package.firstCustomFormat
      ∧ format.asRead = format := by
  have each : ∀ entry ∈ builtIns, ofBuiltIn? entry.1 = some (.code entry.2)
      ∧ entry.1 < Package.firstCustomFormat ∧ (code entry.2).asRead = .code entry.2 := by
    decide
  cases format with
  | general =>
      cases builtIn
      decide
  | code text =>
      obtain ⟨entry, found, rfl⟩ := Option.map_eq_some_iff.mp builtIn
      have same := List.find?_some found
      rw [beq_iff_eq] at same
      rw [← same]
      exact each entry (List.mem_of_find?_eq_some found)

end Spreadsheet.Style
