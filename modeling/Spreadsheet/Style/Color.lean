import Spreadsheet.Encoding.Hex
import Spreadsheet.Text.Blank

/-! Colors: the automatic one of the application, or alpha, red, green and blue.
-/

namespace Spreadsheet.Style

inductive Color where
  | auto
  | argb (alpha red green blue : UInt8)
deriving DecidableEq, Repr

namespace Color

instance : Inhabited Color := ⟨.auto⟩

/-- An opaque color. -/
def rgb (red green blue : UInt8) : Color := .argb 0xFF red green blue

def black : Color := rgb 0 0 0

def white : Color := rgb 255 255 255

/-- The byte of two characters: two digits, or a plus sign and one digit. -/
def byte? (a b : Char) : Option UInt8 :=
  if a = '+' then (Encoding.Hex.digitValue? b).map .ofNat
  else do
    let a ← Encoding.Hex.digitValue? a
    let b ← Encoding.Hex.digitValue? b
    return .ofNat (16 * a + b)

/-- Six characters for an opaque color or eight with alpha first. -/
def ofDigits? : List Char → Option Color
  | [r, r', g, g', b, b'] => do
    return rgb (← byte? r r') (← byte? g g') (← byte? b b')
  | [a, a', r, r', g, g', b, b'] => do
    return .argb (← byte? a a') (← byte? r r') (← byte? g g') (← byte? b b')
  | _ => none

/-- Reads a color; white space around it and number signs in front of it are dropped. -/
def ofHex? (s : String) : Option Color :=
  ofDigits? ((Text.trimChars s.toList).dropWhile (· == '#'))

/-- A byte as two upper-case digits. -/
def byteText (b : UInt8) : List Char :=
  [Encoding.Hex.upperDigit (b.toNat / 16), Encoding.Hex.upperDigit b.toNat]

/-- Alpha, red, green and blue as eight upper-case digits; the automatic color is black. -/
def argbHex : Color → String
  | .auto => "FF000000"
  | .argb a r g b => String.ofList (byteText a ++ byteText r ++ byteText g ++ byteText b)

def isAuto : Color → Bool
  | .auto => true
  | .argb .. => false

end Color

end Spreadsheet.Style
