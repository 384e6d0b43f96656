import Spreadsheet.Number.Shortest

/-! The written forms of numbers: plain positional text for cell values and dumps, the form
with an exponent for JSON, and a fixed number of decimal places for amounts.
-/

namespace Spreadsheet.Number

/-- A run of zeros. -/
def zeros (n : Nat) : List Char := List.replicate n '0'

namespace Decimal

/-- Decimal digits of the significand, most significant first. -/
def digitChars (d : Decimal) : List Char := Nat.toDigits 10 d.digits

/-- Where the decimal point stands, counted from the left of the digits. -/
def pointPosition (d : Decimal) : Int := d.digitChars.length + d.exponent

/-- Positional text; `whole` is what follows a number without fraction. -/
def positional (whole : List Char) (d : Decimal) : List Char :=
  let ds := d.digitChars
  let p := d.pointPosition
  if 0 ≤ d.exponent then ds ++ zeros d.exponent.toNat ++ whole
  else if 0 < p then ds.take p.toNat ++ '.' :: ds.drop p.toNat
  else '0' :: '.' :: (zeros (-p).toNat ++ ds)

/-- One digit, the others behind a point, and a signed exponent. -/
def scientific (d : Decimal) : List Char :=
  let e := d.pointPosition - 1
  let exponent := (if e < 0 then '-' else '+') :: Nat.toDigits 10 e.natAbs
  match d.digitChars with
  | [] => 'e' :: exponent
  | [c] => c :: 'e' :: exponent
  | c :: rest => c :: '.' :: (rest ++ 'e' :: exponent)

end Decimal

/-- How a format writes a finite number: the choice between equally near digits, what
follows a whole number, and the positions of the point that are written out. -/
structure NumberLayout where
  tie : Tie
  whole : List Char
  isPositional : Int → Bool

namespace NumberLayout

/-- Cell values: always positional, whole numbers without a point, a half rounded up. -/
def cell : NumberLayout where
  tie := .up
  whole := []
  isPositional := fun _ => true

/-- JSON: whole numbers end in `.0`; from 10^16 on and below 10^-5 with an exponent. -/
def json : NumberLayout where
  tie := .even
  whole := ['.', '0']
  isPositional := fun p => decide (-5 < p ∧ p ≤ 16)

/-- Text of a finite number without its sign. -/
def unsigned (layout : NumberLayout) (x : Binary64) : List Char :=
  if x.isZero then '0' :: layout.whole
  else
    let d := x.shortest layout.tie
    if layout.isPositional d.pointPosition then d.positional layout.whole else d.scientific

end NumberLayout

/-- A minus sign for negative numbers, minus zero included. -/
def signText (negative : Bool) : List Char := if negative then ['-'] else []

namespace Binary64

/-- The text of a value that is no finite number. -/
def specialText? (x : Binary64) : Option (List Char) :=
  if x.isNaN then some "NaN".toList
  else if x.isInfinite then some (signText x.negative ++ "inf".toList)
  else none

/-- Text of a number in a layout. -/
def text (layout : NumberLayout) (x : Binary64) : List Char :=
  match x.specialText? with
  | some t => t
  | none => signText x.negative ++ layout.unsigned x

/-- The text a cell shows for a number. -/
def display (x : Binary64) : String := String.ofList (x.text .cell)

/-- The text a JSON document holds for a number. -/
def jsonText (x : Binary64) : String := String.ofList (x.text .json)

/-- The absolute value counted in units of the last of `places` decimal places. -/
def roundedUnits (places : Nat) (x : Binary64) : Nat :=
  roundHalfEven (x.significand * Nat.pow 2 x.scale.toNat * Nat.pow 10 places)
    (Nat.pow 2 (-x.scale).toNat)

/-- Digits before and after the point, with at least one before it. -/
def splitUnits (places units : Nat) : List Char × List Char :=
  let ds := Nat.toDigits 10 units
  let padded := zeros (places + 1 - ds.length) ++ ds
  (padded.take (padded.length - places), padded.drop (padded.length - places))

/-- Text with exactly `places` decimal places (at least one), without a sign. -/
def fixedUnsigned (places : Nat) (x : Binary64) : List Char :=
  let (whole, fraction) := splitUnits places (x.roundedUnits places)
  whole ++ '.' :: fraction

/-- Text with exactly `places` decimal places. -/
def fixed (places : Nat) (x : Binary64) : List Char :=
  match x.specialText? with
  | some t => t
  | none => signText x.negative ++ x.fixedUnsigned places

end Binary64

end Spreadsheet.Number
