import Spreadsheet.Json.Value
import Spreadsheet.Number.Reader

/-! Numbers in JSON text. A number without point and exponent stays an integer while it fits
into 64 bits. Any other number keeps as many leading digits as fit into 64 bits and is scaled
by one power of ten, so that it is rounded at most three times.
-/

namespace Spreadsheet.Json

open Spreadsheet.Number

/-- The digits kept of a number never exceed this value. -/
def maxSignificand : Nat := wordLimit 64 - 1

/-- Digits are taken in while the value stays within the bound; the rest is left. -/
def takeSignificand (n : Nat) : List Char → Nat × List Char
  | [] => (n, [])
  | c :: rest =>
    if c.isDigit && 10 * n + digitValue c ≤ maxSignificand then
      takeSignificand (10 * n + digitValue c) rest
    else (n, c :: rest)

/-- The power of ten nearest to `10 ^ n`. -/
def powerOfTen (n : Nat) : Binary64 := .nearest false (Nat.pow 10 n) 1

/-- Multiplies by a power of ten with one rounding, or with more below `10 ^ -308`.
A result too large to be a number is refused. -/
def scaleByTen? (x : Binary64) (e : Int) : Option Binary64 :=
  if 0 ≤ e then
    if x.isZero then some x
    else if 308 < e then none
    else
      let y := x.mul (powerOfTen e.toNat)
      if y.isInfinite then none else some y
  else if -308 ≤ e then some (x.div (powerOfTen (-e).toNat))
  else if x.isZero then some x
  else scaleByTen? (x.div (powerOfTen 308)) (e + 308)
termination_by (-e).toNat

/-- A significand times a power of ten with a sign. -/
def decimalNumber? (negative : Bool) (significand : Nat) (e : Int) : Option Value :=
  (scaleByTen? (.ofNat significand) e).map fun x => .float { x with negative := negative }

/-- The integer with this sign and size: exact if it fits, and `-0` is a binary number. -/
def wholeNumber (negative : Bool) (n : Nat) : Value :=
  if !negative then .int n
  else if n = 0 ∨ wordLimit 63 < n then .float (.nearest true n 1)
  else .int (-n)

/-- An exponent behind its letter: an optional sign and at least one digit. -/
def readSignedDigits? (s : List Char) : Option (Int × List Char) :=
  let (negative, s) := match s with
    | '-' :: rest => (true, rest)
    | '+' :: rest => (false, rest)
    | _ => (false, s)
  let (ds, rest) := spanDigits s
  if ds.isEmpty then none
  else
    let n : Int := digitsValue ds
    some (if negative then -n else n, rest)

/-- What may follow the significand: an exponent that adds to the one known so far. -/
def readScaled? (negative : Bool) (significand : Nat) (e : Int) (s : List Char)
    : Option (Value × List Char) :=
  match s with
  | 'e' :: rest | 'E' :: rest => do
    let (n, rest) ← readSignedDigits? rest
    let value ← decimalNumber? negative significand (e + n)
    return (value, rest)
  | _ => do
    let value ← decimalNumber? negative significand e
    return (value, s)

/-- The fraction behind the point. Digits that no longer fit are skipped. -/
def readFraction? (negative : Bool) (significand : Nat) (e : Int) (s : List Char)
    : Option (Value × List Char) :=
  let (n, rest) := takeSignificand significand s
  let (skipped, rest) := spanDigits rest
  let taken := (spanDigits s).1.length - skipped.length
  if taken = 0 && skipped.isEmpty then none
  else readScaled? negative n (e - taken) rest

/-- A number behind its sign: no leading zeros, and a digit on each side of a point. -/
def readUnsigned? (negative : Bool) (s : List Char) : Option (Value × List Char) :=
  match s with
  | [] => none
  | c :: tail =>
    if !c.isDigit then none
    else if c = '0' && (tail.head?.map Char.isDigit).getD false then none
    else
      let (n, rest) := takeSignificand 0 s
      let (skipped, rest) := spanDigits rest
      match rest with
      | '.' :: fraction => readFraction? negative n skipped.length fraction
      | 'e' :: _ | 'E' :: _ => readScaled? negative n skipped.length rest
      | _ =>
        if skipped.isEmpty then some (wholeNumber negative n, rest)
        else readScaled? negative n skipped.length rest

/-- A number at the front of a text, and what follows it. -/
def readNumber? : List Char → Option (Value × List Char)
  | '-' :: rest => readUnsigned? true rest
  | s => readUnsigned? false s

end Spreadsheet.Json
