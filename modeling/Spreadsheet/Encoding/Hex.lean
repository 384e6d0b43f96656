/-! Bytes as pairs of hexadecimal digits.
-/

namespace Spreadsheet.Encoding.Hex

/-- A digit in lower case. -/
def digit (n : Nat) : Char := Nat.digitChar (n % 16)

/-- A digit in upper case. -/
def upperDigit (n : Nat) : Char := (Nat.digitChar (n % 16)).toUpper

/-- The value of a digit in either case. -/
def digitValue? (c : Char) : Option Nat :=
  if '0' ≤ c ∧ c ≤ '9' then some (c.toNat - '0'.toNat)
  else if 'a' ≤ c ∧ c ≤ 'f' then some (c.toNat - 'a'.toNat + 10)
  else if 'A' ≤ c ∧ c ≤ 'F' then some (c.toNat - 'A'.toNat + 10)
  else none

/-- Two lower-case digits for each byte. -/
def encode (bytes : List UInt8) : String :=
  String.ofList (bytes.flatMap fun b => [digit (b.toNat / 16), digit b.toNat])

/-- The bytes of a text of digit pairs. -/
def decode? : List Char → Option (List UInt8)
  | [] => some []
  | a :: b :: rest => do
    let a ← digitValue? a
    let b ← digitValue? b
    let bytes ← decode? rest
    return .ofNat (16 * a + b) :: bytes
  | _ => none

end Spreadsheet.Encoding.Hex
