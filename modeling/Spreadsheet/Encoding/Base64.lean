/-! Base64 with the standard alphabet: groups of four characters for three bytes, the last
group filled up with equals signs. Reading accepts exactly what writing produces, so no white
space, no missing filling and no set bits behind the data.
-/

namespace Spreadsheet.Encoding.Base64

/-- The value of a character of the alphabet. -/
def sextet? (c : Char) : Option Nat :=
  if 'A' ≤ c ∧ c ≤ 'Z' then some (c.toNat - 'A'.toNat)
  else if 'a' ≤ c ∧ c ≤ 'z' then some (c.toNat - 'a'.toNat + 26)
  else if '0' ≤ c ∧ c ≤ '9' then some (c.toNat - '0'.toNat + 52)
  else if c = '+' then some 62
  else if c = '/' then some 63
  else none

/-- The bytes of a group that ends the text: one, two or three of them. -/
def decodeLast? (a b : Nat) (c d : Char) : Option (List UInt8) :=
  if c = '=' then
    if d = '=' && b % 16 = 0 then some [.ofNat (4 * a + b / 16)] else none
  else do
    let c ← sextet? c
    if d = '=' then
      if c % 4 = 0 then some [.ofNat (4 * a + b / 16), .ofNat (16 * (b % 16) + c / 4)] else none
    else
      let d ← sextet? d
      return [.ofNat (4 * a + b / 16), .ofNat (16 * (b % 16) + c / 4), .ofNat (64 * (c % 4) + d)]

/-- The bytes that a text stands for. -/
def decode? : List Char → Option (List UInt8)
  | [] => some []
  | a :: b :: c :: d :: rest => do
    let a ← sextet? a
    let b ← sextet? b
    let group ← decodeLast? a b c d
    if rest.isEmpty then return group
    else if d = '=' then none
    else
      let bytes ← decode? rest
      return group ++ bytes
  | _ => none

end Spreadsheet.Encoding.Base64
