import Spreadsheet.Encoding.Hex

/-! Text inside XML documents. Characters with a meaning in markup are written as entities, and
those that no document can hold are left out. Reading resolves the same five entities and
numbers of characters.
-/

namespace Spreadsheet.Xml

/-- A document can hold the character. -/
def isLegal (c : Char) : Bool :=
  c == '\t' || c == '\n' || c == '\r' ||
    (0x20 ≤ c.toNat && c.toNat ≤ 0xD7FF) ||
    (0xE000 ≤ c.toNat && c.toNat ≤ 0xFFFD) || 0x10000 ≤ c.toNat

/-- The characters with a meaning in markup and the names of their entities. -/
def entities : List (Char × String) :=
  [('&', "amp"), ('<', "lt"), ('>', "gt"), ('"', "quot"), ('\'', "apos")]

/-- The entity of a character, if it has one. -/
def entity? (c : Char) : Option String := (entities.find? (·.1 == c)).map (·.2)

/-- The written form of a character; nothing for one that no document can hold. -/
def escapeChar (c : Char) : List Char :=
  match entity? c with
  | some name => '&' :: name.toList ++ [';']
  | none => if isLegal c then [c] else []

/-- The written form of a text, fit for content and for attributes in quotes. -/
def escape (s : String) : String := String.ofList (s.toList.flatMap escapeChar)

/-- The written form of a character of content whose quotes need no entity. -/
def escapePlainChar (c : Char) : List Char :=
  if c = '"' ∨ c = '\'' then [c] else escapeChar c

/-- The written form of a text in content that shows its quotes as they are. -/
def escapePlain (s : String) : String := String.ofList (s.toList.flatMap escapePlainChar)

/-- The value of digits in a base; nothing if there are too many or one is no digit. -/
def digits? (base most : Nat) (ds : List Char) : Option Nat :=
  if most < ds.length then none
  else
    ds.foldlM
      (fun n c => do
        let d ← Encoding.Hex.digitValue? c
        if d < base then return n * base + d else none)
      0

/-- The character with a number: neither null nor half of a surrogate pair. -/
def charOfNumber? (n : Nat) : Option Char :=
  if n = 0 ∨ ¬n.isValidChar then none else some (.ofNat n)

/-- The character that a reference stands for, given what is between ampersand and semicolon. -/
def referenced? : List Char → Option Char
  | '#' :: 'x' :: ds => (digits? 16 6 ds).bind charOfNumber?
  | '#' :: ds => (digits? 10 7 ds).bind charOfNumber?
  | name => (entities.find? (·.2.toList == name)).map (·.1)

/-- The character ends a reference or starts one. -/
def endsReference (c : Char) : Bool := c == '&' || c == ';'

/-- The text of a written form. Every ampersand must start a reference that can be resolved. -/
def unescape? (s : List Char) : Option (List Char) :=
  match s with
  | [] => some []
  | c :: rest =>
    if c = '&' then
      match _h : rest.dropWhile (!endsReference ·) with
      | ';' :: after => do
        let c ← referenced? (rest.takeWhile (!endsReference ·))
        let text ← unescape? after
        return c :: text
      | _ => none
    else do
      let text ← unescape? rest
      return c :: text
termination_by s.length
decreasing_by
  · have := (List.dropWhile_sublist (!endsReference ·) (l := rest)).length_le
    simp [_h] at this
    simp
    omega
  · simp

end Spreadsheet.Xml
