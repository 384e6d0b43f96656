import Spreadsheet.Json.NumberReader

/-! Reading JSON text. The reader is strict: no raw control characters and no lone surrogates
in strings, no more than 127 nested arrays and objects, and nothing but white space behind the
value. Of members with one name the last counts.
-/

namespace Spreadsheet.Json

/-- Arrays and objects may be nested this deep. -/
def maxDepth : Nat := 127

/-- The white space between tokens. -/
def isSpace (c : Char) : Bool := c == ' ' || c == '\n' || c == '\t' || c == '\r'

def skipSpace (s : List Char) : List Char := s.dropWhile isSpace

/-- The value of a hexadecimal digit. -/
def hexValue? (c : Char) : Option Nat :=
  if c.isDigit then some (c.toNat - '0'.toNat)
  else if 'a' ≤ c ∧ c ≤ 'f' then some (c.toNat - 'a'.toNat + 10)
  else if 'A' ≤ c ∧ c ≤ 'F' then some (c.toNat - 'A'.toNat + 10)
  else none

/-- Four hexadecimal digits at the front. -/
def readHex4? : List Char → Option (Nat × List Char)
  | a :: b :: c :: d :: rest => do
    let a ← hexValue? a
    let b ← hexValue? b
    let c ← hexValue? c
    let d ← hexValue? d
    return (4096 * a + 256 * b + 16 * c + d, rest)
  | _ => none

/-- The character of an escape by code; a pair of surrogates makes one character. -/
def readUnicodeEscape? (s : List Char) : Option (Char × List Char) := do
  let (high, rest) ← readHex4? s
  if high < 0xD800 || 0xE000 ≤ high then return (Char.ofNat high, rest)
  else if 0xDC00 ≤ high then none
  else
    match rest with
    | '\\' :: 'u' :: rest => do
      let (low, rest) ← readHex4? rest
      if low < 0xDC00 || 0xE000 ≤ low then none
      else return (Char.ofNat (0x10000 + 1024 * (high - 0xD800) + (low - 0xDC00)), rest)
    | _ => none

/-- The character of a one-letter escape. -/
def simpleEscape? : Char → Option Char
  | '"' => some '"'
  | '\\' => some '\\'
  | '/' => some '/'
  | 'b' => some '\x08'
  | 'f' => some '\x0c'
  | 'n' => some '\n'
  | 'r' => some '\r'
  | 't' => some '\t'
  | _ => none

/-- The characters that a string's written form stands for, collected in reverse. -/
def readStringChars? : Nat → List Char → List Char → Option (List Char)
  | _, acc, [] => some acc.reverse
  | 0, _, _ => none
  | fuel + 1, acc, c :: rest =>
    if c = '\\' then
      match rest with
      | 'u' :: rest => do
        let (c, rest) ← readUnicodeEscape? rest
        readStringChars? fuel (c :: acc) rest
      | e :: rest => do
        let c ← simpleEscape? e
        readStringChars? fuel (c :: acc) rest
      | [] => none
    else if c.toNat < 0x20 then none
    else readStringChars? fuel (c :: acc) rest

/-- What stands before the closing quote, collected in reverse, and what stands behind it. A
quote behind a backslash closes nothing. -/
def splitString? (acc : List Char) : List Char → Option (List Char × List Char)
  | [] => none
  | '"' :: rest => some (acc.reverse, rest)
  | '\\' :: c :: rest => splitString? (c :: '\\' :: acc) rest
  | c :: rest => splitString? (c :: acc) rest

/-- A string behind its opening quote. -/
def readString? (s : List Char) : Option (String × List Char) := do
  let (raw, rest) ← splitString? [] s
  let cs ← readStringChars? raw.length [] raw
  return (String.ofList cs, rest)

/-- A fixed word at the front. -/
def readWord? (word : List Char) (value : Value) (s : List Char) : Option (Value × List Char) :=
  if word.isPrefixOf s then some (value, s.drop word.length) else none

mutual

/-- A value at the front, behind white space. -/
def readValue? : Nat → Nat → List Char → Option (Value × List Char)
  | 0, _, _ => none
  | fuel + 1, depth, s =>
    match skipSpace s with
    | [] => none
    | '"' :: rest => do
      let (text, rest) ← readString? rest
      return (.string text, rest)
    | '[' :: rest =>
      match depth with
      | 0 => none
      | depth + 1 =>
        match skipSpace rest with
        | ']' :: rest => some (.array [], rest)
        | rest => do
          let (items, rest) ← readItems? fuel depth rest
          return (.array items, rest)
    | '\x7b' :: rest =>
      match depth with
      | 0 => none
      | depth + 1 =>
        match skipSpace rest with
        | '\x7d' :: rest => some (.object [], rest)
        | rest => do
          let (members, rest) ← readMembers? fuel depth [] rest
          return (.object members, rest)
    | 't' :: rest => readWord? ['r', 'u', 'e'] (.bool true) rest
    | 'f' :: rest => readWord? ['a', 'l', 's', 'e'] (.bool false) rest
    | 'n' :: rest => readWord? ['u', 'l', 'l'] .null rest
    | s => readNumber? s

/-- The items of an array up to its closing bracket. -/
def readItems? : Nat → Nat → List Char → Option (List Value × List Char)
  | 0, _, _ => none
  | fuel + 1, depth, s => do
    let (item, rest) ← readValue? fuel depth s
    match skipSpace rest with
    | ',' :: rest => do
      let (items, rest) ← readItems? fuel depth rest
      return (item :: items, rest)
    | ']' :: rest => return ([item], rest)
    | _ => none

/-- The members of an object up to its closing brace, added to those already read. -/
def readMembers? : Nat → Nat → Members → List Char → Option (Members × List Char)
  | 0, _, _, _ => none
  | fuel + 1, depth, members, s =>
    match skipSpace s with
    | '"' :: rest => do
      let (name, rest) ← readString? rest
      match skipSpace rest with
      | ':' :: rest => do
        let (value, rest) ← readValue? fuel depth rest
        let members := members.insert name value
        match skipSpace rest with
        | ',' :: rest => readMembers? fuel depth members rest
        | '\x7d' :: rest => return (members, rest)
        | _ => none
      | _ => none
    | _ => none

end

/-- The value a text holds. Each step of the reader takes at least one character of every two
calls, which bounds their number. -/
def Value.ofText? (text : String) : Option Value := do
  let s := text.toList
  let (value, rest) ← readValue? (2 * s.length + 2) maxDepth s
  if (skipSpace rest).isEmpty then return value else none

end Spreadsheet.Json
