/-! Bytes as text in UTF-8. Bytes that make up no character are kept between the characters, so
that nothing is lost and two runs of signs are equal exactly if their bytes are. Bytes in code
page 437 are one character each.
-/

namespace Spreadsheet.Text

/-- A character, or bytes that start as one and are none. -/
inductive Sign where
  | char (c : Char)
  | stray (bytes : List UInt8)
deriving DecidableEq, Repr

namespace Sign

/-- The number of bytes of a sign. -/
def byteCount : Sign → Nat
  | .char c => c.utf8Size
  | .stray bytes => bytes.length

/-- The ranges for the bytes behind a first byte; nothing if no character starts with it. They
leave out longer forms of short characters, halves of surrogate pairs and numbers too high. -/
def tailRanges? (first : UInt8) : Option (List (UInt8 × UInt8)) :=
  if first < 0x80 then some []
  else if first < 0xC2 then none
  else if first < 0xE0 then some [(0x80, 0xBF)]
  else if first < 0xF0 then
    some [(if first = 0xE0 then 0xA0 else 0x80, if first = 0xED then 0x9F else 0xBF),
      (0x80, 0xBF)]
  else if first < 0xF5 then
    some [(if first = 0xF0 then 0x90 else 0x80, if first = 0xF4 then 0x8F else 0xBF),
      (0x80, 0xBF), (0x80, 0xBF)]
  else none

/-- The bytes in front that lie each in the range given for it. -/
def fitting : List (UInt8 × UInt8) → List UInt8 → List UInt8
  | (low, high) :: ranges, b :: rest =>
    if low ≤ b && b ≤ high then b :: fitting ranges rest else []
  | _, _ => []

/-- The character of a first byte and the bytes behind it, each of which gives six bits. -/
def charOf (first : UInt8) (tail : List UInt8) : Char :=
  let high := if tail.isEmpty then first.toNat else first.toNat % Nat.pow 2 (6 - tail.length)
  Char.ofNat (tail.foldl (fun n b => 64 * n + b.toNat % 64) high)

/-- The signs in some bytes. -/
def ofBytes : List UInt8 → List Sign
  | [] => []
  | first :: rest =>
    match tailRanges? first with
    | none => .stray [first] :: ofBytes rest
    | some ranges =>
      let tail := fitting ranges rest
      let sign :=
        if tail.length = ranges.length then .char (charOf first tail) else .stray (first :: tail)
      sign :: ofBytes (rest.drop tail.length)
termination_by bytes => bytes.length
decreasing_by
  · simp
  · simp only [List.length_drop, List.length_cons]
    omega

/-- The signs of a text. -/
def ofText (s : String) : List Sign := s.toList.map .char

/-- The text that signs are, if all are characters. -/
def text? : List Sign → Option (List Char)
  | [] => some []
  | .char c :: rest => (text? rest).map (c :: ·)
  | .stray _ :: _ => none

/-- The signs of characters are those characters, by induction. -/
theorem text?_map_char (s : List Char) : text? (s.map .char) = some s := by
  induction s with
  | nil => rfl
  | cons c rest ih => simp [text?, ih]

/-- The character that stands for bytes that are none. -/
def replacement : Char := '\uFFFD'

/-- The sign as a character. -/
def shown : Sign → Char
  | .char c => c
  | .stray _ => replacement

end Sign

/-- The text of bytes, if they are one. -/
def ofUtf8? (bytes : List UInt8) : Option String := String.fromUTF8? ⟨bytes.toArray⟩

/-- The text of bytes, with replacements for what is none. -/
def ofUtf8 (bytes : List UInt8) : String := String.ofList ((Sign.ofBytes bytes).map Sign.shown)

/-- The characters of the upper half of the code page. -/
def upperCodePage : String :=
  "ÇüéâäàåçêëèïîìÄÅÉæÆôöòûùÿÖÜ¢£¥₧ƒáíóúñÑªº¿⌐¬½¼¡«»░▒▓│┤╡╢╖╕╣║╗╝╜╛┐" ++
    "└┴┬├─┼╞╟╚╔╩╦╠═╬╧╨╤╥╙╘╒╓╫╪┘┌█▄▌▐▀αßΓπΣσµτΦΘΩδ∞φε∩≡±≥≤⌠⌡÷≈°∙·√ⁿ²■\u00A0"

/-- The character of a byte: ASCII in the lower half. -/
def codePageChar (b : UInt8) : Char :=
  if b < 0x80 then Char.ofNat b.toNat else upperCodePage.toList.getD (b.toNat - 0x80) ' '

/-- The text of bytes in the code page. -/
def ofCodePage (bytes : List UInt8) : String := String.ofList (bytes.map codePageChar)

end Spreadsheet.Text
