/-! White space: the characters with the Unicode property `White_Space`, trimming them from
both ends of a text, and splitting a text at them or at any other class of characters.
-/

namespace Spreadsheet.Text

/-- The Unicode property `White_Space`. -/
def isBlank (c : Char) : Bool :=
  let n := c.toNat
  (9 ≤ n && n ≤ 13) || n == 0x20 || n == 0x85 || n == 0xA0 || n == 0x1680 ||
    (0x2000 ≤ n && n ≤ 0x200A) || n == 0x2028 || n == 0x2029 || n == 0x202F ||
    n == 0x205F || n == 0x3000

/-- Removes white space in front. -/
def trimStart (s : List Char) : List Char := s.dropWhile isBlank

/-- Removes white space at the end. -/
def trimEnd (s : List Char) : List Char := (s.reverse.dropWhile isBlank).reverse

/-- Removes white space at both ends. -/
def trimChars (s : List Char) : List Char := trimEnd (trimStart s)

/-- Removes white space at both ends. -/
def trim (s : String) : String := String.ofList (trimChars s.toList)

/-- There is nothing but white space. -/
def isBlankText (s : String) : Bool := s.toList.all isBlank

/-- The pieces between the characters of a class, empty ones included. -/
def splitAtEach (p : Char → Bool) : List Char → List (List Char)
  | [] => [[]]
  | c :: rest =>
    if p c then [] :: splitAtEach p rest
    else match splitAtEach p rest with
      | [] => [[c]]
      | piece :: pieces => (c :: piece) :: pieces

/-- The words of a text: its pieces between white space, without the empty ones. -/
def words (s : String) : List String :=
  ((splitAtEach isBlank s.toList).filter (!·.isEmpty)).map String.ofList

/-- The pieces of a text between the occurrences of one character. -/
def splitAtChar (c : Char) (s : String) : List String :=
  (splitAtEach (· == c) s.toList).map String.ofList

end Spreadsheet.Text
