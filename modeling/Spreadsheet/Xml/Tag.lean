import Spreadsheet.Number.Reader
import Spreadsheet.Text.Utf8
import Spreadsheet.Xml.Text

/-! Tags: a name and attributes. What is not written as a name, an equals sign and a value in
quotes is passed over, and so is a name that stood in the tag before.
-/

namespace Spreadsheet.Xml

open Spreadsheet.Text

/-- White space in markup. -/
def isSpace (sign : Sign) : Bool :=
  sign == .char ' ' || sign == .char '\t' || sign == .char '\r' || sign == .char '\n'

/-- The sign goes on with the name of an attribute. -/
def continuesName (sign : Sign) : Bool := sign != .char '=' && !isSpace sign

/-- Dropping from the front does not lengthen a text. -/
theorem length_dropWhile_le (p : Sign → Bool) (s : List Sign)
    : (s.dropWhile p).length ≤ s.length :=
  (List.dropWhile_sublist p).length_le

/-- The attributes with their values as written, given the names that stood before. -/
def attributesFrom (seen : List (List Sign)) (s : List Sign) : List (List Sign × List Sign) :=
  match _hs : s.dropWhile isSpace with
  | [] => []
  | c :: rest =>
    let name := c :: rest.takeWhile continuesName
    match _hr : (rest.dropWhile continuesName).dropWhile isSpace with
    | [] => []
    | .char '=' :: value =>
      if seen.contains name then attributesFrom seen (value.dropWhile (!isSpace ·))
      else
        match _hv : value.dropWhile isSpace with
        | [] => []
        | q :: quoted =>
          if q = .char '"' ∨ q = .char '\'' then
            match _hq : quoted.dropWhile (· != q) with
            | [] => []
            | _ :: after => (name, quoted.takeWhile (· != q)) :: attributesFrom (name :: seen) after
          else attributesFrom (name :: seen) (quoted.dropWhile (!isSpace ·))
    | next => attributesFrom seen next
termination_by s.length
decreasing_by
  all_goals
    have h₁ := length_dropWhile_le isSpace s
    have h₂ := length_dropWhile_le continuesName rest
    have h₃ := length_dropWhile_le isSpace (rest.dropWhile continuesName)
    simp only [_hs, _hr, List.length_cons] at h₁ h₃
  · have h₄ := length_dropWhile_le (!isSpace ·) value
    omega
  · have h₄ := length_dropWhile_le isSpace value
    have h₅ := length_dropWhile_le (· != q) quoted
    simp only [_hv, _hq, List.length_cons] at h₄ h₅
    omega
  · have h₄ := length_dropWhile_le isSpace value
    have h₅ := length_dropWhile_le (!isSpace ·) quoted
    simp only [_hv, List.length_cons] at h₄
    omega
  · omega

/-- The name that signs spell. Signs that are no text name nothing anyone looks for. -/
def nameOf (signs : List Sign) : String := String.ofList ((Sign.text? signs).getD [])

/-- The text that signs write, if they are text and their references can be resolved. -/
def contentOf? (signs : List Sign) : Option String := do
  let written ← Sign.text? signs
  let text ← unescape? written
  return String.ofList text

/-- A name and the attributes in their order. The value of an attribute is missing if it cannot
be told. -/
structure Tag where
  name : String
  attributes : List (String × Option String)
deriving DecidableEq, Repr

namespace Tag

/-- The name in a tag with some content: it ends before the first white space. -/
def nameSigns (content : List Sign) : List Sign := content.takeWhile (!isSpace ·)

/-- The tag with some content. -/
def ofContent (content : List Sign) : Tag where
  name := nameOf (nameSigns content)
  attributes := (attributesFrom [] (content.dropWhile (!isSpace ·))).map fun (name, value) =>
    (nameOf name, contentOf? value)

/-- The value of an attribute. One whose value cannot be told is as good as absent. -/
def attribute? (tag : Tag) (name : String) : Option String := (tag.attributes.lookup name).join

/-- The attribute says that something is switched on. -/
def isOn (tag : Tag) (name : String) : Bool :=
  match tag.attribute? name with
  | some value => value == "1" || value == "true"
  | none => false

/-- The whole number below a limit that an attribute gives. -/
def nat? (tag : Tag) (name : String) (limit : Nat) : Option Nat := do
  let value ← tag.attribute? name
  Number.readNat? limit value.toList

/-- The number that an attribute gives. -/
def number? (tag : Tag) (name : String) : Option Number.Binary64 := do
  let value ← tag.attribute? name
  Number.readBinary64? value.toList

end Tag

end Spreadsheet.Xml
