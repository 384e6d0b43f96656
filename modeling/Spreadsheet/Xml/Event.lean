import Spreadsheet.Xml.Source
import Spreadsheet.Xml.Tag

/-! XML documents as the stream of what stands in them: tags and texts. Reading checks no more
than that markup is well formed in itself and that end tags match the open start tags. It gives
what it finds up to the first fault, and an end without all end tags is none.
-/

namespace Spreadsheet.Xml

open Spreadsheet.Text

inductive Event where
  | start (tag : Tag)
  | empty (tag : Tag)
  | close (name : String)
  /-- Text between tags; it is missing if it cannot be told. -/
  | text (content : Option String)
deriving DecidableEq, Repr

/-- The events up to the end or up to a fault. -/
structure Scan where
  events : List Event
  faulty : Bool
deriving DecidableEq, Repr

namespace Scan

def done : Scan := ⟨[], false⟩

def fault : Scan := ⟨[], true⟩

def before (event : Event) (s : Scan) : Scan := { s with events := event :: s.events }

end Scan

/-- The characters of markup as signs. -/
def mark (s : String) : List Sign := Sign.ofText s

/-- What stands behind the first place where a mark is found. -/
def behind? (mark : List Sign) : List Sign → Option (List Sign)
  | [] => none
  | c :: rest =>
    if mark.isPrefixOf (c :: rest) then some (rest.drop (mark.length - 1)) else behind? mark rest

/-- What stands behind a declaration of document type, given the place where its rest starts. It
ends where as many angle brackets are closed as opened in the same block, and it must not be
blank. -/
def behindDoctype? (isFilled : Bool) (block depth place : Nat) : List Sign → Option (List Sign)
  | [] => none
  | c :: rest =>
    let here := Source.blockOf place
    let depth := if here = block then depth else 0
    let next := place + c.byteCount
    if c = .char '>' then
      if depth = 0 then if isFilled then some rest else none
      else behindDoctype? true here (depth - 1) next rest
    else
      behindDoctype? (isFilled || !isSpace c) here
        (if c = .char '<' then depth + 1 else depth) next rest

/-- The sign is a character of a word in capitals, whatever the case of letters. -/
def spells (sign : Sign) (c : Char) : Bool :=
  match sign with
  | .char d => d.toUpper == c
  | .stray _ => false

/-- The text starts with a word, whatever the case of letters. -/
def startsWithWord : List Char → List Sign → Bool
  | [], _ => true
  | c :: word, sign :: s => spells sign c && startsWithWord word s
  | _ :: _, [] => false

/-- What stands before the first angle bracket. -/
def beforeBracket (s : List Sign) : List Sign := s.takeWhile (· != .char '>')

/-- What stands behind the first angle bracket, if there is one. -/
def behindBracket? (s : List Sign) : Option (List Sign) :=
  match s.dropWhile (· != .char '>') with
  | [] => none
  | _ :: after => some after

/-- What stands behind a comment, a character section or a declaration of document type, given
what follows the exclamation mark. Brackets have to be counted only if more are opened before the
first one is closed. -/
def behindDeclaration? (source : Source) (s : List Sign) : Option (List Sign) :=
  if (mark "--").isPrefixOf s then behind? (mark "-->") (s.drop 2)
  else if startsWithWord "[CDATA[".toList s then behind? (mark "]]>") (s.drop 7)
  else if startsWithWord "DOCTYPE".toList s then
    let content := beforeBracket (s.drop 7)
    if content.contains (.char '<') then
      let place := source.placeOf (s.drop 7)
      behindDoctype? false (Source.blockOf place) 0 place (s.drop 7)
    else if content.all isSpace then none
    else behindBracket? (s.drop 7)
  else none

/-- What stands before the first angle bracket outside quotes, and what stands behind it if
there is one. -/
def splitTag (quote : Option Sign) : List Sign → List Sign × Option (List Sign)
  | [] => ([], none)
  | c :: rest =>
    match quote with
    | none =>
      if c = .char '>' then ([], some rest)
      else
        let (inside, after) :=
          splitTag (if c = .char '"' ∨ c = .char '\'' then some c else none) rest
        (c :: inside, after)
    | some q =>
      let (inside, after) := splitTag (if c = q then none else some q) rest
      (c :: inside, after)

/-- What starts at the next tag, if there is one. -/
def fromTag? (s : List Sign) : Option (List Sign) :=
  match s.dropWhile (· != .char '<') with
  | [] => none
  | tag => some tag

/-- White space behind the name in an end tag. -/
def isEndSpace (sign : Sign) : Bool := isSpace sign || sign == .char '\x0C'

/-- The name in an end tag; white space behind it counts for nothing. -/
def endName (content : List Sign) : List Sign :=
  let name := (content.reverse.dropWhile isEndSpace).reverse
  if name.isEmpty then content else name

/-- A processing instruction is closed by a question mark of its own. -/
def isInstruction (content : List Sign) : Bool :=
  2 ≤ content.length && content.getLast? == some (.char '?')

/-- What stands behind a mark is no longer than the text, by induction on it. -/
theorem length_behind? {mark s r : List Sign} (h : behind? mark s = some r)
    : r.length ≤ s.length := by
  induction s with
  | nil => simp [behind?] at h
  | cons c rest ih =>
    unfold behind? at h
    split at h
    · cases h
      simp only [List.length_drop, List.length_cons]
      omega
    · have := ih h
      simp only [List.length_cons]
      omega

/-- What stands behind a declaration of document type is no longer than the text. -/
theorem length_behindDoctype? {s r : List Sign} {isFilled : Bool} {block depth place : Nat}
    (h : behindDoctype? isFilled block depth place s = some r) : r.length ≤ s.length := by
  induction s generalizing isFilled block depth place with
  | nil => simp [behindDoctype?] at h
  | cons c rest ih =>
    unfold behindDoctype? at h
    dsimp only at h
    generalize (if Source.blockOf place = block then depth else 0) = d at h
    simp only [List.length_cons]
    split at h
    · split at h
      · split at h
        · cases h
          omega
        · cases h
      · have := ih h
        omega
    · have := ih h
      omega

/-- What stands behind an angle bracket is no longer than the text. -/
theorem length_behindBracket? (s : List Sign) : ((behindBracket? s).getD []).length ≤ s.length := by
  have := length_dropWhile_le (· != .char '>') s
  unfold behindBracket?
  split
  · simp
  · simp_all
    omega

/-- What stands behind any declaration is no longer than the text, case by case. -/
theorem length_behindDeclaration? {source : Source} {s r : List Sign}
    (h : behindDeclaration? source s = some r) : r.length ≤ s.length := by
  unfold behindDeclaration? at h
  split at h
  · have := length_behind? h
    simp only [List.length_drop] at this
    omega
  · split at h
    · have := length_behind? h
      simp only [List.length_drop] at this
      omega
    · split at h
      · dsimp only at h
        split at h
        · have := length_behindDoctype? h
          simp only [List.length_drop] at this
          omega
        · split at h
          · cases h
          · have := length_behindBracket? (s.drop 7)
            simp only [h, Option.getD_some, List.length_drop] at this
            omega
      · cases h

/-- What stands behind a tag is no longer than the text. -/
theorem length_splitTag (quote : Option Sign) (s : List Sign)
    : ((splitTag quote s).2.getD []).length ≤ s.length := by
  fun_induction splitTag quote s <;> simp_all <;> omega

/-- What starts at the next tag is no longer than the text. -/
theorem length_fromTag? (s : List Sign) : ((fromTag? s).getD []).length ≤ s.length := by
  have := length_dropWhile_le (· != .char '<') s
  unfold fromTag?
  split
  · simp
  · simpa using this

/-- The events of what is left of a source, given the names of the open elements, innermost
first. -/
def scan (source : Source) (opened : List (List Sign)) (s : List Sign) : Scan :=
  match s with
  | [] => if source.isTorn then .fault else .done
  | .char '<' :: [] => if source.isTorn then .fault else .done
  | .char '<' :: .char '!' :: rest =>
    match _h : behindDeclaration? source rest with
    | none => .fault
    | some after => scan source opened after
  | .char '<' :: .char '?' :: rest =>
    match _h : source.onward? (behindBracket? rest) with
    | none => .fault
    | some after =>
      if isInstruction (beforeBracket rest) then scan source opened after else .fault
  | .char '<' :: .char '/' :: rest =>
    let name := endName (beforeBracket rest)
    match opened, _h : source.onward? (behindBracket? rest) with
    | top :: opened, some after =>
      if top = name then (scan source opened after).before (.close (nameOf name)) else .fault
    | _, _ => .fault
  | .char '<' :: c :: rest =>
    let content := (splitTag none (c :: rest)).1
    match _h : source.onward? (splitTag none (c :: rest)).2 with
    | none => .fault
    | some after =>
      if content.getLast? = some (.char '/') then
        (scan source opened after).before (.empty (.ofContent content.dropLast))
      else
        (scan source (Tag.nameSigns content :: opened) after).before (.start (.ofContent content))
  | c :: rest =>
    match _h : source.onward? (fromTag? rest) with
    | none => .fault
    | some after =>
      (scan source opened after).before
        (.text (contentOf? (c :: rest.takeWhile (· != .char '<'))))
termination_by s.length
decreasing_by
  · have := length_behindDeclaration? _h
    simp only [List.length_cons]
    omega
  · have h₁ := Source.length_onward? _h
    have h₂ := length_behindBracket? rest
    simp only [List.length_cons]
    omega
  · have h₁ := Source.length_onward? _h
    have h₂ := length_behindBracket? rest
    simp only [List.length_cons]
    omega
  all_goals first
    | have h₁ := Source.length_onward? _h
      have h₂ := length_splitTag none (c :: rest)
      simp only [List.length_cons] at h₂ ⊢
      omega
    | have h₁ := Source.length_onward? _h
      have h₂ := length_fromTag? rest
      simp only [List.length_cons]
      omega

/-- The events of a document; a byte order mark in front of it counts for nothing. -/
def events (source : Source) : Scan :=
  match source.signs with
  | .char '\uFEFF' :: s => scan source [] s
  | s => scan source [] s

end Spreadsheet.Xml
