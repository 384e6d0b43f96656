import Spreadsheet.Proofs.Xml.Escaping
import Spreadsheet.Xml.Event

/-! Tags that are written with plain names and escaped values are read as they were meant.
-/

namespace Spreadsheet.Xml

open Spreadsheet.Text

/-- Names of elements and attributes start with a letter and go on with letters, digits and
colons.
-/
def isName (s : String) : Bool :=
  s.toList.head?.any (·.isAlpha) && s.toList.all fun c => c.isAlphanum || c == ':'

/-- A tag has a name, and no two of its attributes have the same one. -/
structure IsTag (name : String) (attributes : List (String × String)) : Prop where
  name : isName name = true
  named : ∀ a ∈ attributes, isName a.1 = true
  distinct : (attributes.map (·.1)).Nodup

/-- What is read of the attributes of a tag. -/
def readAttributes (attributes : List (String × String)) : List (String × Option String) :=
  attributes.map fun a => (a.1, some (legalPart a.2))

theorem attribute?_readAttributes (name key : String) (attributes : List (String × String))
    : (⟨name, readAttributes attributes⟩ : Tag).attribute? key
      = (attributes.lookup key).map legalPart := by
  rw [Tag.attribute?]
  induction attributes with
  | nil => rfl
  | cons first rest ih =>
      rw [readAttributes, List.map_cons, List.lookup_cons, List.lookup_cons]
      cases key == first.1 with
      | true => rfl
      | false => exact ih

-----------------------------------------------------------------------------------------
-- Signs
-----------------------------------------------------------------------------------------

theorem ofText_append (s t : String) : Sign.ofText (s ++ t) = Sign.ofText s ++ Sign.ofText t := by
  rw [Sign.ofText, String.toList_append, List.map_append]
  rfl

theorem ofText_injective {s t : String} (h : Sign.ofText s = Sign.ofText t) : s = t := by
  have texts := congrArg Sign.text? h
  rw [Sign.ofText, Sign.ofText, Sign.text?_map_char, Sign.text?_map_char] at texts
  exact String.toList_injective (Option.some.inj texts)

theorem nameOf_ofText (s : String) : nameOf (Sign.ofText s) = s := by
  rw [nameOf, Sign.ofText, Sign.text?_map_char, Option.getD_some, String.ofList_toList]

theorem contentOf?_encodes {form text : List Char} (h : Encodes form text)
    : contentOf? (form.map .char) = some (String.ofList text) := by
  simp only [contentOf?, Sign.text?_map_char, h.unescape?_eq, Option.bind_eq_bind, Option.bind_some]
  rfl

theorem contentOf?_escape (s : String)
    : contentOf? (Sign.ofText (escape s)) = some (legalPart s) := by
  rw [Sign.ofText, contentOf?_encodes (encodes_escape s), String.ofList_toList]

/-- The signs in names have no part in markup. -/
structure IsNameSign (sign : Sign) : Prop where
  notSpace : isSpace sign = false
  continues : continuesName sign = true
  noQuote : sign ≠ .char '"' ∧ sign ≠ .char '\''
  noBracket : sign ≠ .char '>'
  noMark : sign ≠ .char '!' ∧ sign ≠ .char '?' ∧ sign ≠ .char '/'
  noEndSpace : isEndSpace sign = false

theorem isNameSign_of_mem {s : String} (name : isName s = true) {sign : Sign}
    (member : sign ∈ Sign.ofText s)
    : IsNameSign sign := by
  obtain ⟨c, inside, rfl⟩ := List.mem_map.mp member
  rw [isName, Bool.and_eq_true, List.all_eq_true] at name
  have letter := name.2 c inside
  have differs : ∀ d : Char, (d.isAlphanum || d == ':') = false → c ≠ d := by
    rintro d other rfl
    rw [letter] at other
    cases other
  have differs : ∀ d : Char, (d.isAlphanum || d == ':') = false → Sign.char c ≠ .char d :=
    fun d other same => differs d other (Sign.char.inj same)
  have notSpace : isSpace (.char c) = false := by
    simp only [isSpace, Bool.or_eq_false_iff, beq_eq_false_iff_ne]
    exact ⟨⟨⟨differs _ rfl, differs _ rfl⟩, differs _ rfl⟩, differs _ rfl⟩
  refine ⟨notSpace, ?_, ⟨differs _ rfl, differs _ rfl⟩, differs _ rfl,
    ⟨differs _ rfl, differs _ rfl, differs _ rfl⟩, ?_⟩
  · rw [continuesName, notSpace, Bool.not_false, Bool.and_true, bne_iff_ne]
    exact differs _ rfl
  · rw [isEndSpace, notSpace, Bool.false_or, beq_eq_false_iff_ne]
    exact differs _ rfl

/-- A name starts with a sign that is no blank. -/
theorem exists_ofText_eq_cons {s : String} (name : isName s = true)
    : ∃ sign rest, Sign.ofText s = sign :: rest := by
  rw [isName, Bool.and_eq_true] at name
  cases chars : s.toList with
  | nil =>
      rw [chars] at name
      cases name.1
  | cons c rest => exact ⟨.char c, rest.map .char, by rw [Sign.ofText, chars, List.map_cons]⟩

-----------------------------------------------------------------------------------------
-- Attributes
-----------------------------------------------------------------------------------------

theorem ofText_attributesText_cons (name value : String) (rest : List (String × String))
    : Sign.ofText (attributesText ((name, value) :: rest))
      = .char ' ' :: (Sign.ofText name ++ .char '=' :: .char '"' ::
        (Sign.ofText (escape value) ++ .char '"' :: Sign.ofText (attributesText rest))) := by
  simp [attributesText, Sign.ofText]

/-- The reading of one attribute, given what each of its steps leaves. -/
theorem attributesFrom_step {seen : List (List Sign)} {s rest value quoted after : List Sign}
    {first close : Sign} (start : s.dropWhile isSpace = first :: rest)
    (equals : (rest.dropWhile continuesName).dropWhile isSpace = .char '=' :: value)
    (fresh : first :: rest.takeWhile continuesName ∉ seen)
    (open' : value.dropWhile isSpace = .char '"' :: quoted)
    (closed : quoted.dropWhile (· != .char '"') = close :: after)
    : attributesFrom seen s
      = (first :: rest.takeWhile continuesName, quoted.takeWhile (· != .char '"'))
        :: attributesFrom ((first :: rest.takeWhile continuesName) :: seen) after := by
  rw [attributesFrom.eq_def]
  split
  · next h => rw [start] at h; cases h
  · next h =>
      rw [start] at h
      cases h
      dsimp only
      split
      · next h => rw [equals] at h; cases h
      · next h =>
          rw [equals] at h
          cases h
          rw [if_neg (by rwa [List.contains_iff_mem])]
          split
          · next h => rw [open'] at h; cases h
          · next h =>
              rw [open'] at h
              cases h
              rw [if_pos (.inl rfl)]
              split
              · next h => rw [closed] at h; cases h
              · next h => rw [closed] at h; cases h; rfl
      · next h => exact absurd equals (h value)

/-- The first attribute is read up to its closing quote. -/
theorem attributesFrom_cons {seen : List (List Sign)} {name : String} (value : String)
    (named : isName name = true) (fresh : Sign.ofText name ∉ seen) (rest : List Sign)
    : attributesFrom seen (.char ' ' :: (Sign.ofText name ++ .char '=' :: .char '"' ::
        (Sign.ofText (escape value) ++ .char '"' :: rest)))
      = (Sign.ofText name, Sign.ofText (escape value))
        :: attributesFrom (Sign.ofText name :: seen) rest := by
  obtain ⟨first, others, spelled⟩ := exists_ofText_eq_cons named
  have nameSign : ∀ sign ∈ first :: others, IsNameSign sign := by
    rw [← spelled]
    exact fun _ member => isNameSign_of_mem named member
  have continues : ∀ sign ∈ others, continuesName sign = true :=
    fun sign member => (nameSign sign (List.mem_cons_of_mem _ member)).continues
  have unquoted : ∀ sign ∈ Sign.ofText (escape value), (sign != .char '"') = true := by
    intro sign member
    obtain ⟨c, inside, rfl⟩ := List.mem_map.mp member
    rw [bne_iff_ne]
    exact fun same => (ne_of_mem_escape inside).2.2.1 (Sign.char.inj same)
  generalize Sign.ofText (escape value) = written at unquoted
  rw [spelled] at fresh ⊢
  have whole : ∀ s : List Sign, (others ++ .char '=' :: s).takeWhile continuesName = others := by
    intro s
    rw [List.takeWhile_append_of_pos continues]
    exact List.append_nil others
  have start : (Sign.char ' ' :: (first :: others ++ .char '=' :: .char '"' ::
      (written ++ .char '"' :: rest))).dropWhile isSpace
      = first :: (others ++ .char '=' :: .char '"' :: (written ++ .char '"' :: rest)) := by
    have blank : isSpace (.char ' ') = true := rfl
    simp only [List.dropWhile_cons, blank, if_true, List.cons_append,
      (nameSign first List.mem_cons_self).notSpace, Bool.false_eq_true, if_false]
  have equals : ((others ++ .char '=' :: .char '"' :: (written ++ .char '"' :: rest)).dropWhile
        continuesName).dropWhile isSpace
      = .char '=' :: .char '"' :: (written ++ .char '"' :: rest) := by
    rw [List.dropWhile_append_of_pos continues]
    rfl
  have closed : (written ++ .char '"' :: rest).dropWhile (· != .char '"') = .char '"' :: rest := by
    rw [List.dropWhile_append_of_pos unquoted]
    rfl
  have inside : (written ++ .char '"' :: rest).takeWhile (· != .char '"') = written := by
    rw [List.takeWhile_append_of_pos unquoted]
    exact List.append_nil written
  rw [attributesFrom_step start equals (by rwa [whole]) rfl closed, whole, inside]

/-- All attributes are read, by induction on them. None of their names stood in the tag before. -/
theorem attributesFrom_attributesText {attributes : List (String × String)}
    (named : ∀ a ∈ attributes, isName a.1 = true) (distinct : (attributes.map (·.1)).Nodup)
    {seen : List (List Sign)} (fresh : ∀ a ∈ attributes, Sign.ofText a.1 ∉ seen)
    : attributesFrom seen (Sign.ofText (attributesText attributes))
      = attributes.map fun a => (Sign.ofText a.1, Sign.ofText (escape a.2)) := by
  induction attributes generalizing seen with
  | nil => rw [attributesFrom.eq_def]; rfl
  | cons a rest ih =>
      rw [List.map_cons, List.nodup_cons] at distinct
      have fresh_rest : ∀ b ∈ rest, Sign.ofText b.1 ∉ Sign.ofText a.1 :: seen := by
        intro b member known
        rcases List.mem_cons.mp known with same | known
        · exact distinct.1 (ofText_injective same ▸ List.mem_map_of_mem member)
        · exact fresh b (List.mem_cons_of_mem _ member) known
      rw [ofText_attributesText_cons, attributesFrom_cons a.2 (named a List.mem_cons_self)
        (fresh a List.mem_cons_self), ih (fun b member => named b (List.mem_cons_of_mem _ member))
        distinct.2 fresh_rest, List.map_cons]

-----------------------------------------------------------------------------------------
-- Tags
-----------------------------------------------------------------------------------------

/-- The content of a tag in a document. -/
def tagText (name : String) (attributes : List (String × String)) : String :=
  name ++ attributesText attributes

/-- Attributes start with a blank. -/
theorem ofText_attributesText_cases (attributes : List (String × String))
    : Sign.ofText (attributesText attributes) = []
      ∨ ∃ rest, Sign.ofText (attributesText attributes) = .char ' ' :: rest := by
  cases attributes with
  | nil => exact .inl rfl
  | cons a rest => exact .inr ⟨_, ofText_attributesText_cons a.1 a.2 rest⟩

/-- The name of a tag ends where its attributes start. -/
theorem nameSigns_tagText {name : String} (named : isName name = true)
    (attributes : List (String × String))
    : Tag.nameSigns (Sign.ofText (tagText name attributes)) = Sign.ofText name
      ∧ (Sign.ofText (tagText name attributes)).dropWhile (!isSpace ·)
        = Sign.ofText (attributesText attributes) := by
  have inside : ∀ sign ∈ Sign.ofText name, (!isSpace sign) = true := by
    intro sign member
    rw [(isNameSign_of_mem named member).notSpace, Bool.not_false]
  have blank : isSpace (.char ' ') = true := rfl
  rw [tagText, ofText_append, Tag.nameSigns, List.takeWhile_append_of_pos inside,
    List.dropWhile_append_of_pos inside]
  rcases ofText_attributesText_cases attributes with none | ⟨rest, some⟩
  · rw [none]
    exact ⟨List.append_nil _, rfl⟩
  · rw [some]
    simp only [List.takeWhile_cons, List.dropWhile_cons, blank, Bool.not_true, Bool.false_eq_true,
      if_false, List.append_nil, and_self]

/-- A written tag is read with its name and the texts of its attributes. -/
theorem ofContent_tagText {name : String} {attributes : List (String × String)}
    (tag : IsTag name attributes)
    : Tag.ofContent (Sign.ofText (tagText name attributes))
      = ⟨name, readAttributes attributes⟩ := by
  obtain ⟨start, rest⟩ := nameSigns_tagText tag.name attributes
  rw [Tag.ofContent, start, rest, nameOf_ofText,
    attributesFrom_attributesText tag.named tag.distinct (fun _ _ => List.not_mem_nil),
    List.map_map, readAttributes]
  refine congrArg (Tag.mk name) (List.map_congr_left fun a _ => ?_)
  simp only [Function.comp_apply, nameOf_ofText, contentOf?_escape]

-----------------------------------------------------------------------------------------
-- Ends of tags
-----------------------------------------------------------------------------------------

/-- Signs that neither close a tag nor open a quote stand inside it. -/
theorem splitTag_unquoted {inside : List Sign}
    (plain : ∀ sign ∈ inside, sign ≠ .char '>' ∧ sign ≠ .char '"' ∧ sign ≠ .char '\'')
    (s : List Sign)
    : splitTag none (inside ++ s) = (inside ++ (splitTag none s).1, (splitTag none s).2) := by
  induction inside with
  | nil => rfl
  | cons sign rest ih =>
      have here := plain sign List.mem_cons_self
      rw [List.cons_append, splitTag, if_neg here.1]
      simp only [here.2.1, here.2.2, or_self, if_false,
        ih fun other member => plain other (List.mem_cons_of_mem _ member), List.cons_append]

/-- Signs in quotes stand inside a tag, by induction on them. -/
theorem splitTag_quoted {inside : List Sign} (unquoted : ∀ sign ∈ inside, sign ≠ .char '"')
    (s : List Sign)
    : splitTag (some (.char '"')) (inside ++ .char '"' :: s)
      = (inside ++ .char '"' :: (splitTag none s).1, (splitTag none s).2) := by
  induction inside with
  | nil => rw [List.nil_append, splitTag, if_pos rfl]; rfl
  | cons sign rest ih =>
      rw [List.cons_append, splitTag, if_neg (unquoted sign List.mem_cons_self)]
      simp only [ih fun other member => unquoted other (List.mem_cons_of_mem _ member),
        List.cons_append]

theorem splitTag_name {name : String} (named : isName name = true) (s : List Sign)
    : splitTag none (Sign.ofText name ++ s)
      = (Sign.ofText name ++ (splitTag none s).1, (splitTag none s).2) := by
  refine splitTag_unquoted (fun sign member => ?_) s
  have nameSign := isNameSign_of_mem named member
  exact ⟨nameSign.noBracket, nameSign.noQuote⟩

/-- Attributes stand inside a tag, by induction on them. -/
theorem splitTag_attributesText {attributes : List (String × String)}
    (named : ∀ a ∈ attributes, isName a.1 = true) (s : List Sign)
    : splitTag none (Sign.ofText (attributesText attributes) ++ s)
      = (Sign.ofText (attributesText attributes) ++ (splitTag none s).1, (splitTag none s).2) := by
  induction attributes with
  | nil => rfl
  | cons a rest ih =>
      have unquoted : ∀ sign ∈ Sign.ofText (escape a.2), sign ≠ .char '"' := by
        intro sign member
        obtain ⟨c, inside, rfl⟩ := List.mem_map.mp member
        exact fun same => (ne_of_mem_escape inside).2.2.1 (Sign.char.inj same)
      have blank : ∀ s, splitTag none (.char ' ' :: s)
          = (.char ' ' :: (splitTag none s).1, (splitTag none s).2) := fun _ => rfl
      have opened : ∀ s, splitTag none (.char '=' :: .char '"' :: s)
          = (.char '=' :: .char '"' :: (splitTag (some (.char '"')) s).1,
            (splitTag (some (.char '"')) s).2) := fun _ => rfl
      rw [ofText_attributesText_cons]
      simp only [List.cons_append, List.append_assoc]
      rw [blank, splitTag_name (named a List.mem_cons_self), opened, splitTag_quoted unquoted,
        ih fun b member => named b (List.mem_cons_of_mem _ member)]

/-- The content of a tag stands inside it, whatever follows. -/
theorem splitTag_tagText {name : String} {attributes : List (String × String)}
    (tag : IsTag name attributes) (s : List Sign)
    : splitTag none (Sign.ofText (tagText name attributes) ++ s)
      = (Sign.ofText (tagText name attributes) ++ (splitTag none s).1, (splitTag none s).2) := by
  rw [tagText, ofText_append, List.append_assoc, splitTag_name tag.name,
    splitTag_attributesText tag.named, List.append_assoc]

/-- Attributes end in a quote, by induction on them. -/
theorem getLast?_attributesText (attributes : List (String × String))
    : attributes = []
      ∨ (Sign.ofText (attributesText attributes)).getLast? = some (.char '"') := by
  induction attributes with
  | nil => exact .inl rfl
  | cons a rest ih =>
      right
      rw [ofText_attributesText_cons]
      simp only [List.getLast?_cons, List.getLast?_append, List.getLast?_cons, Option.some_or,
        Option.getD_some]
      rcases ih with rfl | quote
      · rfl
      · rw [quote, Option.getD_some]

/-- The content of a tag does not end in a slash. -/
theorem getLast?_tagText_ne {name : String} (named : isName name = true)
    (attributes : List (String × String))
    : (Sign.ofText (tagText name attributes)).getLast? ≠ some (.char '/') := by
  rw [tagText, ofText_append, List.getLast?_append]
  rcases getLast?_attributesText attributes with rfl | quote
  · intro last
    have member : Sign.char '/' ∈ Sign.ofText name := List.mem_of_getLast? last
    exact (isNameSign_of_mem named member).noMark.2.2 rfl
  · rw [quote, Option.some_or]
    decide

end Spreadsheet.Xml
