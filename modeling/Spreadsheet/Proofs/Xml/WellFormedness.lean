import Spreadsheet.Proofs.Xml.DocumentReading
import Spreadsheet.Proofs.Xml.LegalText

/-! Well-formed documents, as a grammar of their characters that knows nothing of trees. Every
written document keeps to it, whatever the texts in its tree are, and a text comes back from it when
entities are replaced from left to right: what stands for an entity is not looked at again.
-/

namespace Spreadsheet.Xml

-----------------------------------------------------------------------------------------
-- The grammar
-----------------------------------------------------------------------------------------

/-- Documents hold three control characters and all others above them, apart from surrogates
and two characters at the end of the first plane.
-/
def IsDocumentChar (c : Char) : Prop :=
  c.toNat = 0x9 ∨ c.toNat = 0xA ∨ c.toNat = 0xD ∨ (0x20 ≤ c.toNat ∧ c.toNat ≤ 0xD7FF)
    ∨ (0xE000 ≤ c.toNat ∧ c.toNat ≤ 0xFFFD) ∨ (0x10000 ≤ c.toNat ∧ c.toNat ≤ 0x10FFFF)

/-- The references that a document knows without a declaration. -/
def references : List (List Char) :=
  ["amp", "lt", "gt", "quot", "apos"].map String.toList

/-- A text without some characters, in which every ampersand starts a reference. -/
inductive IsText (reserved : List Char) : List Char → Prop where
  | nil : IsText reserved []
  | char {c : Char} {s : List Char} (legal : IsDocumentChar c) (noReference : c ≠ '&')
      (free : c ∉ reserved) (rest : IsText reserved s) : IsText reserved (c :: s)
  | reference {name s : List Char} (known : name ∈ references) (rest : IsText reserved s)
    : IsText reserved ('&' :: name ++ ';' :: s)

/-- Names of elements and attributes without a character above ASCII. -/
def IsNameText (s : List Char) : Prop :=
  s.head?.any (fun c => c.isAlpha || c == ':' || c == '_') = true
    ∧ ∀ c ∈ s, (c.isAlphanum || c ∈ [':', '_', '-', '.']) = true

/-- Attributes with the given names. No name is used twice, and the values are in quotes. -/
inductive IsAttributes : List (List Char) → List Char → Prop where
  | nil : IsAttributes [] []
  | cons {name value s : List Char} {names : List (List Char)} (named : IsNameText name)
      (fresh : name ∉ names) (quoted : IsText ['<', '"'] value) (rest : IsAttributes names s)
    : IsAttributes (name :: names) (' ' :: name ++ '=' :: '"' :: value ++ '"' :: s)

mutual

/-- An element is an empty tag, or a start tag and an end tag of the same name with content
between them.
-/
inductive IsElement : List Char → Prop where
  | empty {name attributes : List Char} {names : List (List Char)} (named : IsNameText name)
      (tag : IsAttributes names attributes) : IsElement ('<' :: name ++ attributes ++ ['/', '>'])
  | pair {name attributes content : List Char} {names : List (List Char)}
      (named : IsNameText name) (tag : IsAttributes names attributes) (inner : IsContent content)
    : IsElement
        ('<' :: name ++ attributes ++ '>' :: content ++ '<' :: '/' :: name ++ ['>'])

/-- Content is made of texts and elements. -/
inductive IsContent : List Char → Prop where
  | nil : IsContent []
  | text {text s : List Char} (plain : IsText ['<', '>'] text) (rest : IsContent s)
    : IsContent (text ++ s)
  | element {element s : List Char} (nested : IsElement element) (rest : IsContent s)
    : IsContent (element ++ s)

end

/-- What documents start with. -/
def prolog : List Char := "<?xml version=\"1.0\" encoding=\"UTF-8\" standalone=\"yes\"?>\n".toList

/-- A document is one element behind its declaration. -/
def IsDocument (s : List Char) : Prop := ∃ root, IsElement root ∧ s = prolog ++ root

-----------------------------------------------------------------------------------------
-- Characters of documents
-----------------------------------------------------------------------------------------

theorem isDocumentChar_of_isLegal {c : Char} (legal : isLegal c = true) : IsDocumentChar c := by
  have most : c.toNat ≤ 0x10FFFF := by
    have valid := c.valid
    change c.toNat.isValidChar at valid
    rw [Nat.isValidChar] at valid
    omega
  simp only [isLegal, Bool.or_eq_true, beq_iff_eq, Bool.and_eq_true, decide_eq_true_eq] at legal
  rcases legal with ((((rfl | rfl) | rfl) | low) | high) | above
  · exact .inl rfl
  · exact .inr (.inl rfl)
  · exact .inr (.inr (.inl rfl))
  · exact .inr (.inr (.inr (.inl low)))
  · exact .inr (.inr (.inr (.inr (.inl high))))
  · exact .inr (.inr (.inr (.inr (.inr ⟨above, most⟩))))

/-- The characters of documents are those that are written. -/
theorem isDocumentChar_iff {c : Char} : IsDocumentChar c ↔ isLegal c = true := by
  refine ⟨fun known => ?_, isDocumentChar_of_isLegal⟩
  simp only [isLegal, Bool.or_eq_true, beq_iff_eq, Bool.and_eq_true, decide_eq_true_eq]
  have same : ∀ d : Char, c.toNat = d.toNat → c = d := fun _ => Char.toNat_inj.mp
  rcases known with tab | line | feed | low | high | ⟨above, -⟩
  · exact .inl (.inl (.inl (.inl (.inl (same '\t' tab)))))
  · exact .inl (.inl (.inl (.inl (.inr (same '\n' line)))))
  · exact .inl (.inl (.inl (.inr (same '\r' feed))))
  · exact .inl (.inl (.inr low))
  · exact .inl (.inr high)
  · exact .inr above

instance (c : Char) : Decidable (IsDocumentChar c) := decidable_of_iff _ isDocumentChar_iff.symm

theorem forall_isDocumentChar {s : List Char} (legal : s.all isLegal = true)
    : ∀ c ∈ s, IsDocumentChar c :=
  fun c member => isDocumentChar_of_isLegal (List.all_eq_true.mp legal c member)

theorem IsNameText.legal {s : List Char} (named : IsNameText s) {c : Char} (member : c ∈ s)
    : IsDocumentChar c := by
  have sign := named.2 c member
  rw [Bool.or_eq_true, decide_eq_true_eq] at sign
  rcases sign with letter | sign
  · exact isDocumentChar_of_isLegal (isLegal_of_isAlphanum letter)
  · exact forall_isDocumentChar (s := [':', '_', '-', '.']) (by decide) c sign

theorem IsText.legal {reserved s : List Char} (text : IsText reserved s)
    : ∀ c ∈ s, IsDocumentChar c := by
  induction text with
  | nil => nofun
  | char legal _ _ _ ih => exact List.forall_mem_cons.mpr ⟨legal, ih⟩
  | reference known _ ih =>
      have each : references.all (·.all isLegal) = true := by decide
      simp only [List.cons_append, List.forall_mem_cons, List.forall_mem_append]
      exact ⟨by decide, forall_isDocumentChar (List.all_eq_true.mp each _ known), by decide, ih⟩

theorem IsAttributes.legal {names : List (List Char)} {s : List Char}
    (attributes : IsAttributes names s)
    : ∀ c ∈ s, IsDocumentChar c := by
  induction attributes with
  | nil => nofun
  | cons named _ quoted _ ih =>
      simp only [List.cons_append, List.append_assoc, List.forall_mem_cons, List.forall_mem_append]
      exact ⟨by decide, fun _ => named.legal, by decide, by decide, quoted.legal, by decide, ih⟩

mutual

theorem IsElement.legal {s : List Char} : IsElement s → ∀ c ∈ s, IsDocumentChar c
  | .empty named tag => by
      simp only [List.cons_append, List.append_assoc, List.forall_mem_cons, List.forall_mem_append]
      exact ⟨by decide, fun _ => named.legal, tag.legal, by decide, by decide, nofun⟩
  | .pair named tag inner => by
      have within := inner.legal
      simp only [List.cons_append, List.append_assoc, List.forall_mem_cons, List.forall_mem_append]
      exact ⟨by decide, fun _ => named.legal, tag.legal, by decide, within, by decide,
        by decide, fun _ => named.legal, by decide, nofun⟩

theorem IsContent.legal {s : List Char} : IsContent s → ∀ c ∈ s, IsDocumentChar c
  | .nil => nofun
  | .text plain rest => List.forall_mem_append.mpr ⟨plain.legal, rest.legal⟩
  | .element nested rest => List.forall_mem_append.mpr ⟨nested.legal, rest.legal⟩

end

/-- Nothing but characters that documents hold is in one. -/
theorem IsDocument.legal {s : List Char} (isDocument : IsDocument s)
    : ∀ c ∈ s, IsDocumentChar c := by
  obtain ⟨root, element, rfl⟩ := isDocument
  exact List.forall_mem_append.mpr ⟨forall_isDocumentChar (by decide +kernel), element.legal⟩

-----------------------------------------------------------------------------------------
-- Written texts and tags
-----------------------------------------------------------------------------------------

theorem isNameText_of_isName {s : String} (named : isName s = true) : IsNameText s.toList := by
  rw [isName, Bool.and_eq_true, List.all_eq_true] at named
  obtain ⟨start, each⟩ := named
  constructor
  · cases signs : s.toList with
    | nil =>
        rw [signs] at start
        cases start
    | cons c rest =>
        rw [signs] at start
        exact Bool.or_eq_true_iff.mpr (.inl (Bool.or_eq_true_iff.mpr (.inl start)))
  · intro c member
    have sign := each c member
    rw [Bool.or_eq_true, beq_iff_eq] at sign
    rcases sign with letter | rfl
    · rw [letter, Bool.true_or]
    · decide

namespace IsText

variable {reserved reserved' s s' : List Char}

theorem append (text : IsText reserved s) (text' : IsText reserved s')
    : IsText reserved (s ++ s') := by
  induction text with
  | nil => exact text'
  | char legal noReference free _ ih => exact .char legal noReference free ih
  | reference known _ ih =>
      rw [List.append_assoc, List.cons_append]
      exact .reference known ih

theorem mono (text : IsText reserved s) (fewer : reserved' ⊆ reserved) : IsText reserved' s := by
  induction text with
  | nil => exact .nil
  | char legal noReference free _ ih =>
      exact .char legal noReference (fun member => free (fewer member)) ih
  | reference known _ ih => exact .reference known ih

/-- Texts of characters make up a text, by induction on the characters. -/
theorem flatMap {form : Char → List Char} (each : ∀ c, IsText reserved (form c)) (s : List Char)
    : IsText reserved (s.flatMap form) := by
  induction s with
  | nil => exact .nil
  | cons c rest ih =>
      rw [List.flatMap_cons]
      exact (each c).append ih

end IsText

theorem isText_escapeChar (c : Char) : IsText ['<', '>', '"', '\''] (escapeChar c) := by
  unfold escapeChar
  cases named : entity? c with
  | some name =>
      have known : name.toList ∈ references := by
        rcases entity?_cases named with ⟨-, rfl⟩ | ⟨-, rfl⟩ | ⟨-, rfl⟩ | ⟨-, rfl⟩ | ⟨-, rfl⟩ <;>
          decide
      exact .reference known .nil
  | none =>
      dsimp only
      split
      · next legal =>
          have plain := ne_of_entity?_eq_none named
          refine .char (isDocumentChar_of_isLegal legal) plain.1 ?_ .nil
          simpa only [List.mem_cons, List.not_mem_nil, or_false, not_or] using plain.2
      · exact .nil

/-- An escaped text has no markup in it. -/
theorem isText_escape (s : String) : IsText ['<', '>', '"', '\''] (escape s).toList := by
  rw [escape, String.toList_ofList]
  exact .flatMap isText_escapeChar s.toList

/-- A text that shows its quotes starts no tag. -/
theorem isText_escapePlain (s : String) : IsText ['<', '>'] (escapePlain s).toList := by
  rw [escapePlain, String.toList_ofList]
  refine .flatMap (fun c => ?_) s.toList
  unfold escapePlainChar
  split
  · next quote =>
      rcases quote with rfl | rfl <;> exact .char (by decide) (by decide) (by decide) .nil
  · exact (isText_escapeChar c).mono (by decide)

/-- Attributes with distinct names are written well, by induction on them. -/
theorem isAttributes_attributesText {attributes : List (String × String)}
    (named : ∀ a ∈ attributes, isName a.1 = true) (distinct : (attributes.map (·.1)).Nodup)
    : IsAttributes (attributes.map (·.1.toList)) (attributesText attributes).toList := by
  induction attributes with
  | nil => exact .nil
  | cons first rest ih =>
      rw [List.forall_mem_cons] at named
      rw [List.map_cons, List.nodup_cons] at distinct
      have fresh : first.1.toList ∉ rest.map (·.1.toList) := by
        intro member
        obtain ⟨a, inside, same⟩ := List.mem_map.mp member
        exact distinct.1 (String.toList_injective same ▸ List.mem_map_of_mem inside)
      have whole : (attributesText (first :: rest)).toList
          = ' ' :: first.1.toList ++ '=' :: '"' :: (escape first.2).toList
            ++ '"' :: (attributesText rest).toList := by
        simp [attributesText]
      rw [whole]
      exact .cons (isNameText_of_isName named.1) fresh
        ((isText_escape first.2).mono (by decide)) (ih named.2 distinct.2)

-----------------------------------------------------------------------------------------
-- Written documents
-----------------------------------------------------------------------------------------

section Render

variable {name : String} {attributes : List (String × String)} (tag : IsTag name attributes)

include tag

theorem isElement_leaf : IsElement (Node.leaf name attributes).render.toList := by
  have written : (Node.leaf name attributes).render.toList
      = '<' :: name.toList ++ (attributesText attributes).toList ++ ['/', '>'] := by
    simp [Node.render]
  rw [written]
  exact .empty (isNameText_of_isName tag.name)
    (isAttributes_attributesText tag.named tag.distinct)

theorem isElement_element {content : List Node} (inner : IsContent (renderAll content).toList)
    : IsElement (Node.element name attributes content).render.toList := by
  have written : (Node.element name attributes content).render.toList
      = '<' :: name.toList ++ (attributesText attributes).toList
        ++ '>' :: (renderAll content).toList ++ '<' :: '/' :: name.toList ++ ['>'] := by
    simp [Node.render]
  rw [written]
  exact .pair (isNameText_of_isName tag.name)
    (isAttributes_attributesText tag.named tag.distinct) inner

end Render

mutual

/-- The written form of a piece is content, by induction on the tree. -/
theorem isContent_render (node : Node) (formed : node.EachTag IsTag) {s : List Char}
    (rest : IsContent s)
    : IsContent (node.render.toList ++ s) := by
  cases node with
  | text content => exact .text ((isText_escape content).mono (by decide)) rest
  | plain content => exact .text (isText_escapePlain content) rest
  | leaf name attributes => exact .element (isElement_leaf formed) rest
  | element name attributes content =>
      have inner := isContent_renderAll content formed.2
      exact .element (isElement_element formed.1 inner) rest

theorem isContent_renderAll (nodes : List Node) (formed : EachTagOf IsTag nodes)
    : IsContent (renderAll nodes).toList := by
  cases nodes with
  | nil => exact .nil
  | cons node rest =>
      rw [renderAll, String.toList_append]
      exact isContent_render node formed.1 (isContent_renderAll rest formed.2)

end

theorem toList_document (root : Node) : (document root).toList = prolog ++ root.render.toList :=
  String.toList_append

/-- The document of an element is well-formed if its tags have names and distinct attributes. -/
theorem isDocument_document {name : String} {attributes : List (String × String)}
    {content : List Node} (formed : (Node.element name attributes content).EachTag IsTag)
    : IsDocument (document (.element name attributes content)).toList :=
  ⟨_, isElement_element formed.1 (isContent_renderAll content formed.2), toList_document _⟩

-----------------------------------------------------------------------------------------
-- Entities that are replaced
-----------------------------------------------------------------------------------------

/-- Replaces the five named entities, each by its character, from left to right. -/
def replaceEntities : List Char → List Char
  | '&' :: 'a' :: 'm' :: 'p' :: ';' :: rest => '&' :: replaceEntities rest
  | '&' :: 'l' :: 't' :: ';' :: rest => '<' :: replaceEntities rest
  | '&' :: 'g' :: 't' :: ';' :: rest => '>' :: replaceEntities rest
  | '&' :: 'q' :: 'u' :: 'o' :: 't' :: ';' :: rest => '"' :: replaceEntities rest
  | '&' :: 'a' :: 'p' :: 'o' :: 's' :: ';' :: rest => '\'' :: replaceEntities rest
  | c :: rest => c :: replaceEntities rest
  | [] => []

variable {reserved form text s : List Char}

/-- Only an ampersand starts an entity. -/
theorem replaceEntities_cons {c : Char} (noReference : c ≠ '&') (rest : List Char)
    : replaceEntities (c :: rest) = c :: replaceEntities rest := by
  rw [replaceEntities] <;> intros <;> contradiction

/-- An entity is replaced by its character. -/
theorem replaceEntities_entity {c : Char} {name : String} (named : entity? c = some name)
    (rest : List Char)
    : replaceEntities ('&' :: name.toList ++ ';' :: rest) = c :: replaceEntities rest := by
  rcases entity?_cases named with ⟨rfl, rfl⟩ | ⟨rfl, rfl⟩ | ⟨rfl, rfl⟩ | ⟨rfl, rfl⟩ | ⟨rfl, rfl⟩ <;>
    simp [replaceEntities]

/-- What is left of a written form without its entities is its text, by induction on the form. -/
theorem Encodes.replaceEntities_eq (h : Encodes form text) : replaceEntities form = text := by
  induction h with
  | nil => rfl
  | char noReference _ _ ih => rw [replaceEntities_cons noReference, ih]
  | entity named _ ih => rw [replaceEntities_entity named, ih]

/-- A character that is not in a list stands behind it if it stands behind its beginning. -/
theorem exists_eq_append_of_append_eq {front back list rest : List Char} {c : Char}
    (same : front ++ c :: rest = list ++ back) (outside : c ∉ list)
    : ∃ between, back = between ++ c :: rest := by
  rcases List.append_eq_append_iff.mp same with ⟨between, rfl, split⟩ | ⟨between, rfl, rfl⟩
  · cases between with
    | nil => exact ⟨[], split.symm⟩
    | cons d between =>
        obtain ⟨rfl, -⟩ := List.cons.inj split
        exact absurd (by simp) outside
  · exact ⟨between, rfl⟩

/-- Every ampersand in a text starts one of the references, by induction on the text. -/
theorem IsText.exists_reference (isText : IsText reserved s) {front rest : List Char}
    (split : s = front ++ '&' :: rest)
    : ∃ name ∈ references, name ++ [';'] <+: rest := by
  induction isText generalizing front with
  | nil => simp at split
  | char _ noReference _ _ ih =>
      cases front with
      | nil => exact absurd (List.cons.inj split).1 noReference
      | cons d front => exact ih (List.cons.inj split).2
  | @reference name s known _ ih =>
      cases front with
      | nil =>
          rw [← (List.cons.inj split).2]
          exact ⟨name, known, s, by simp⟩
      | cons d front =>
          have plain : ∀ name ∈ references, '&' ∉ name ++ [';'] := by decide
          have behind : front ++ '&' :: rest = name ++ [';'] ++ s := by
            rw [List.append_assoc]
            exact (List.cons.inj split).2.symm
          obtain ⟨between, inner⟩ := exists_eq_append_of_append_eq behind (plain name known)
          exact ih inner

theorem escape_append (s t : String) : escape (s ++ t) = escape s ++ escape t := by
  rw [escape, String.toList_append, List.flatMap_append, String.ofList_append]
  rfl

/-- The characters that documents hold are those of the legal part of a text. -/
theorem toList_legalPart (s : String)
    : (legalPart s).toList = s.toList.filter (IsDocumentChar ·) := by
  rw [legalPart, String.toList_ofList]
  exact List.filter_congr fun c _ => by simp [isDocumentChar_iff]

/-- A text can be escaped and put into a document wherever it belongs, and nothing of it is lost
that documents hold. No character of its escaped form starts markup or ends a value in quotes, every
ampersand starts one of the five entities, and all characters are legal. Replacing the entities
once, from left to right, gives the text without the characters that no document can hold, and so
does reading. Pieces of a text can be escaped one by one.
-/
theorem escape_isUndone (s : String)
    : (∀ c ∈ (escape s).toList, IsDocumentChar c ∧ c ∉ ['<', '>', '"', '\''])
      ∧ (∀ front rest, (escape s).toList = front ++ '&' :: rest
        → ∃ name ∈ references, name ++ [';'] <+: rest)
      ∧ replaceEntities (escape s).toList = s.toList.filter (IsDocumentChar ·)
      ∧ unescape? (escape s).toList = some (s.toList.filter (IsDocumentChar ·))
      ∧ ∀ t, escape (s ++ t) = escape s ++ escape t := by
  have written := isText_escape s
  have encodes := encodes_escape s
  rw [← toList_legalPart]
  refine ⟨fun c member => ⟨written.legal c member, ?_⟩, fun _ _ => written.exists_reference,
    encodes.replaceEntities_eq, encodes.unescape?_eq, escape_append s⟩
  simpa using ne_of_mem_escape member

/-- A text that looks like an escaped one is not unescaped twice, and a reference to a control
character is not taken for one.
-/
example : replaceEntities (escape "&amp;lt;&#1;\x01").toList = "&amp;lt;&#1;".toList := by
  decide +kernel

end Spreadsheet.Xml
