import Spreadsheet.Xml.Node

/-! Escaped texts. They are free of markup, and reading them gives back the characters that
documents can hold.
-/

namespace Spreadsheet.Xml

/-- What a document can hold of a text. -/
def legalPart (s : String) : String := String.ofList (s.toList.filter isLegal)

/-- The form stands for the text, character by character: each is written as it is, unless it
would start markup, or as its entity.
-/
inductive Encodes : List Char → List Char → Prop where
  | nil : Encodes [] []
  | char {c : Char} {form text : List Char} (noReference : c ≠ '&') (noTag : c ≠ '<')
      (rest : Encodes form text) : Encodes (c :: form) (c :: text)
  | entity {c : Char} {name : String} {form text : List Char} (named : entity? c = some name)
      (rest : Encodes form text) : Encodes ('&' :: name.toList ++ ';' :: form) (c :: text)

-----------------------------------------------------------------------------------------
-- Entities
-----------------------------------------------------------------------------------------

/-- There are five entities. -/
theorem entity?_cases {c : Char} {name : String} (named : entity? c = some name)
    : c = '&' ∧ name = "amp" ∨ c = '<' ∧ name = "lt" ∨ c = '>' ∧ name = "gt"
      ∨ c = '"' ∧ name = "quot" ∨ c = '\'' ∧ name = "apos" := by
  obtain ⟨⟨d, n⟩, found, rfl⟩ := Option.map_eq_some_iff.mp named
  have here : d = c := beq_iff_eq.mp (List.find?_some found :)
  have member := List.mem_of_find?_eq_some found
  subst here
  simpa [entities] using member

theorem isLegal_of_entity? {c : Char} {name : String} (named : entity? c = some name)
    : isLegal c = true := by
  rcases entity?_cases named with ⟨rfl, -⟩ | ⟨rfl, -⟩ | ⟨rfl, -⟩ | ⟨rfl, -⟩ | ⟨rfl, -⟩ <;> decide

/-- A character without an entity has no meaning in markup. -/
theorem ne_of_entity?_eq_none {c : Char} (unnamed : entity? c = none)
    : c ≠ '&' ∧ c ≠ '<' ∧ c ≠ '>' ∧ c ≠ '"' ∧ c ≠ '\'' := by
  refine ⟨?_, ?_, ?_, ?_, ?_⟩ <;> rintro rfl <;> revert unnamed <;> decide

/-- A reference is resolved by what stands before its semicolon. -/
theorem unescape?_reference {name : List Char} (inside : ∀ c ∈ name, (!endsReference c) = true)
    (rest : List Char)
    : unescape? ('&' :: name ++ ';' :: rest)
      = (referenced? name).bind fun c => (unescape? rest).map (c :: ·) := by
  have dropped : (name ++ ';' :: rest).dropWhile (!endsReference ·) = ';' :: rest := by
    rw [List.dropWhile_append_of_pos inside]
    rfl
  have taken : (name ++ ';' :: rest).takeWhile (!endsReference ·) = name := by
    rw [List.takeWhile_append_of_pos inside]
    exact List.append_nil name
  rw [List.cons_append, unescape?.eq_def]
  simp only [if_true]
  split
  · next after found =>
      rw [dropped] at found
      cases found
      rw [taken, Option.bind_eq_bind]
      cases referenced? name <;> cases unescape? rest <;> rfl
  · next missing => exact absurd dropped (missing rest)

theorem unescape?_entity {c : Char} {name : String} (named : entity? c = some name)
    (rest : List Char)
    : unescape? ('&' :: name.toList ++ ';' :: rest) = (unescape? rest).map (c :: ·) := by
  have resolved : referenced? name.toList = some c ∧ name.toList.all (!endsReference ·) := by
    rcases entity?_cases named with ⟨rfl, rfl⟩ | ⟨rfl, rfl⟩ | ⟨rfl, rfl⟩ | ⟨rfl, rfl⟩
      | ⟨rfl, rfl⟩ <;> decide +kernel
  rw [unescape?_reference (List.all_eq_true.mp resolved.2), resolved.1, Option.bind_some]

-----------------------------------------------------------------------------------------
-- Written forms
-----------------------------------------------------------------------------------------

namespace Encodes

variable {form form' text text' : List Char}

theorem append (first : Encodes form text) (second : Encodes form' text')
    : Encodes (form ++ form') (text ++ text') := by
  induction first with
  | nil => exact second
  | char noReference noTag _ ih => exact .char noReference noTag ih
  | entity named _ ih =>
      rw [List.append_assoc, List.cons_append]
      exact .entity named ih

/-- Reading a form gives its text, by induction on the form. -/
theorem unescape?_eq (h : Encodes form text) : unescape? form = some text := by
  induction h with
  | nil => rw [unescape?]
  | char noReference _ _ ih =>
      rw [unescape?, if_neg noReference, ih]
      rfl
  | entity named _ ih => rw [unescape?_entity named, ih, Option.map_some]

theorem eq_nil_iff (h : Encodes form text) : form = [] ↔ text = [] := by
  cases h <;> simp

/-- No tag starts within a form, by induction on it. -/
theorem not_mem_tag (h : Encodes form text) : '<' ∉ form := by
  induction h with
  | nil => exact List.not_mem_nil
  | char _ noTag _ ih => simp [ih, noTag.symm]
  | entity named _ ih =>
      rcases entity?_cases named with h | h | h | h | h <;> simp [h.2, ih]

end Encodes

/-- The form of one character stands for it, if a document can hold it. -/
theorem encodes_escapeChar (c : Char) : Encodes (escapeChar c) ([c].filter isLegal) := by
  unfold escapeChar
  cases named : entity? c with
  | some name =>
      rw [List.filter_cons_of_pos (isLegal_of_entity? named)]
      exact .entity named .nil
  | none =>
      have plain := ne_of_entity?_eq_none named
      by_cases legal : isLegal c
      · simp only [List.filter_cons, legal, if_true, List.filter_nil]
        exact .char plain.1 plain.2.1 .nil
      · simp only [List.filter_cons, legal, List.filter_nil]
        exact .nil

theorem encodes_escapePlainChar (c : Char) : Encodes (escapePlainChar c) ([c].filter isLegal) := by
  unfold escapePlainChar
  split
  · next quote =>
      have legal : isLegal c = true := by rcases quote with rfl | rfl <;> decide
      rw [List.filter_cons_of_pos legal]
      exact .char (by rcases quote with rfl | rfl <;> decide)
        (by rcases quote with rfl | rfl <;> decide) .nil
  · exact encodes_escapeChar c

/-- Forms of characters make up the form of a text, by induction on the text. -/
theorem encodes_flatMap {form : Char → List Char}
    (each : ∀ c, Encodes (form c) ([c].filter isLegal)) (s : List Char)
    : Encodes (s.flatMap form) (s.filter isLegal) := by
  induction s with
  | nil => exact .nil
  | cons c rest ih =>
      rw [List.flatMap_cons, ← List.singleton_append, List.filter_append]
      exact (each c).append ih

theorem encodes_escape (s : String) : Encodes (escape s).toList (legalPart s).toList := by
  simpa only [escape, legalPart, String.toList_ofList]
    using encodes_flatMap encodes_escapeChar s.toList

theorem encodes_escapePlain (s : String)
    : Encodes (escapePlain s).toList (legalPart s).toList := by
  simpa only [escapePlain, legalPart, String.toList_ofList]
    using encodes_flatMap encodes_escapePlainChar s.toList

/-- No angle bracket and no quote is left in an escaped text. -/
theorem ne_of_mem_escape {s : String} {c : Char} (member : c ∈ (escape s).toList)
    : c ≠ '<' ∧ c ≠ '>' ∧ c ≠ '"' ∧ c ≠ '\'' := by
  rw [escape, String.toList_ofList, List.mem_flatMap] at member
  obtain ⟨d, -, member⟩ := member
  unfold escapeChar at member
  cases named : entity? d with
  | some name =>
      rw [named] at member
      rcases entity?_cases named with h | h | h | h | h <;>
        simp only [h.2, String.reduceToList, List.cons_append, List.nil_append, List.mem_cons,
          List.not_mem_nil, or_false] at member <;>
        rcases member with rfl | rfl | rfl | rfl | rfl | rfl <;> decide
  | none =>
      have plain := ne_of_entity?_eq_none named
      simp only [named] at member
      split at member
      · cases List.mem_singleton.mp member
        exact plain.2
      · exact absurd member List.not_mem_nil

end Spreadsheet.Xml
