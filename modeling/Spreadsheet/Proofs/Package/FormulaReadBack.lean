import Mathlib.Data.List.DropRight
import Spreadsheet.Proofs.Package.CellReadBack

/-! Formula texts that are taken for formula texts again, as the bodies of formulas are when they
are read from a document. White space is removed before the equals sign and not behind it, so what
stood behind the sign may lose more the second time.
-/

namespace Spreadsheet

variable {s : List Char}

-----------------------------------------------------------------------------------------
-- Trimmed texts
-----------------------------------------------------------------------------------------

namespace Text

/-- There is no white space at either end of a text. -/
structure Trimmed (s : List Char) : Prop where
  head : ∀ c ∈ s.head?, isBlank c = false
  last : ∀ c ∈ s.getLast?, isBlank c = false

theorem head_trimStart : ∀ c ∈ (trimStart s).head?, isBlank c = false := by
  intro c first
  have stop := List.head?_dropWhile_not isBlank s
  rw [trimStart] at first
  rw [first] at stop
  simpa using stop

theorem last_trimEnd : ∀ c ∈ (trimEnd s).getLast?, isBlank c = false := by
  intro c last
  rw [trimEnd, List.getLast?_reverse] at last
  exact head_trimStart c last

theorem isPrefix_trimEnd : trimEnd s <+: s := List.rdropWhile_prefix isBlank s

theorem length_trimChars_le (s : List Char) : (trimChars s).length ≤ s.length := by
  refine isPrefix_trimEnd.length_le.trans ?_
  exact (List.dropWhile_suffix isBlank).length_le

/-- Trimming a text leaves it trimmed: its end is cut off a text that starts as it will. -/
theorem trimmed_trimChars (s : List Char) : Trimmed (trimChars s) where
  head c first := by
    obtain ⟨rest, whole⟩ := isPrefix_trimEnd (s := trimStart s)
    refine head_trimStart (s := s) c ?_
    rw [← whole, List.head?_append, ← trimChars, Option.mem_def.mp first]
    rfl
  last c last := last_trimEnd c last

/-- The texts that trimming does not change are the trimmed ones. -/
theorem trimChars_eq_self_iff : trimChars s = s ↔ Trimmed s := by
  constructor
  · intro same
    rw [← same]
    exact trimmed_trimChars s
  · intro trimmed
    have start : trimStart s = s := by
      cases s with
      | nil => rfl
      | cons c rest => rw [trimStart, List.dropWhile_cons_of_neg (by simp [trimmed.head c rfl])]
    rw [trimChars, start]
    refine List.rdropWhile_eq_self_iff.mpr fun some => ?_
    rw [trimmed.last _ (List.getLast?_eq_some_getLast some)]
    exact Bool.false_ne_true

/-- Behind a sign, a trimmed text is trimmed just if it does not start with white space. -/
theorem Trimmed.tail_iff {c : Char} (trimmed : Trimmed (c :: s))
    : Trimmed s ↔ ∀ d ∈ s.head?, isBlank d = false := by
  refine ⟨Trimmed.head, fun head => ⟨head, fun d last => trimmed.last d ?_⟩⟩
  rw [List.getLast?_cons, Option.mem_def.mp last]
  rfl

end Text

-----------------------------------------------------------------------------------------
-- Bodies of formulas
-----------------------------------------------------------------------------------------

namespace Cell.Value

open Text

variable {s t : String}

/-- The texts that are their own bodies are those without white space around them and without an
equals sign in front.
-/
theorem formulaBody_eq_self_iff
    : formulaBody t = t ↔ Trimmed t.toList ∧ t.toList.head? ≠ some '=' := by
  have noLonger := length_trimChars_le t.toList
  rw [← trimChars_eq_self_iff, formulaBody]
  split
  · next body trimmed =>
      rw [trimmed] at noLonger ⊢
      constructor
      · intro same
        have longer := congrArg (fun t => t.toList.length) same
        simp only [String.toList_ofList, List.length_cons] at longer noLonger
        omega
      · rintro ⟨same, noSign⟩
        rw [← same] at noSign
        exact absurd rfl noSign
  · next noSign =>
      constructor
      · intro same
        have same : trimChars t.toList = t.toList := by
          rw [← String.toList_ofList (l := trimChars t.toList), same]
        refine ⟨same, fun sign => ?_⟩
        obtain ⟨body, signed⟩ := List.head?_eq_some_iff.mp sign
        exact noSign body (same.trans signed)
      · rintro ⟨same, -⟩
        rw [same, String.ofList_toList]

/-- Behind the equals sign of a formula text there is white space or another equals sign. -/
def Unsettled (s : String) : Prop :=
  ∃ c rest, trimChars s.toList = '=' :: c :: rest ∧ (isBlank c = true ∨ c = '=')

/-- The body of a formula text is its own body unless white space or another equals sign follows
the one that was removed.
-/
theorem formulaBody_formulaBody_iff
    : formulaBody (formulaBody s) = formulaBody s ↔ ¬ Unsettled s := by
  have trimmed := trimmed_trimChars s.toList
  rw [formulaBody_eq_self_iff, Unsettled, formulaBody]
  split
  · next body signed =>
      rw [signed] at trimmed ⊢
      rw [String.toList_ofList, trimmed.tail_iff]
      cases body with
      | nil => exact iff_of_true ⟨nofun, nofun⟩ nofun
      | cons c rest =>
          constructor
          · rintro ⟨filled, noSign⟩ ⟨d, more, same, again⟩
            cases same
            rcases again with blank | sign
            · rw [filled c rfl] at blank
              cases blank
            · exact noSign (congrArg some sign)
          · intro settled
            refine ⟨fun d first => ?_, fun sign => settled ⟨c, rest, rfl, .inr ?_⟩⟩
            · cases first
              exact Bool.eq_false_iff.mpr fun blank => settled ⟨c, rest, rfl, .inl blank⟩
            · exact Option.some.inj sign
  · next noSign =>
      refine iff_of_true ⟨by rwa [String.toList_ofList], ?_⟩ ?_
      · rw [String.toList_ofList]
        intro sign
        obtain ⟨body, signed⟩ := List.head?_eq_some_iff.mp sign
        exact noSign body signed
      · rintro ⟨c, rest, signed, -⟩
        exact noSign (c :: rest) signed

theorem ofFormula_inj : ofFormula s = ofFormula t ↔ formulaBody s = formulaBody t := by
  rw [ofFormula, ofFormula, formula.injEq]

/-- A formula is read as it was stored, from a document that can hold it, just if it is not empty
and its body is its own body.
-/
theorem asRead_ofFormula_iff (legal : Xml.Legal (formulaBody s))
    : (ofFormula s).asRead = ofFormula s ↔ formulaBody s ≠ "" ∧ ¬ Unsettled s := by
  have read : (ofFormula s).asRead
      = if formulaBody s = "" then .empty else ofFormula (formulaBody s) := by
    rw [ofFormula, asRead, Xml.legalPart_eq_self legal]
  rw [read, ← formulaBody_formulaBody_iff, ← ofFormula_inj]
  split
  · next none => exact iff_of_false (by simp [ofFormula]) fun stored => stored.1 none
  · next some => exact ⟨fun same => ⟨some, same⟩, And.right⟩

/-- Taking the body of a formula for a formula text changes it just if white space or another equals
sign follows the sign that was removed, and so does reading it from a document.
-/
theorem ofFormula_idempotent_iff (s : String)
    : (ofFormula (formulaBody s) = ofFormula s ↔ ¬ Unsettled s)
      ∧ (Xml.Legal (formulaBody s)
        → ((ofFormula s).asRead = ofFormula s ↔ formulaBody s ≠ "" ∧ ¬ Unsettled s)) :=
  ⟨ofFormula_inj.trans formulaBody_formulaBody_iff, asRead_ofFormula_iff⟩

/-- The white space behind a sign is removed the second time, and when the formula is read. -/
theorem ofFormula_blank_behind_sign
    : ofFormula "= A1" = .formula " A1" ∧ ofFormula " A1" = .formula "A1"
      ∧ (ofFormula "= A1").asRead = .formula "A1" := by
  decide +kernel

end Cell.Value

end Spreadsheet
