import Spreadsheet.Proofs.Cell.AddressText
import Spreadsheet.Proofs.Number.NumberReading
import Spreadsheet.Proofs.Xml.Escaping

/-! Texts that documents can hold as they are, among them all numbers and addresses.
-/

namespace Spreadsheet

namespace Xml

/-- Documents can hold all characters of the text. -/
def Legal (s : String) : Prop := ∀ c ∈ s.toList, isLegal c = true

instance (s : String) : Decidable (Legal s) :=
  decidable_of_iff (s.toList.all isLegal = true) List.all_eq_true

theorem legalPart_eq_self {s : String} (legal : Legal s) : legalPart s = s := by
  rw [legalPart, List.filter_eq_self.mpr legal, String.ofList_toList]

theorem Legal.append {s t : String} (left : Legal s) (right : Legal t) : Legal (s ++ t) := by
  intro c member
  rw [String.toList_append, List.mem_append] at member
  exact member.elim (left c) (right c)

theorem isLegal_of_isAlphanum {c : Char} (sign : c.isAlphanum = true) : isLegal c = true := by
  have code : 0x20 ≤ c.toNat ∧ c.toNat ≤ 0xD7FF := by
    rcases Bool.or_eq_true_iff.mp sign with letter | digit
    · have value := Number.toNat_of_isAlpha letter
      omega
    · have value := Number.toNat_of_isDigit digit
      omega
  simp [isLegal, code.1, code.2]

theorem legal_repr (n : Nat) : Legal (Nat.repr n) := by
  intro c member
  rw [Nat.toList_repr] at member
  have digit := Number.isDigit_of_mem_toDigits member
  exact isLegal_of_isAlphanum (by rw [Char.isAlphanum, digit, Bool.or_true])

/-- Names with a number are legal if the rest of them is. -/
theorem legal_numbered {front back : String} (fixed : Legal front ∧ Legal back) (number : Nat)
    : Legal (front ++ Nat.repr number ++ back) :=
  (fixed.1.append (legal_repr number)).append fixed.2

theorem legal_display (x : Number.Binary64) : Legal x.display := by
  have signs : Legal "-.NaNinf" := by decide
  intro c member
  rw [Number.Binary64.display, String.toList_ofList] at member
  rcases Number.Binary64.of_mem_text member with digit | sign
  · exact isLegal_of_isAlphanum (by rw [Char.isAlphanum, digit, Bool.or_true])
  · exact signs c sign

end Xml

namespace Cell

open Spreadsheet.Xml

theorem Address.isAlphanum_of_mem_text {a : Address} {c : Char} (member : c ∈ a.text.toList)
    : c.isAlphanum = true := by
  rw [toList_text, List.mem_append] at member
  rcases member with member | member
  · rw [Char.isAlphanum, (isColumnLetter_of_mem_columnLetters member).isAlpha, Bool.true_or]
  · rw [Char.isAlphanum, Number.isDigit_of_mem_toDigits member, Bool.or_true]

theorem Address.legal_text (a : Address) : Legal a.text :=
  fun _ member => isLegal_of_isAlphanum (isAlphanum_of_mem_text member)

theorem Range.legal_text (r : Range) : Legal r.text := by
  have colon : Legal ":" := by decide
  rw [text]
  split
  · exact r.topLeft.legal_text
  · exact (r.topLeft.legal_text.append colon).append r.bottomRight.legal_text

end Cell

end Spreadsheet
