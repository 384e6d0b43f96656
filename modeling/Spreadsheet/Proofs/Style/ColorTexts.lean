import Spreadsheet.Proofs.Style.SlotReading

/-! Which texts are colors: six or eight hexadecimal digits, in whose place pairs of a plus sign and
a digit are taken as well. The color of a text is told by the text that is written for it.
-/

namespace Spreadsheet

-----------------------------------------------------------------------------------------
-- Digits
-----------------------------------------------------------------------------------------

namespace Encoding.Hex

/-- The ASCII digits of base sixteen, in either case. -/
def IsDigit (c : Char) : Prop :=
  ('0' ≤ c ∧ c ≤ '9') ∨ ('a' ≤ c ∧ c ≤ 'f') ∨ ('A' ≤ c ∧ c ≤ 'F')

instance (c : Char) : Decidable (IsDigit c) := inferInstanceAs (Decidable (_ ∨ _ ∨ _))

variable {c : Char}

theorem digitValue?_of_not_isDigit (other : ¬ IsDigit c) : digitValue? c = none := by
  simp only [IsDigit, not_or] at other
  rw [digitValue?, if_neg other.1, if_neg other.2.1, if_neg other.2.2]

/-- A digit has a value, of which it is the digit in one of the two cases. -/
theorem exists_digitValue? (digit : IsDigit c)
    : ∃ n < 16, digitValue? c = some n ∧ upperDigit n = c.toUpper := by
  have all : ∀ k : Fin 103, IsDigit (Char.ofNat k) → ∃ n < 16,
      digitValue? (Char.ofNat k) = some n ∧ upperDigit n = (Char.ofNat k).toUpper := by
    decide +kernel
  have early : c.toNat < 103 := by
    rcases digit with ⟨-, below⟩ | ⟨-, below⟩ | ⟨-, below⟩ <;>
      exact Nat.lt_of_le_of_lt (UInt32.le_iff_toNat_le.mp below) (by decide)
  simpa only [Char.ofNat_toNat] using all ⟨c.toNat, early⟩ (by rwa [Char.ofNat_toNat])

end Encoding.Hex

namespace Style.Color

open Encoding.Hex

-----------------------------------------------------------------------------------------
-- Bytes
-----------------------------------------------------------------------------------------

theorem byteText_injective : Function.Injective byteText := by
  intro first second same
  obtain ⟨high, rest⟩ := List.cons.inj same
  have low := (List.cons.inj rest).1
  have read := byte?_upperDigit first
  rw [high, low, byte?_upperDigit] at read
  exact (Option.some.inj read).symm

theorem byteText_ofNat {high low : Nat} (inHigh : high < 16) (inLow : low < 16)
    : byteText (.ofNat (16 * high + low)) = [upperDigit high, upperDigit low] := by
  have value : (UInt8.ofNat (16 * high + low)).toNat = 16 * high + low :=
    UInt8.toNat_ofNat_of_lt (by rw [UInt8.size]; omega)
  have first : (16 * high + low) / 16 = high := by omega
  have second : (16 * high + low) % 16 = low % 16 := by omega
  rw [byteText, value, first, upperDigit, upperDigit, upperDigit, second]

/-- What a sign in front of a digit is taken for: a plus sign counts as a zero. -/
def zeroFor (c : Char) : Char := if c = '+' then '0' else c

theorem byte?_zeroFor (a b : Char) : byte? (zeroFor a) b = byte? a b := by
  have zero : digitValue? '0' = some 0 := by decide
  rw [zeroFor]
  split
  · next sign =>
      rw [sign, byte?, byte?, if_neg (by decide), if_pos rfl, zero]
      cases digitValue? b with
      | none => rfl
      | some n => exact congrArg (some <| UInt8.ofNat ·) (Nat.zero_add n)
  · rfl

/-- The byte of two digits is the one that is written with them in upper case. -/
theorem byte?_eq_some_iff {a b : Char} {byte : UInt8}
    : byte? a b = some byte
      ↔ IsDigit (zeroFor a) ∧ IsDigit b
        ∧ byteText byte = [(zeroFor a).toUpper, b.toUpper] := by
  have unsigned : zeroFor a ≠ '+' := by
    rw [zeroFor]
    split
    · decide
    · assumption
  rw [← byte?_zeroFor, byte?, if_neg unsigned]
  generalize zeroFor a = a
  by_cases first : IsDigit a
  · by_cases second : IsDigit b
    · obtain ⟨high, inHigh, highValue, highDigit⟩ := exists_digitValue? first
      obtain ⟨low, inLow, lowValue, lowDigit⟩ := exists_digitValue? second
      rw [highValue, lowValue, ← highDigit, ← lowDigit, ← byteText_ofNat inHigh inLow,
        byteText_injective.eq_iff]
      simp [first, second, eq_comm]
    · simp [digitValue?_of_not_isDigit second, second]
  · simp [digitValue?_of_not_isDigit first, first]

-----------------------------------------------------------------------------------------
-- Texts of digits
-----------------------------------------------------------------------------------------

/-- What is read of a text: white space around it and number signs in front of it are left out. -/
def body (s : String) : List Char := (Text.trimChars s.toList).dropWhile (· == '#')

/-- Signs in pairs, with zeros for the plus signs in front of pairs. -/
def zeroFilled : List Char → List Char
  | a :: b :: rest => zeroFor a :: b :: zeroFilled rest
  | rest => rest

/-- Six or eight hexadecimal digits. -/
def IsHexText (ds : List Char) : Prop :=
  (ds.length = 6 ∨ ds.length = 8) ∧ ∀ c ∈ ds, IsDigit c

/-- Eight digits in upper case: six of them stand for an opaque color. -/
def fullText (ds : List Char) : List Char :=
  (if ds.length = 6 then ['F', 'F'] else []) ++ ds.map Char.toUpper

theorem length_zeroFilled (ds : List Char) : (zeroFilled ds).length = ds.length := by
  induction ds using zeroFilled.induct with
  | case1 a b rest ih => rw [zeroFilled, List.length_cons, List.length_cons, ih]; rfl
  | case2 rest short => rw [zeroFilled]; exact short

theorem byteText_append_eq_iff {byte : UInt8} {a b : Char} {rest tail : List Char}
    : byteText byte ++ rest = a :: b :: tail ↔ byteText byte = [a, b] ∧ rest = tail := by
  simp only [byteText, List.cons_append, List.nil_append, List.cons.injEq, and_true, and_assoc]

variable {ds : List Char} {color : Color}

/-- Eight digits are read as the color that is written with them. -/
theorem ofDigits?_eight (a a' r r' g g' b b' : Char)
    : ofDigits? [a, a', r, r', g, g', b, b'] = some color
      ↔ IsHexText (zeroFilled [a, a', r, r', g, g', b, b']) ∧ color.isAuto = false
        ∧ color.argbHex.toList = fullText (zeroFilled [a, a', r, r', g, g', b, b']) := by
  simp only [ofDigits?, Option.pure_def, Option.bind_eq_bind, Option.bind_eq_some_iff,
    byte?_eq_some_iff]
  cases color with
  | auto => simp [isAuto]
  | argb w x y z =>
      have texts : (argb w x y z).argbHex.toList
          = byteText w ++ (byteText x ++ (byteText y ++ (byteText z ++ []))) := by
        rw [argbHex, String.toList_ofList, List.append_nil, List.append_assoc, List.append_assoc]
      have full : fullText (zeroFilled [a, a', r, r', g, g', b, b'])
          = [zeroFor a, a', zeroFor r, r', zeroFor g, g', zeroFor b, b'].map Char.toUpper := rfl
      rw [texts, full]
      simp only [IsHexText, zeroFilled, isAuto, List.map_cons, List.map_nil,
        byteText_append_eq_iff, List.length_cons, List.length_nil, List.forall_mem_cons,
        List.not_mem_nil, false_implies, implies_true, Option.some.injEq, argb.injEq,
        ↓existsAndEq, or_true, true_and, and_true]
      exact iff_of_eq (by ac_rfl)

/-- Six digits are read as eight that begin with those of an opaque color. -/
theorem ofDigits?_six (r r' g g' b b' : Char)
    : ofDigits? [r, r', g, g', b, b'] = ofDigits? ['F', 'F', r, r', g, g', b, b'] := by
  have full : byte? 'F' 'F' = some 0xFF := by decide
  simp only [ofDigits?, rgb, full, Option.bind_eq_bind, Option.bind_some]

theorem isHexText_six (r r' g g' b b' : Char)
    : IsHexText (zeroFilled ['F', 'F', r, r', g, g', b, b'])
      ↔ IsHexText (zeroFilled [r, r', g, g', b, b']) := by
  have full : IsDigit (zeroFor 'F') ∧ IsDigit 'F' := by decide
  simp only [IsHexText, zeroFilled, List.length_cons, List.length_nil, List.forall_mem_cons, full,
    true_and, or_true, true_or]

/-- Six or eight digits are read as the color that is written with them, zeros standing for plus
signs, and no other text is read.
-/
theorem ofDigits?_eq_some_iff
    : ofDigits? ds = some color
      ↔ IsHexText (zeroFilled ds) ∧ color.isAuto = false
        ∧ color.argbHex.toList = fullText (zeroFilled ds) := by
  match ds with
  | [a, a', r, r', g, g', b, b'] => exact ofDigits?_eight a a' r r' g g' b b'
  | [r, r', g, g', b, b'] =>
      rw [ofDigits?_six, ofDigits?_eight, isHexText_six]
      rfl
  | [] | [_] | [_, _] | [_, _, _] | [_, _, _, _] | [_, _, _, _, _] | [_, _, _, _, _, _, _]
  | _ :: _ :: _ :: _ :: _ :: _ :: _ :: _ :: _ :: _ =>
      simp [ofDigits?, IsHexText, length_zeroFilled]

theorem zeroFilled_eq_self (unsigned : '+' ∉ ds) : zeroFilled ds = ds := by
  induction ds using zeroFilled.induct with
  | case1 a b rest ih =>
      simp only [List.mem_cons, not_or] at unsigned
      rw [zeroFilled, zeroFor, if_neg (Ne.symm unsigned.1), ih unsigned.2.2]
  | case2 rest short => rw [zeroFilled]; exact short

theorem IsHexText.unsigned (text : IsHexText ds) : '+' ∉ ds := by
  intro member
  exact absurd (text.2 '+' member) (by decide)

/-- A text is a color just if what is read of it is six or eight digits, or is once zeros stand for
the plus signs in front of pairs; and it is the color that is written with these digits in upper
case. What is written for a color is read back.
-/
theorem ofHex?_hexText (s : String)
    : (∀ color, ofHex? s = some color
        ↔ ∃ ds, IsHexText ds ∧ (body s = ds ∨ '+' ∈ body s ∧ zeroFilled (body s) = ds)
          ∧ color.isAuto = false ∧ color.argbHex.toList = fullText ds)
      ∧ ∀ alpha red green blue, ofHex? (argb alpha red green blue).argbHex
        = some (argb alpha red green blue) := by
  refine ⟨fun color => ?_, fun _ _ _ _ => ofHex?_argbHex rfl⟩
  have read : ofHex? s = ofDigits? (body s) := rfl
  rw [read, ofDigits?_eq_some_iff]
  constructor
  · rintro ⟨text, written⟩
    refine ⟨zeroFilled (body s), text, ?_, written⟩
    by_cases signed : '+' ∈ body s
    · exact .inr ⟨signed, rfl⟩
    · exact .inl (zeroFilled_eq_self signed).symm
  · rintro ⟨ds, text, same | ⟨-, same⟩, written⟩
    · rw [same, zeroFilled_eq_self text.unsigned]
      exact ⟨text, written⟩
    · rw [same]
      exact ⟨text, written⟩

/-- Pairs of a plus sign and a digit are taken for bytes. -/
theorem ofHex?_signedPairs
    : ofHex? "+1+2+3" = some (rgb 1 2 3) ∧ ¬ IsHexText (body "+1+2+3") := by
  refine ⟨by decide +kernel, fun text => text.unsigned ?_⟩
  decide +kernel

end Style.Color

end Spreadsheet
