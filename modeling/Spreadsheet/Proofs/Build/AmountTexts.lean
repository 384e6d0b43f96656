import Mathlib.Data.List.DropRight
import Spreadsheet.Build.Amount
import Spreadsheet.Proofs.Number.DecimalPlaces

/-! Amounts as they are written for readers. Their digits stand in groups with points between them
and a comma before the fraction, and without the points they are the decimal that the amount was
rounded to; so amounts are written alike just if they are rounded alike.
-/

namespace Spreadsheet.Build

open Spreadsheet.Number

-----------------------------------------------------------------------------------------
-- Groups
-----------------------------------------------------------------------------------------

/-- Digits in groups: a first one of at most three, and others of three behind points. -/
structure IsGrouped (digits first : List Char) (groups : List (List Char)) : Prop where
  digits_eq : first ++ groups.flatten = digits
  first_pos : 1 ≤ first.length
  first_le : first.length ≤ 3
  group_length : ∀ group ∈ groups, group.length = 3

theorem IsGrouped.length_eq {digits first : List Char} {groups : List (List Char)}
    (grouped : IsGrouped digits first groups)
    : digits.length = first.length + 3 * groups.length := by
  rw [← grouped.digits_eq, List.length_append, List.length_flatten,
    List.map_congr_left grouped.group_length, List.map_const', List.sum_replicate, smul_eq_mul,
    Nat.mul_comm]

/-- Digits are written in groups, by induction on them: one more in front joins the first group
unless that is full.
-/
theorem exists_groupDigits {digits : List Char} (filled : digits ≠ [])
    : ∃ first groups, groupDigits digits = first ++ groups.flatMap ('.' :: ·)
      ∧ IsGrouped digits first groups := by
  induction digits with
  | nil => exact absurd rfl filled
  | cons c rest ih =>
      rw [groupDigits]
      by_cases last : rest = []
      · refine ⟨[c], [], ?_, ?_⟩
        · rw [if_neg fun full => full.2 last, last]
          rfl
        · exact ⟨by rw [last]; rfl, Nat.le_refl 1, Nat.le_add_left 1 2, nofun⟩
      · obtain ⟨first, groups, text, grouped⟩ := ih last
        have length := grouped.length_eq
        have bounds := And.intro grouped.first_pos grouped.first_le
        split
        · next full =>
            refine ⟨[c], first :: groups, ?_, ?_, Nat.le_refl 1, Nat.le_add_left 1 2, ?_⟩
            · rw [text]
              rfl
            · rw [← grouped.digits_eq]
              rfl
            · rw [List.forall_mem_cons]
              exact ⟨by omega, grouped.group_length⟩
        · next room =>
            refine ⟨c :: first, groups, ?_, ?_, ?_, ?_, grouped.group_length⟩
            · rw [text]
              rfl
            · rw [← grouped.digits_eq]
              rfl
            · rw [List.length_cons]
              omega
            · rw [List.length_cons]
              by_contra full
              exact room ⟨by omega, last⟩

-----------------------------------------------------------------------------------------
-- Fractions
-----------------------------------------------------------------------------------------

/-- Decimal places without zeros at their end. -/
structure IsFraction (places n : ℕ) (fraction : List Char) : Prop where
  isDigit : ∀ c ∈ fraction, c.isDigit = true
  length_le : fraction.length ≤ places
  last_ne : fraction.getLast? ≠ some '0'
  value_eq : Nat.ofDigitChars 10 fraction 0 * 10 ^ (places - fraction.length) = n
  eq_nil_iff : fraction = [] ↔ n = 0

theorem exists_trimZeros (ds : List Char) : ∃ n, ds = trimZeros ds ++ zeros n := by
  refine ⟨(ds.rtakeWhile (· == '0')).length, ?_⟩
  have zero : ∀ c ∈ ds.rtakeWhile (· == '0'), c = '0' := by
    intro c member
    have zero := List.mem_rtakeWhile_imp member
    exact beq_iff_eq.mp zero
  rw [zeros, ← List.eq_replicate_of_mem zero]
  exact List.rdropWhile_append_rtakeWhile.symm

theorem getLast?_trimZeros (ds : List Char) : (trimZeros ds).getLast? ≠ some '0' := by
  intro last
  have filled : trimZeros ds ≠ [] := by
    rintro none
    rw [none] at last
    cases last
  have other := List.rdropWhile_last_not (· == '0') ds filled
  rw [List.getLast?_eq_some_getLast filled, Option.some.injEq] at last
  exact other (beq_iff_eq.mpr last)

theorem isFraction_trimZeros {places n : ℕ} {ds : List Char} (written : WrittenIn places n ds)
    : IsFraction places n (trimZeros ds) := by
  obtain ⟨k, same⟩ := exists_trimZeros ds
  have last := getLast?_trimZeros ds
  have length := written.length_eq
  have digits := written.isDigit
  have value := written.value_eq
  generalize trimZeros ds = fraction at same last
  subst same
  rw [List.length_append, zeros, List.length_replicate] at length
  rw [Nat.ofDigitChars_append, zeros, Nat.ofDigitChars_replicate_zero] at value
  have digits : ∀ c ∈ fraction, c.isDigit = true :=
    fun c member => digits c (List.mem_append_left _ member)
  have rest : places - fraction.length = k := by omega
  refine ⟨digits, by omega, last, by rw [rest, Nat.mul_comm, value], ?_⟩
  rw [← value]
  constructor
  · rintro rfl
    rw [Nat.ofDigitChars_nil, Nat.mul_zero]
  · intro zero
    rcases List.eq_nil_or_concat' fraction with none | ⟨front, c, rfl⟩
    · exact none
    · have digit := toNat_of_isDigit (digits c (by simp))
      have other : c.toNat ≠ '0'.toNat := fun same =>
        last (by rw [List.getLast?_concat, Char.toNat_inj.mp same])
      rw [Nat.ofDigitChars_append, Nat.ofDigitChars_cons, Nat.ofDigitChars_nil, Nat.mul_eq_zero]
        at zero
      have positive := Nat.pow_pos (n := k) (show 0 < 10 by decide)
      have code : '0'.toNat = 48 := rfl
      omega

theorem pointedValue_trimZeros (whole ds : List Char)
    : pointedValue whole (trimZeros ds) = pointedValue whole ds := by
  obtain ⟨k, same⟩ := exists_trimZeros ds
  have counted : Nat.ofDigitChars 10 (whole ++ ds) 0
      = 10 ^ k * Nat.ofDigitChars 10 (whole ++ trimZeros ds) 0 := by
    conv_lhs => rw [same]
    rw [← List.append_assoc, Nat.ofDigitChars_append, zeros, Nat.ofDigitChars_replicate_zero]
  have length : ds.length = k + (trimZeros ds).length := by
    conv_lhs => rw [same]
    rw [List.length_append, zeros, List.length_replicate, Nat.add_comm]
  rw [pointedValue, pointedValue, counted, length, pow_add, Nat.cast_mul, Nat.cast_pow,
    Nat.cast_ofNat, mul_div_mul_left _ _ (by positivity)]

-----------------------------------------------------------------------------------------
-- Amounts
-----------------------------------------------------------------------------------------

/-- A fraction behind its comma, which is left out if there is no fraction. -/
def behindComma (fraction : List Char) : List Char := if fraction = [] then [] else ',' :: fraction

/-- The text of a number of thousandths: a minus sign if it is negative, its whole part in groups
and what is left of its fraction without the zeros at the end.
-/
structure IsAmountText (thousandths : ℤ) (text : List Char) : Prop where
  spelled : ∃ first groups fraction,
    IsGrouped (Nat.toDigits 10 (thousandths.natAbs / 1000)) first groups
    ∧ IsFraction 3 (thousandths.natAbs % 1000) fraction
    ∧ text = signText (decide (thousandths < 0))
      ++ (first ++ groups.flatMap ('.' :: ·) ++ behindComma fraction)

/-- The text of an amount by the thousandths that it is rounded to. -/
def thousandthsText (thousandths : ℤ) : List Char :=
  let (whole, fraction) := Binary64.splitUnits 3 thousandths.natAbs
  signText (decide (thousandths < 0)) ++ (groupDigits whole ++ behindComma (trimZeros fraction))

theorem isAmountText_thousandthsText (i : ℤ) : IsAmountText i (thousandthsText i) := by
  obtain ⟨rest, split, written⟩ := exists_splitUnits (show 0 < 3 by decide) i.natAbs
  obtain ⟨first, groups, grouping, grouped⟩ := exists_groupDigits
    (Nat.toDigits_ne_nil (n := i.natAbs / 10 ^ 3) (b := 10))
  refine ⟨first, groups, trimZeros rest, grouped, isFraction_trimZeros written, ?_⟩
  simp only [thousandthsText, split, grouping]

theorem any_ne_zero_toDigits (n : ℕ) : (Nat.toDigits 10 n).any (· != '0') = decide (n ≠ 0) := by
  rw [Bool.eq_iff_iff, List.any_eq_true, decide_eq_true_eq]
  constructor
  · rintro ⟨c, member, other⟩ rfl
    rw [Nat.toDigits_zero, List.mem_singleton] at member
    rw [member] at other
    cases other
  · intro nonzero
    by_contra none
    have zero : ∀ c ∈ Nat.toDigits 10 n, c = '0' := by
      intro c member
      by_contra other
      exact none ⟨c, member, bne_iff_ne.mpr other⟩
    have value := Nat.ofDigitChars_ten_toDigits (n := n)
    rw [List.eq_replicate_of_mem zero, Nat.ofDigitChars_replicate_zero] at value
    exact nonzero value.symm

/-- The sign is left out just if nothing is left of the number. -/
theorem amountText_eq (x : Binary64) : amountText x = thousandthsText (x.units 3) := by
  obtain ⟨rest, split, written⟩ := exists_splitUnits (show 0 < 3 by decide) (x.roundedUnits 3)
  simp only [amountText, thousandthsText, x.natAbs_units, split, behindComma,
    List.isEmpty_iff, List.append_assoc]
  have left : ((Nat.toDigits 10 (x.roundedUnits 3 / 10 ^ 3)).any (· != '0')
      || !(trimZeros rest).isEmpty) = decide (x.roundedUnits 3 ≠ 0) := by
    have fraction := (isFraction_trimZeros written).eq_nil_iff
    rw [any_ne_zero_toDigits, Bool.eq_iff_iff, Bool.or_eq_true, Bool.not_eq_true',
      List.isEmpty_eq_false_iff, decide_eq_true_eq, decide_eq_true_eq, Ne, Ne, Ne, fraction]
    omega
  have sign : (x.negative && decide (x.roundedUnits 3 ≠ 0)) = decide (x.units 3 < 0) := by
    rw [Binary64.units]
    cases x.negative with
    | true => simp [Nat.pos_iff_ne_zero]
    | false => simp
  rw [left, sign]

-----------------------------------------------------------------------------------------
-- Decimals
-----------------------------------------------------------------------------------------

/-- A text as a plain decimal: without its points, and with a point for its comma. -/
def plainText (text : List Char) : List Char :=
  (text.filter (· != '.')).map fun c => if c = ',' then '.' else c

theorem plainText_append (s t : List Char) : plainText (s ++ t) = plainText s ++ plainText t := by
  rw [plainText, List.filter_append, List.map_append, plainText, plainText]

theorem plainText_digits {ds : List Char} (digits : ∀ c ∈ ds, c.isDigit = true)
    : plainText ds = ds := by
  have noPoint : ds.filter (· != '.') = ds :=
    List.filter_eq_self.mpr fun c member => bne_iff_ne.mpr (ne_of_isDigit (digits c member) rfl)
  have noComma : ∀ c ∈ ds, (if c = ',' then '.' else c) = c :=
    fun c member => if_neg (ne_of_isDigit (digits c member) rfl)
  rw [plainText, noPoint, List.map_congr_left noComma, List.map_id']

theorem plainText_groups {groups : List (List Char)}
    (digits : ∀ c ∈ groups.flatten, c.isDigit = true)
    : plainText (groups.flatMap ('.' :: ·)) = groups.flatten := by
  induction groups with
  | nil => rfl
  | cons group rest ih =>
      rw [List.flatten_cons, List.forall_mem_append] at digits
      have point : plainText ('.' :: group) = plainText group := rfl
      rw [List.flatMap_cons, plainText_append, point, plainText_digits digits.1, ih digits.2,
        List.flatten_cons]

theorem plainText_behindComma {fraction : List Char} (digits : ∀ c ∈ fraction, c.isDigit = true)
    : plainText (behindComma fraction) = pointed fraction := by
  rw [behindComma, pointed]
  split
  · rfl
  · have comma : plainText (',' :: fraction) = '.' :: plainText fraction := rfl
    rw [comma, plainText_digits digits]

theorem ten_pow_three : (10 ^ 3 : ℚ) = 1000 := by
  norm_num

/-- Without the points between its groups, an amount is the decimal of its thousandths. -/
theorem decimal?_thousandthsText (i : ℤ)
    : decimal? (plainText (thousandthsText i)) = some (i / 1000 : ℚ) := by
  obtain ⟨rest, split, written⟩ := exists_splitUnits (show 0 < 3 by decide) i.natAbs
  have digits : ∀ c ∈ Nat.toDigits 10 (i.natAbs / 10 ^ 3), c.isDigit = true :=
    fun _ => isDigit_of_mem_toDigits
  have decimals := (isFraction_trimZeros written).isDigit
  obtain ⟨first, groups, grouping, grouped⟩ := exists_groupDigits
    (Nat.toDigits_ne_nil (n := i.natAbs / 10 ^ 3) (b := 10))
  have pieces : ∀ c ∈ first ++ groups.flatten, c.isDigit = true := by
    rw [grouped.digits_eq]
    exact digits
  rw [List.forall_mem_append] at pieces
  have whole : plainText (groupDigits (Nat.toDigits 10 (i.natAbs / 10 ^ 3)))
      = Nat.toDigits 10 (i.natAbs / 10 ^ 3) := by
    rw [grouping, plainText_append, plainText_digits pieces.1, plainText_groups pieces.2,
      grouped.digits_eq]
  have text : plainText (thousandthsText i) = signText (decide (i < 0))
      ++ (Nat.toDigits 10 (i.natAbs / 10 ^ 3) ++ pointed (trimZeros rest)) := by
    have sign : plainText (signText (decide (i < 0))) = signText (decide (i < 0)) := by
      cases decide (i < 0) <;> rfl
    simp only [thousandthsText, split, plainText_append, sign, whole,
      plainText_behindComma decimals]
  obtain ⟨positive, negative⟩ := decimal?_pointed digits Nat.toDigits_ne_nil decimals
  rw [pointedValue_trimZeros, written.pointedValue_eq, Nat.cast_natAbs, Int.cast_abs,
    ten_pow_three] at positive negative
  rw [text, signText]
  by_cases below : i < 0
  · rw [abs_of_neg (Int.cast_lt_zero.mpr below), neg_div, neg_neg] at negative
    rw [if_pos (decide_eq_true below)]
    exact negative
  · rw [abs_of_nonneg (Int.cast_nonneg (not_lt.mp below))] at positive
    rw [if_neg (by simpa using below)]
    exact positive

/-- The text of a finite amount is that of the thousandths that it is rounded to. -/
theorem toList_currencyText {x : Binary64} (finite : x.isFinite = true) (symbol : String)
    : (currencyText x symbol).toList = thousandthsText (x.units 3) ++ symbol.toList := by
  rw [currencyText, Binary64.specialText?_of_isFinite finite]
  simp only [amountText_eq, String.toList_append, String.toList_ofList]

/-- An amount is written as the text of the thousandths that it is rounded to, and its symbol. Plain
decimals for the texts of amounts are the roundings with their signs, so that amounts with one
symbol are written alike just if they are rounded alike.
-/
theorem currencyText_faithful {x : Binary64} (finite : x.isFinite = true) (symbol : String)
    : (∃ text, (currencyText x symbol).toList = text ++ symbol.toList
        ∧ IsAmountText (x.units 3) text ∧ decimal? (plainText text) = some (x.units 3 / 1000 : ℚ))
      ∧ decimal? (x.fixedUnsigned 3) = some ((x.units 3).natAbs / 1000 : ℚ)
      ∧ IsRounded (x.value * 1000) (x.units 3)
      ∧ (x.units 3 < 0 ↔ x.value < 0 ∧ x.units 3 ≠ 0)
      ∧ ∀ y : Binary64, y.isFinite = true →
        (currencyText x symbol = currencyText y symbol ↔ x.units 3 = y.units 3) := by
  refine ⟨⟨_, toList_currencyText finite symbol, isAmountText_thousandthsText _,
    decimal?_thousandthsText _⟩, ?_, ?_, Binary64.units_neg_iff, fun y finite' => ?_⟩
  · rw [← ten_pow_three]
    exact Binary64.decimal?_fixedUnsigned (by decide) x
  · rw [← ten_pow_three]
    exact Binary64.isRounded_units 3 x
  · rw [← String.toList_inj, toList_currencyText finite, toList_currencyText finite',
      List.append_cancel_right_eq]
    constructor
    · intro same
      have read := decimal?_thousandthsText (x.units 3)
      rw [same, decimal?_thousandthsText, Option.some.injEq,
        div_left_inj' (by decide), Int.cast_inj] at read
      exact read.symm
    · intro same
      rw [same]

/-- A million and a sixteenth, negative: halfway between two thousandths. -/
def halfwayAmount : Binary64 := Binary64.nearest true 16000001 16

/-- The number nearest to the even one of those thousandths. -/
def evenAmount : Binary64 := Binary64.nearest true 1000000062 1000

theorem currencyText_faithful_halfwayAmount
    : halfwayAmount.isFinite = true ∧ halfwayAmount.units 3 = -1000000062
      ∧ (∃ text, (currencyText halfwayAmount "₫").toList = text ++ "₫".toList
        ∧ IsAmountText (halfwayAmount.units 3) text
        ∧ decimal? (plainText text) = some (halfwayAmount.units 3 / 1000 : ℚ))
      ∧ IsRounded (halfwayAmount.value * 1000) (halfwayAmount.units 3)
      ∧ currencyText halfwayAmount "₫" = currencyText evenAmount "₫" := by
  have finite : halfwayAmount.isFinite = true := by decide +kernel
  have finite' : evenAmount.isFinite = true := by decide +kernel
  have alike : halfwayAmount.units 3 = evenAmount.units 3 := by decide +kernel
  obtain ⟨text, -, rounded, -, same⟩ := currencyText_faithful finite "₫"
  exact ⟨finite, by decide +kernel, text, rounded, (same evenAmount finite').mpr alike⟩

end Spreadsheet.Build
