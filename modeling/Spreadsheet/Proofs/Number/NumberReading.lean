import Spreadsheet.Number.Layout
import Spreadsheet.Proofs.Number.DigitReading
import Spreadsheet.Proofs.Number.ShortestDecimal

/-! The text that a cell shows for a number is read back as that number.
-/

namespace Spreadsheet.Number

-----------------------------------------------------------------------------------------
-- Literals
-----------------------------------------------------------------------------------------

/-- Digits stand for a number of no more digits, whatever was read before them. -/
theorem ofDigitChars_lt {ds : List Char} (digits : ∀ c ∈ ds, c.isDigit = true) (before : Nat)
    : Nat.ofDigitChars 10 ds before < (before + 1) * 10 ^ ds.length := by
  induction ds generalizing before with
  | nil =>
      rw [Nat.ofDigitChars_nil, List.length_nil, Nat.pow_zero, Nat.mul_one]
      exact Nat.lt_add_one before
  | cons c rest ih =>
      rw [List.forall_mem_cons] at digits
      have digit := toNat_of_isDigit digits.1
      have zero : '0'.toNat = 48 := rfl
      have step : 10 * before + (c.toNat - '0'.toNat) + 1 ≤ (before + 1) * 10 := by omega
      rw [Nat.ofDigitChars_cons, List.length_cons, Nat.pow_succ', ← Nat.mul_assoc]
      exact Nat.lt_of_lt_of_le (ih digits.2 _) (Nat.mul_le_mul_right _ step)

theorem digitsValue_lt {ds : List Char} (digits : ∀ c ∈ ds, c.isDigit = true)
    : digitsValue ds < 10 ^ ds.length := by
  have below := ofDigitChars_lt digits 0
  rwa [Nat.zero_add, Nat.one_mul, ← digitsValue_eq] at below

/-- A run of digits ends where something else starts. -/
theorem spanDigits_append {ds : List Char} (digits : ∀ c ∈ ds, c.isDigit = true)
    (rest : List Char) (stop : ∀ c ∈ rest.head?, c.isDigit = false)
    : spanDigits (ds ++ rest) = (ds, rest) := by
  rw [spanDigits, List.span_eq_takeWhile_dropWhile, List.takeWhile_append_of_pos digits,
    List.dropWhile_append_of_pos digits]
  cases rest with
  | nil => rw [List.takeWhile_nil, List.dropWhile_nil, List.append_nil]
  | cons c rest =>
      have stop := stop c rfl
      simp only [List.takeWhile_cons, List.dropWhile_cons, stop, Bool.false_eq_true, if_false,
        List.append_nil]

theorem readLiteral?_digits {ds : List Char} (digits : ∀ c ∈ ds, c.isDigit = true)
    (filled : ds ≠ [])
    : readLiteral? ds = some ⟨digitsValue ds, 0⟩ := by
  have run := spanDigits_append digits [] nofun
  rw [List.append_nil] at run
  have filled := List.isEmpty_eq_false_iff.mpr filled
  simp only [readLiteral?, run, filled, List.isEmpty_nil, Bool.false_and, Bool.false_eq_true,
    if_false, readExponent?, List.append_nil]
  rfl

theorem readLiteral?_point {whole fraction : List Char} (digits : ∀ c ∈ whole, c.isDigit = true)
    (filled : whole ≠ []) (decimals : ∀ c ∈ fraction, c.isDigit = true)
    : readLiteral? (whole ++ '.' :: fraction)
      = some ⟨digitsValue (whole ++ fraction), -fraction.length⟩ := by
  have run := spanDigits_append digits ('.' :: fraction) (by simp)
  have run' := spanDigits_append decimals [] nofun
  rw [List.append_nil] at run'
  have filled := List.isEmpty_eq_false_iff.mpr filled
  simp only [readLiteral?, run, run', filled, Bool.false_and, Bool.false_eq_true, if_false,
    readExponent?]
  simp

theorem isDigit_of_mem_zeros {n : Nat} {c : Char} (member : c ∈ zeros n) : c.isDigit = true := by
  rw [List.eq_of_mem_replicate member]
  rfl

namespace Decimal

variable (d : Decimal)

theorem isDigit_of_mem_digitChars {c : Char} (member : c ∈ d.digitChars) : c.isDigit = true :=
  isDigit_of_mem_toDigits member

theorem ofDigitChars_digitChars : Nat.ofDigitChars 10 d.digitChars 0 = d.digits :=
  Nat.ofDigitChars_ten_toDigits

/-- The positional text of a decimal is a literal of the same value: what the exponent is above
zero is written out as zeros.
-/
theorem readLiteral?_positional
    : readLiteral? (d.positional [])
      = some ⟨d.digits * 10 ^ d.exponent.toNat, min d.exponent 0⟩ := by
  have digits : ∀ c ∈ d.digitChars, c.isDigit = true := fun _ => d.isDigit_of_mem_digitChars
  have filled : d.digitChars ≠ [] := Nat.toDigits_ne_nil
  unfold positional
  dsimp only
  split
  · next whole =>
      have all : ∀ c ∈ d.digitChars ++ zeros d.exponent.toNat, c.isDigit = true := by
        intro c member
        exact (List.mem_append.mp member).elim (digits c) isDigit_of_mem_zeros
      rw [List.append_nil, readLiteral?_digits all (List.append_ne_nil_of_left_ne_nil filled _),
        digitsValue_eq, Nat.ofDigitChars_append, zeros, Nat.ofDigitChars_replicate_zero,
        ofDigitChars_digitChars, Int.min_eq_right whole, Nat.mul_comm]
  · next fractional =>
      have none : d.exponent.toNat = 0 := by omega
      have exponent : min d.exponent 0 = d.exponent := by omega
      rw [none, pow_zero, mul_one, exponent]
      split
      · next inside =>
          have before : ∀ c ∈ d.digitChars.take d.pointPosition.toNat, c.isDigit = true :=
            fun c member => digits c (List.mem_of_mem_take member)
          have behind : ∀ c ∈ d.digitChars.drop d.pointPosition.toNat, c.isDigit = true :=
            fun c member => digits c (List.mem_of_mem_drop member)
          have some' : d.digitChars.take d.pointPosition.toNat ≠ [] := by
            rw [Ne, List.take_eq_nil_iff, not_or]
            exact ⟨by omega, filled⟩
          rw [readLiteral?_point before some' behind, List.take_append_drop, digitsValue_eq,
            ofDigitChars_digitChars, List.length_drop]
          congr 2
          rw [pointPosition] at inside ⊢
          omega
      · next outside =>
          have decimals : ∀ c ∈ zeros (-d.pointPosition).toNat ++ d.digitChars,
              c.isDigit = true := by
            intro c member
            exact (List.mem_append.mp member).elim isDigit_of_mem_zeros (digits c)
          have zero : ∀ c ∈ ['0'], c.isDigit = true := List.all_eq_true.mp rfl
          have value : digitsValue (['0'] ++ (zeros (-d.pointPosition).toNat ++ d.digitChars))
              = d.digits := by
            rw [digitsValue_eq, Nat.ofDigitChars_append, Nat.ofDigitChars_append, zeros,
              Nat.ofDigitChars_replicate_zero, Nat.ofDigitChars_cons, Nat.ofDigitChars_nil]
            exact ofDigitChars_digitChars d
          have read := readLiteral?_point zero (List.cons_ne_nil _ _) decimals
          rw [value] at read
          rw [← List.singleton_append, read, List.length_append, zeros, List.length_replicate]
          congr 2
          rw [pointPosition] at outside ⊢
          omega

/-- The positional text of a decimal starts with a digit. -/
theorem exists_positional_eq_cons
    : ∃ c rest, d.positional [] = c :: rest ∧ c.isDigit = true := by
  have filled : d.digitChars ≠ [] := Nat.toDigits_ne_nil
  obtain ⟨c, rest, spelled⟩ := List.exists_cons_of_ne_nil filled
  have digit : c.isDigit = true := d.isDigit_of_mem_digitChars (spelled ▸ List.mem_cons_self)
  unfold positional
  dsimp only
  rw [spelled]
  split
  · exact ⟨c, _, rfl, digit⟩
  · split
    · next inside =>
        obtain ⟨p, position⟩ : ∃ p, d.pointPosition.toNat = p + 1 :=
          ⟨d.pointPosition.toNat - 1, by omega⟩
        rw [position]
        exact ⟨c, _, rfl, digit⟩
    · exact ⟨'0', _, rfl, rfl⟩

theorem of_mem_positional {c : Char} (member : c ∈ d.positional [])
    : c.isDigit = true ∨ c = '.' := by
  have digits : ∀ c ∈ d.digitChars, c.isDigit = true := fun _ => d.isDigit_of_mem_digitChars
  unfold positional at member
  dsimp only at member
  split at member
  · rw [List.append_nil, List.mem_append] at member
    exact .inl (member.elim (digits c) isDigit_of_mem_zeros)
  · split at member
    · rw [List.mem_append, List.mem_cons] at member
      rcases member with member | point | member
      · exact .inl (digits c (List.mem_of_mem_take member))
      · exact .inr point
      · exact .inl (digits c (List.mem_of_mem_drop member))
    · rw [List.mem_cons, List.mem_cons, List.mem_append] at member
      rcases member with zero | point | member | member
      · exact .inl (zero ▸ rfl)
      · exact .inr point
      · exact .inl (isDigit_of_mem_zeros member)
      · exact .inl (digits c member)

end Decimal

-----------------------------------------------------------------------------------------
-- Numbers
-----------------------------------------------------------------------------------------

theorem toLower_of_isDigit {c : Char} (digit : c.isDigit = true) : c.toLower = c := by
  have value := toNat_of_isDigit digit
  refine dif_neg fun upper => ?_
  have upper : 65 ≤ c.toNat := UInt32.le_iff_toNat_le.mp upper.1
  omega

/-- What starts with a digit, behind a sign or not, is read as a literal. -/
theorem readBinary64?_digits (negative : Bool) {c : Char} {rest : List Char}
    (digit : c.isDigit = true)
    : readBinary64? (signText negative ++ c :: rest)
      = (readLiteral? (c :: rest)).map (Literal.toBinary64 negative) := by
  have noWord : ∀ d word, d.isDigit = false → (c :: rest).map Char.toLower ≠ d :: word := by
    intro d word other same
    have first := (List.cons.inj same).1
    rw [toLower_of_isDigit digit] at first
    exact ne_of_isDigit digit other first
  have inf : "inf".toList = 'i' :: ['n', 'f'] := by decide +kernel
  have infinity : "infinity".toList = 'i' :: ['n', 'f', 'i', 'n', 'i', 't', 'y'] := by
    decide +kernel
  have nan : "nan".toList = 'n' :: ['a', 'n'] := by decide +kernel
  have minus : c ≠ '-' := ne_of_isDigit digit rfl
  have plus : c ≠ '+' := ne_of_isDigit digit rfl
  have noWords : ((c :: rest).map Char.toLower = "inf".toList) = False
      ∧ ((c :: rest).map Char.toLower = "infinity".toList) = False
      ∧ ((c :: rest).map Char.toLower = "nan".toList) = False := by
    rw [inf, infinity, nan]
    exact ⟨eq_false (noWord _ _ rfl), eq_false (noWord _ _ rfl), eq_false (noWord _ _ rfl)⟩
  cases negative with
  | true =>
      rw [signText, if_pos rfl, List.singleton_append, readBinary64?]
      simp only [noWords, decide_false, Bool.or_self, Bool.false_eq_true, if_false]
  | false =>
      rw [signText, if_neg Bool.false_ne_true, List.nil_append, readBinary64?]
      · simp only [noWords, decide_false, Bool.or_self, Bool.false_eq_true, if_false]
      · exact fun _ same => minus (List.cons.inj same).1
      · exact fun _ same => plus (List.cons.inj same).1

namespace Binary64

/-- A magnitude that a number can have is kept. -/
theorem ofMagnitude_eq {x : Binary64} (number : x.isNaN = false)
    : ofMagnitude x.negative x.magnitude.val = x := by
  rw [isNaN, decide_eq_false_iff_not, not_lt] at number
  obtain ⟨negative, magnitude⟩ := x
  simp only [ofMagnitude, Nat.min_eq_left number]

/-- No point of the interval of a number is zero. -/
theorem pos_of_contains {x : Binary64} (nonzero : x.isZero = false) {grid : ℤ} {q : ℕ}
    (inside : (RoundingInterval.of x).contains grid q = true)
    : q ≠ 0 := by
  rintro rfl
  have positive := significand_pos nonzero
  have low : 0 < (RoundingInterval.of x).low := by
    simp only [RoundingInterval.of]
    split <;> omega
  have above := (RoundingInterval.contains_iff.mp inside).1.1
  rw [Nat.cast_zero, zero_mul] at above
  have : (0 : ℚ) < (RoundingInterval.of x).low * 2 ^ (RoundingInterval.of x).scale := by positivity
  linarith

/-- The decimal that is found for a number is read as the number. -/
theorem toBinary64_shortest (tie : Tie) {x : Binary64} (finite : x.isFinite = true)
    (nonzero : x.isZero = false)
    : Literal.toBinary64 x.negative
        ⟨(x.shortest tie).digits * 10 ^ (x.shortest tie).exponent.toNat,
          min (x.shortest tie).exponent 0⟩
      = x := by
  obtain ⟨inside, least, greatest⟩ := shortest_contains tie finite nonzero
  generalize x.shortest tie = d at inside least greatest
  have digits := pos_of_contains nonzero inside
  have numerator : (min d.exponent 0).toNat = 0 := by omega
  have denominator : (-(min d.exponent 0)).toNat = (-d.exponent).toNat := by omega
  have value : ((d.digits * 10 ^ d.exponent.toNat : ℕ) / (10 ^ (-d.exponent).toNat : ℕ) : ℚ)
      = d.digits * 10 ^ d.exponent := by
    rw [zpow_eq_div (by norm_num : (10 : ℚ) ≠ 0)]
    push_cast
    ring
  have rounded := roundMagnitude_of_contains nonzero (by positivity) inside value
  rw [Literal.toBinary64, if_neg (by positivity), if_neg (by dsimp only; omega),
    if_neg (by dsimp only; omega)]
  simp only [numerator, denominator, Nat.pow_eq, pow_zero, mul_one]
  rw [nearest, rounded, ofMagnitude_eq (isNaN_of_isFinite finite)]

theorem specialText?_of_isFinite {x : Binary64} (finite : x.isFinite = true)
    : x.specialText? = none := by
  simp only [specialText?, isNaN_of_isFinite finite, isInfinite_of_isFinite finite,
    Bool.false_eq_true, if_false]

/-- The text of a finite number is that of its sign and of a positional decimal. -/
theorem text_of_isFinite {x : Binary64} (finite : x.isFinite = true)
    : x.text .cell = signText x.negative
      ++ if x.isZero then ['0'] else (x.shortest .up).positional [] := by
  rw [text, specialText?_of_isFinite finite]
  rfl

/-- A finite number is read back from the text of a cell. -/
theorem readBinary64?_text_of_isFinite {x : Binary64} (finite : x.isFinite = true)
    : readBinary64? (x.text .cell) = some x := by
  rw [text_of_isFinite finite]
  cases zero : x.isZero with
  | true =>
      have nothing : x.magnitude.val = 0 := beq_iff_eq.mp zero
      have number := isNaN_of_isFinite finite
      have value : digitsValue ['0'] = 0 := by decide
      rw [if_pos rfl, readBinary64?_digits x.negative rfl,
        readLiteral?_digits (List.all_eq_true.mp rfl) (by decide), Option.map_some, value,
        Literal.toBinary64, if_pos rfl, ← nothing, ofMagnitude_eq number]
  | false =>
      obtain ⟨c, rest, spelled, digit⟩ := (x.shortest .up).exists_positional_eq_cons
      rw [if_neg Bool.false_ne_true, spelled, readBinary64?_digits x.negative digit, ← spelled,
        Decimal.readLiteral?_positional, Option.map_some, toBinary64_shortest .up finite zero]

/-- What is no finite number has one of three texts. -/
theorem specialText?_cases (x : Binary64)
    : x.isFinite = true
      ∨ ∃ t ∈ ["NaN".toList, "inf".toList, "-inf".toList], x.text .cell = t := by
  rw [text, specialText?]
  cases number : x.isNaN with
  | true => exact .inr ⟨_, List.mem_cons_self, rfl⟩
  | false =>
      cases infinite : x.isInfinite with
      | true =>
          right
          cases x.negative with
          | true => exact ⟨_, by simp [signText], rfl⟩
          | false => exact ⟨_, by simp [signText], rfl⟩
      | false =>
          left
          rw [isNaN, decide_eq_false_iff_not] at number
          rw [isInfinite, beq_eq_false_iff_ne] at infinite
          rw [isFinite, decide_eq_true_eq]
          omega

/-- Every number is read from the text of a cell, if only as one that is not a number. -/
theorem exists_readBinary64?_text (x : Binary64)
    : ∃ y, readBinary64? (x.text .cell) = some y := by
  have words : ∀ t ∈ ["NaN".toList, "inf".toList, "-inf".toList],
      (readBinary64? t).isSome = true := by
    decide +kernel
  rcases specialText?_cases x with finite | ⟨t, member, same⟩
  · exact ⟨x, readBinary64?_text_of_isFinite finite⟩
  · rw [same]
    exact Option.isSome_iff_exists.mp (words t member)

/-- The text of a cell for a number is made of digits, signs and the letters of two words. -/
theorem of_mem_text {x : Binary64} {c : Char} (member : c ∈ x.text .cell)
    : c.isDigit = true ∨ c ∈ "-.NaNinf".toList := by
  rcases specialText?_cases x with finite | ⟨t, known, same⟩
  · rw [text_of_isFinite finite, List.mem_append] at member
    rcases member with member | member
    · right
      cases negative : x.negative with
      | true =>
          rw [negative] at member
          cases List.mem_singleton.mp member
          decide +kernel
      | false =>
          rw [negative] at member
          cases member
    · split at member
      · cases List.mem_singleton.mp member
        exact .inl rfl
      · rcases Decimal.of_mem_positional _ member with digit | rfl
        · exact .inl digit
        · right
          decide +kernel
  · have words : ∀ t ∈ ["NaN".toList, "inf".toList, "-inf".toList],
        t ⊆ "-.NaNinf".toList := by
      decide +kernel
    rw [same] at member
    exact .inr (words t known member)

end Binary64

end Spreadsheet.Number
