import Spreadsheet.Number.Binary64

/-! Reading numbers from text: whole numbers in a range, and decimal numbers with an optional
sign, fraction and exponent, rounded once.
-/

namespace Spreadsheet.Number

/-- The value of a decimal digit. -/
def digitValue (c : Char) : Nat := c.toNat - '0'.toNat

/-- Digits in the square of a base from digits in the base, both lowest first. -/
def joinDigits (base : Nat) : List Nat → List Nat
  | low :: high :: rest => (low + base * high) :: joinDigits base rest
  | rest => rest

/-- Joining halves the number of digits, by induction on pairs. -/
theorem length_joinDigits (base : Nat) (ds : List Nat)
    : (joinDigits base ds).length = (ds.length + 1) / 2 := by
  fun_induction joinDigits base ds with
  | case1 low high rest ih =>
    simp only [List.length_cons, ih]
    omega
  | case2 rest h =>
    match rest with
    | [] => simp
    | [_] => simp
    | a :: b :: r => exact absurd rfl (h a b r)

/-- The number with some digits in a base, lowest first. It is put together from halves, so that
it takes little time to read a long one. -/
def joinedDigits (base : Nat) (ds : List Nat) : Nat :=
  match ds with
  | [] => 0
  | [d] => d
  | low :: high :: rest => joinedDigits (base * base) (joinDigits base (low :: high :: rest))
termination_by ds.length
decreasing_by
  simp only [length_joinDigits, List.length_cons]
  omega

/-- Joining digits keeps their value, by induction on pairs. -/
theorem foldr_joinDigits (base : Nat) (ds : List Nat)
    : (joinDigits base ds).foldr (fun d n => d + base * base * n) 0 =
      ds.foldr (fun d n => d + base * n) 0 := by
  fun_induction joinDigits base ds with
  | case1 low high rest ih =>
    simp only [List.foldr_cons, ih]
    simp only [Nat.mul_add, Nat.mul_assoc, Nat.add_assoc]
  | case2 rest h =>
    match rest with
    | [] => simp
    | [_] => simp
    | a :: b :: r => exact absurd rfl (h a b r)

/-- Digits put together are their value, by induction on their halves. -/
theorem joinedDigits_eq_foldr (base : Nat) (ds : List Nat)
    : joinedDigits base ds = ds.foldr (fun d n => d + base * n) 0 := by
  fun_induction joinedDigits base ds with
  | case1 => rfl
  | case2 => rfl
  | case3 base low high rest ih => rw [ih, foldr_joinDigits]

/-- Runs of digits that are longer than this are put together from halves. -/
def longRun : Nat := 40

/-- The value of a run of decimal digits. -/
def digitsValue (ds : List Char) : Nat :=
  if ds.length < longRun then ds.foldl (fun n c => 10 * n + digitValue c) 0
  else joinedDigits 10 (ds.reverse.map digitValue)

/-- The value of digits is found from the first one on, whatever their number. -/
theorem digitsValue_eq_foldl (ds : List Char)
    : digitsValue ds = ds.foldl (fun n c => 10 * n + digitValue c) 0 := by
  unfold digitsValue
  split
  · rfl
  · simp only [joinedDigits_eq_foldr, List.foldr_map, List.foldr_reverse, Nat.add_comm]

/-- The longest run of decimal digits at the front, and what follows it. -/
def spanDigits (s : List Char) : List Char × List Char := s.span Char.isDigit

/-- A natural number below `limit`: an optional plus sign and decimal digits. -/
def readNat? (limit : Nat) (s : List Char) : Option Nat :=
  let ds := match s with
    | '+' :: rest => rest
    | _ => s
  if ds.isEmpty || !ds.all Char.isDigit then none
  else
    let n := digitsValue ds
    if n < limit then some n else none

/-- An unsigned decimal number before rounding: `digits · 10 ^ exponent`. -/
structure Literal where
  digits : Nat
  exponent : Int
deriving DecidableEq, Repr

namespace Literal

/-- The number nearest to a literal. Exponents far outside the range need no power of ten: as
there are no more decimal than binary digits, such literals lie far outside it too. -/
def toBinary64 (negative : Bool) (l : Literal) : Binary64 :=
  if l.digits = 0 then .ofMagnitude negative 0
  else if 400 < l.exponent then .infinity negative
  else if l.exponent + l.digits.log2 < -400 then .ofMagnitude negative 0
  else
    .nearest negative (l.digits * Nat.pow 10 l.exponent.toNat) (Nat.pow 10 (-l.exponent).toNat)

end Literal

/-- The value of the digits of an exponent. Once it is out of all reason, further digits count
for nothing. -/
def exponentValue (ds : List Char) : Nat :=
  ds.foldl (fun n c => if n < wordLimit 16 then 10 * n + digitValue c else n) 0

/-- An exponent: `e` or `E`, an optional sign and digits; none at all is zero. -/
def readExponent? : List Char → Option Int
  | [] => some 0
  | e :: rest =>
    if e != 'e' && e != 'E' then none
    else
      let (negative, ds) := match rest with
        | '-' :: ds => (true, ds)
        | '+' :: ds => (false, ds)
        | ds => (false, ds)
      if ds.isEmpty || !ds.all Char.isDigit then none
      else
        let n : Int := exponentValue ds
        some (if negative then -n else n)

/-- Digits, an optional fraction and an optional exponent; a digit must stand on at least
one side of the point. -/
def readLiteral? (s : List Char) : Option Literal :=
  let (whole, rest) := spanDigits s
  let (fraction, rest) := match rest with
    | '.' :: rest => spanDigits rest
    | _ => ([], rest)
  if whole.isEmpty && fraction.isEmpty then none
  else do
    let e ← readExponent? rest
    return ⟨digitsValue (whole ++ fraction), e - fraction.length⟩

/-- A number: an optional sign, then `inf`, `infinity` or `nan` in any case, or a decimal. -/
def readBinary64? (s : List Char) : Option Binary64 :=
  let (negative, s) := match s with
    | '-' :: rest => (true, rest)
    | '+' :: rest => (false, rest)
    | _ => (false, s)
  let word := s.map Char.toLower
  if word = "inf".toList || word = "infinity".toList then some (.infinity negative)
  else if word = "nan".toList then some .notANumber
  else (readLiteral? s).map (Literal.toBinary64 negative)

end Spreadsheet.Number
