/-! Binary floating-point numbers of 64 bits as a sign and a magnitude.
Magnitudes count the non-negative numbers in order, then infinity, then the values that are
not numbers; equal values of this type therefore are equal bit patterns. Every operation
rounds one exact quotient of naturals to the nearest number, a half going to the even one.
-/

namespace Spreadsheet.Number

/-- Words of this many bits are the numbers below it. -/
def wordLimit (bits : Nat) : Nat := Nat.pow 2 bits

/-- The quotient of two naturals, rounded to the nearest one, a half to the even one. -/
def roundHalfEven (n d : Nat) : Nat :=
  let q := n / d
  let r := n % d
  if 2 * r < d then q else if d < 2 * r then q + 1 else q + q % 2

/-- A sign and the position of the absolute value in the order of all magnitudes. -/
structure Binary64 where
  negative : Bool
  magnitude : Fin (Nat.pow 2 63)
deriving DecidableEq, Repr

namespace Binary64

/-- The magnitude of infinity; those above it stand for values that are not numbers. -/
def infinityMagnitude : Nat := 2047 * Nat.pow 2 52

/-- Infinity has a magnitude. -/
theorem infinityMagnitude_lt : infinityMagnitude < Nat.pow 2 63 := by decide

/-- The number with this sign and magnitude, infinity bounding the magnitude. -/
def ofMagnitude (negative : Bool) (magnitude : Nat) : Binary64 where
  negative := negative
  magnitude := ⟨min magnitude infinityMagnitude,
    Nat.lt_of_le_of_lt (Nat.min_le_right _ _) infinityMagnitude_lt⟩

def zero : Binary64 := ofMagnitude false 0

instance : Inhabited Binary64 := ⟨zero⟩

/-- The one value used here that is not a number. -/
def notANumber : Binary64 := ⟨false, ⟨infinityMagnitude + Nat.pow 2 51, by decide⟩⟩

def infinity (negative : Bool) : Binary64 := ofMagnitude negative infinityMagnitude

def isNaN (x : Binary64) : Bool := decide (infinityMagnitude < x.magnitude.val)

def isInfinite (x : Binary64) : Bool := x.magnitude.val == infinityMagnitude

def isFinite (x : Binary64) : Bool := decide (x.magnitude.val < infinityMagnitude)

def isZero (x : Binary64) : Bool := x.magnitude.val == 0

def neg (x : Binary64) : Binary64 := { x with negative := !x.negative }

/-- A finite number is `significand · 2 ^ scale` up to its sign. -/
def significand (x : Binary64) : Nat :=
  if x.magnitude.val < Nat.pow 2 52 then x.magnitude.val
  else Nat.pow 2 52 + x.magnitude.val % Nat.pow 2 52

/-- The power of two that the significand counts. -/
def scale (x : Binary64) : Int :=
  (max (x.magnitude.val / Nat.pow 2 52) 1 : Nat) - 1075

/-- The greatest `k` with `2 ^ k ≤ n / d`, for positive `n` and `d`. -/
def quotientLog2 (n d : Nat) : Int :=
  let k : Int := (n.log2 : Int) - d.log2
  if n * Nat.pow 2 (-k).toNat < d * Nat.pow 2 k.toNat then k - 1 else k

/-- The magnitude nearest to `n / d`: the quotient is counted in the unit that leaves 53
bits, or in the least unit there is, and a carry moves into the exponent by itself. -/
def roundMagnitude (n d : Nat) : Nat :=
  if n = 0 then 0
  else
    let e := max (quotientLog2 n d - 52) (-1074)
    roundHalfEven (n * Nat.pow 2 (-e).toNat) (d * Nat.pow 2 e.toNat) +
      (e + 1074).toNat * Nat.pow 2 52

/-- The number nearest to the quotient `n / d` with the given sign. -/
def nearest (negative : Bool) (n d : Nat) : Binary64 :=
  ofMagnitude negative (roundMagnitude n d)

/-- The number nearest to `n / d · 2 ^ e`. -/
def nearestScaled (negative : Bool) (n d : Nat) (e : Int) : Binary64 :=
  nearest negative (n * Nat.pow 2 e.toNat) (d * Nat.pow 2 (-e).toNat)

def ofNat (n : Nat) : Binary64 := nearest false n 1

def ofInt (i : Int) : Binary64 := nearest (decide (i < 0)) i.natAbs 1

instance (n : Nat) : OfNat Binary64 n := ⟨ofNat n⟩

/-- Product, rounded once. -/
def mul (x y : Binary64) : Binary64 :=
  let sign := x.negative != y.negative
  if x.isNaN || y.isNaN then notANumber
  else if x.isInfinite || y.isInfinite then
    if x.isZero || y.isZero then notANumber else infinity sign
  else nearestScaled sign (x.significand * y.significand) 1 (x.scale + y.scale)

/-- Quotient, rounded once. -/
def div (x y : Binary64) : Binary64 :=
  let sign := x.negative != y.negative
  if x.isNaN || y.isNaN then notANumber
  else if x.isInfinite then if y.isInfinite then notANumber else infinity sign
  else if y.isInfinite then ofMagnitude sign 0
  else if y.isZero then if x.isZero then notANumber else infinity sign
  else nearestScaled sign x.significand y.significand (x.scale - y.scale)

/-- Equality of numbers: the two zeros are equal, and what is not a number equals nothing. -/
def numEq (x y : Binary64) : Bool :=
  !x.isNaN && !y.isNaN && (x == y || (x.isZero && y.isZero))

/-- The whole part of a non-negative number, at most `limit`; zero for anything else. -/
def floorUpTo (limit : Nat) (x : Binary64) : Nat :=
  if x.isNaN || x.negative then 0
  else if x.isInfinite then limit
  else min limit (x.significand * Nat.pow 2 x.scale.toNat / Nat.pow 2 (-x.scale).toNat)

end Binary64

end Spreadsheet.Number
