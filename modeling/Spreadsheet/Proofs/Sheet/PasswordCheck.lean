import Spreadsheet.Sheet.Layout

/-! The check word of a password in closed form. The loop rotates one word while it takes in byte
after byte; as rotations distribute over exclusive or, each byte ends up rotated by its own place.
-/

namespace Spreadsheet.Sheet.Protection

-----------------------------------------------------------------------------------------
-- Rotations
-----------------------------------------------------------------------------------------

section Rotations

variable {width : Nat} (x y : BitVec width) (places : Nat)

/-- A bit of a rotated word stood as many places further right before, around the end. -/
theorem getLsbD_rotateLeft_eq {i : Nat} (inside : i < width)
    : (x.rotateLeft places).getLsbD i = x.getLsbD (((i : Int) - places) % width).toNat := by
  have turn : places % width < width := Nat.mod_lt _ (Nat.zero_lt_of_lt inside)
  have reduced : ((i : Int) - places) % width = ((i : Int) - (places % width : Nat)) % width := by
    rw [Int.natCast_emod, Int.sub_emod_emod]
  rw [BitVec.getLsbD_rotateLeft, reduced]
  generalize places % width = turned at turn
  by_cases front : i < turned
  · have around : ((i : Int) - turned) % width = i - turned + width := by
      rw [← Int.add_emod_right, Int.emod_eq_of_lt (by omega) (by omega)]
    simp only [front, decide_true, cond_true, around]
    congr 1
    omega
  · have back : ((i : Int) - turned) % width = i - turned :=
      Int.emod_eq_of_lt (by omega) (by omega)
    simp only [front, inside, decide_false, decide_true, cond_false, Bool.true_and, back]
    congr 1
    omega

theorem rotateLeft_zero : x.rotateLeft 0 = x := by
  refine BitVec.eq_of_getLsbD_eq fun i inside => ?_
  rw [getLsbD_rotateLeft_eq _ _ inside, Int.natCast_zero, Int.sub_zero,
    Int.emod_eq_of_lt (by omega) (by omega), Int.toNat_natCast]

theorem rotateLeft_xor
    : (x ^^^ y).rotateLeft places = x.rotateLeft places ^^^ y.rotateLeft places := by
  refine BitVec.eq_of_getLsbD_eq fun i inside => ?_
  simp only [getLsbD_rotateLeft_eq _ _ inside, BitVec.getLsbD_xor]

/-- Rotating once more is rotating by one more place. -/
theorem rotateLeft_rotateLeft_one
    : (x.rotateLeft places).rotateLeft 1 = x.rotateLeft (places + 1) := by
  refine BitVec.eq_of_getLsbD_eq fun i inside => ?_
  have positive : (0 : Int) < width := by omega
  have low := Int.emod_nonneg ((i : Int) - (1 : Nat)) (Int.ne_of_gt positive)
  have high := Int.emod_lt_of_pos ((i : Int) - (1 : Nat)) positive
  rw [getLsbD_rotateLeft_eq _ _ inside, getLsbD_rotateLeft_eq _ _ inside,
    getLsbD_rotateLeft_eq _ _ (by omega), Int.toNat_of_nonneg low, Int.emod_sub_emod]
  congr 3
  omega

/-- On words of 15 bits the rotation by shifts and masks is the rotation by one place. -/
theorem rotate15_toNat (x : BitVec 15) : rotate15 x.toNat = (x.rotateLeft 1).toNat := by
  have low : x.toNat <<< 1 &&& 0x7FFF = x.toNat <<< 1 % 2 ^ 15 :=
    Nat.and_two_pow_sub_one_eq_mod _ 15
  have high : x.toNat >>> 14 &&& 1 = x.toNat >>> 14 := by
    rw [Nat.and_one_is_mod, Nat.shiftRight_eq_div_pow]
    omega
  rw [rotate15, low, high, BitVec.toNat_rotateLeft, Nat.or_comm]

end Rotations

-----------------------------------------------------------------------------------------
-- Bytes in their places
-----------------------------------------------------------------------------------------

/-- The bits of a byte in a word of 15 bits, rotated left by some places. -/
def rotatedByte (byte : UInt8) (places : Nat) : BitVec 15 :=
  (byte.toBitVec.setWidth 15).rotateLeft places

/-- The exclusive or of bytes, each rotated by its place; places are counted from the given one. -/
def rotatedBytes (first : Nat) (bytes : List UInt8) : BitVec 15 :=
  (bytes.zipIdx first).foldr (fun (byte, place) word => rotatedByte byte place ^^^ word) 0

/-- The check word of bytes: each is rotated by its place, counted from one, and a constant and the
number of bytes, as far as 16 bits hold it, are put to them.
-/
def checkWord (bytes : List UInt8) : BitVec 16 :=
  0xCE4B ^^^ BitVec.ofNat 16 bytes.length ^^^ (rotatedBytes 1 bytes).setWidth 16

section Places

variable (byte : UInt8) (bytes : List UInt8) (place : Nat)

theorem rotatedBytes_cons
    : rotatedBytes place (byte :: bytes)
      = rotatedByte byte place ^^^ rotatedBytes (place + 1) bytes := by
  rw [rotatedBytes, List.zipIdx_cons, List.foldr_cons, rotatedBytes]

/-- Rotating all bytes together moves each to the next place, by induction on them. -/
theorem rotateLeft_rotatedBytes
    : (rotatedBytes place bytes).rotateLeft 1 = rotatedBytes (place + 1) bytes := by
  induction bytes generalizing place with
  | nil =>
      have none (first : Nat) : rotatedBytes first [] = 0 := rfl
      rw [none, none]
      decide
  | cons byte rest ih =>
      rw [rotatedBytes_cons, rotatedBytes_cons, rotateLeft_xor, ih, rotatedByte,
        rotateLeft_rotateLeft_one, rotatedByte]

/-- Taking in a byte rotates the word, which stays one of 15 bits. -/
theorem rotate15_xor_toNat (word : BitVec 15)
    : rotate15 word.toNat ^^^ byte.toNat = (word.rotateLeft 1 ^^^ rotatedByte byte 0).toNat := by
  have wide : byte.toNat = (rotatedByte byte 0).toNat := by
    rw [rotatedByte, rotateLeft_zero, BitVec.toNat_setWidth_of_le (by decide),
      UInt8.toNat_toBitVec]
  rw [rotate15_toNat, wide, BitVec.toNat_xor]

/-- The loop takes in the bytes from the last to the first, by induction on them: what was taken
in before moves on by one place.
-/
theorem foldr_rotate15
    : (bytes.map UInt8.toNat).foldr (fun b h => rotate15 h ^^^ b) 0
      = (rotatedBytes 0 bytes).toNat := by
  induction bytes with
  | nil => rfl
  | cons byte rest ih =>
      rw [List.map_cons, List.foldr_cons, ih, rotate15_xor_toNat, rotateLeft_rotatedBytes,
        rotatedBytes_cons, BitVec.xor_comm]

theorem hashBytes_eq_checkWord
    : hashBytes (bytes.map UInt8.toNat) = (checkWord bytes).toNat := by
  rw [hashBytes, foldr_rotate15, rotate15_toNat, rotateLeft_rotatedBytes, List.length_map,
    checkWord, BitVec.toNat_xor, BitVec.toNat_xor, BitVec.toNat_ofNat,
    BitVec.toNat_setWidth_of_le (by decide), Nat.xor_comm, Nat.xor_comm _ (_ % _), ← Nat.xor_assoc]
  rfl

end Places

/-- A protection has the check word of its password's bytes, unless there is no password. -/
theorem hash?_eq_checkWord (p : Protection)
    : p.hash? = if p.password = "" then none
        else some (checkWord p.password.toUTF8.toList).toNat := by
  simp only [hash?, hashBytes_eq_checkWord, String.isEmpty_iff]

example : ({ password := "test" } : Protection).hash? = some 0xCBEB := by decide +kernel

end Spreadsheet.Sheet.Protection
