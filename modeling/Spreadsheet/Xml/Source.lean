import Spreadsheet.Text.Utf8

/-! What documents are read from: signs, looked at in blocks of bytes as they arrive. A source
may be torn: what should come behind its signs cannot be had, so that nothing ends there.
-/

namespace Spreadsheet.Xml

open Spreadsheet.Text

structure Source where
  signs : List Sign
  isTorn : Bool := false
deriving DecidableEq, Repr

namespace Source

/-- The source of a text. -/
def ofText (s : String) : Source := { signs := Sign.ofText s }

/-- The source of bytes. Those of a text give the same signs as the text. -/
def ofBytes (bytes : List UInt8) : Source :=
  match ofUtf8? bytes with
  | some text => ofText text
  | none => { signs := Sign.ofBytes bytes }

/-- The number of bytes of signs. -/
def byteCount (signs : List Sign) : Nat := signs.foldl (fun n sign => n + sign.byteCount) 0

/-- The place, in bytes from the start, of what is left of the signs. -/
def placeOf (source : Source) (rest : List Sign) : Nat :=
  byteCount source.signs - byteCount rest

/-- A block has this many bytes. -/
def blockSize : Nat := 8192

/-- The number of the block that holds a place. -/
def blockOf (place : Nat) : Nat := place / blockSize

/-- What there is to go on with: what stands behind the last item, or nothing at all if that
was ended by the end of the source alone, which only one that is not torn can do. -/
def onward? (source : Source) : Option (List Sign) → Option (List Sign)
  | some after => some after
  | none => if source.isTorn then none else some []

/-- Going on takes no more than what stands behind an item. -/
theorem length_onward? {source : Source} {after : Option (List Sign)} {rest : List Sign}
    (h : source.onward? after = some rest) : rest.length ≤ (after.getD []).length := by
  cases after with
  | some a => cases h; exact Nat.le_refl _
  | none =>
    simp only [onward?] at h
    split at h
    · cases h
    · cases h; exact Nat.le_refl _

end Source

end Spreadsheet.Xml
