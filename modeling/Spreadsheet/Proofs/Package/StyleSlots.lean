import Spreadsheet.Proofs.Package.StyleNumbers
import Spreadsheet.Proofs.Style.SlotReading

/-! The numbers of the slots of styles. Each calls the slot in its list, no style has the second
fill, and formats are told apart by their numbers: those with a number of their own keep it, and
every other code has one entry.
-/

namespace Spreadsheet

open Spreadsheet.Style

namespace Package.StyleLists

variable {lists lists' lists'' : StyleLists} {style : Style} {styles styles' : List Style}
  {numbers : StyleNumbers}

-----------------------------------------------------------------------------------------
-- Growing lists
-----------------------------------------------------------------------------------------

/-- What adding styles does to the lists: they grow by no more entries than styles were added, and
a code joins once if a style has it and it has no number of its own.
-/
structure Adds (styles : List Style) (lists lists' : StyleLists) : Prop
    extends Grows styles.length lists lists' where
  borders : Extends lists.borders lists'.borders
  borderCount : lists'.borders.size ≤ lists.borders.size + styles.length
  members : ∀ code ∈ lists'.codes, code ∈ lists.codes
    ∨ ∃ style ∈ styles, style.format.builtIn? = none ∧ style.format.text = code
  distinct : lists.codes.toList.Nodup → lists'.codes.toList.Nodup

theorem Adds.refl (lists : StyleLists) : Adds [] lists lists where
  toGrows := .refl lists
  borders := .refl _
  borderCount := Nat.le_refl _
  members _ := .inl
  distinct := id

theorem Adds.trans (first : Adds styles lists lists') (second : Adds styles' lists' lists'')
    : Adds (styles ++ styles') lists lists'' where
  toGrows := List.length_append ▸ first.toGrows.trans second.toGrows
  borders := first.borders.trans second.borders
  borderCount := by
    have := first.borderCount
    have := second.borderCount
    rw [List.length_append]
    omega
  members code member := by
    rcases second.members code member with member | ⟨style, added, own⟩
    · rcases first.members code member with member | ⟨style, added, own⟩
      · exact .inl member
      · exact .inr ⟨style, List.mem_append_left _ added, own⟩
    · exact .inr ⟨style, List.mem_append_right _ added, own⟩
  distinct := second.distinct ∘ first.distinct

/-- The format of a style adds its code at most. -/
theorem number_codes (lists : StyleLists) (style : Style)
    : (∀ code ∈ (lists.number style.format).2.codes, code ∈ lists.codes
        ∨ ∃ other ∈ [style], other.format.builtIn? = none ∧ other.format.text = code)
      ∧ (lists.codes.toList.Nodup → (lists.number style.format).2.codes.toList.Nodup) := by
  rw [number]
  cases builtIn : style.format.builtIn? with
  | some i => exact ⟨fun _ => .inl, id⟩
  | none =>
      refine ⟨fun code member => ?_, nodup_intern rfl⟩
      refine (mem_of_mem_intern member).imp_right ?_
      rintro rfl
      exact ⟨style, List.mem_singleton_self style, builtIn, rfl⟩

theorem add_adds (lists : StyleLists) (style : Style)
    : Adds [style] lists (lists.add style).2 := by
  obtain ⟨members, distinct⟩ := lists.number_codes style
  obtain ⟨-, codes, same, -⟩ := lists.number_calls style.format
  have grows := (lists.add_calls style).2
  rw [add] at grows ⊢
  generalize lists.number style.format = numbered at members distinct same grows
  obtain ⟨number, lists'⟩ := numbered
  cases same
  exact {
    toGrows := grows
    borders := extends_intern _ _ _
    borderCount := size_intern_le _ _ _
    members := members
    distinct := distinct }

-----------------------------------------------------------------------------------------
-- Slots under their numbers
-----------------------------------------------------------------------------------------

/-- The first two fills are none, so that the second one is never the first of its kind. -/
structure Reserves (lists : StyleLists) : Prop where
  first : lists.fills[0]? = some .none
  second : lists.fills[1]? = some .none

theorem Reserves.adds (reserves : lists.Reserves) (adds : Adds styles lists lists')
    : lists'.Reserves where
  first := adds.fills 0 _ reserves.first
  second := adds.fills 1 _ reserves.second

/-- The numbers call all slots of a style in the lists, and none of them is the second fill. -/
structure Resolves (lists : StyleLists) (style : Style) (numbers : StyleNumbers) : Prop
    extends Calls lists style numbers where
  border : lists.borders[numbers.border]? = some style.border
  unreserved : numbers.fill ≠ 1

theorem Resolves.adds (resolves : lists.Resolves style numbers) (adds : Adds styles lists lists')
    : lists'.Resolves style numbers where
  toCalls := resolves.toCalls.grows adds.toGrows
  border := adds.borders _ _ resolves.border
  unreserved := resolves.unreserved

theorem add_resolves (reserves : lists.Reserves) (style : Style)
    : (lists.add style).2.Resolves style (lists.add style).1 := by
  obtain ⟨-, codes, same, -⟩ := lists.number_calls style.format
  have calls := (lists.add_calls style).1
  have unreserved : (intern (fun _ => true) lists.fills style.fill).1 ≠ 1 := by
    intro second
    have found := getElem?_intern (fun _ => true) lists.fills style.fill
    rw [second, extends_intern _ _ _ 1 _ reserves.second] at found
    exact getElem?_ne_of_lt_intern rfl (second ▸ Nat.one_pos) (reserves.first.trans found)
  rw [add] at calls ⊢
  generalize lists.number style.format = numbered at same calls
  obtain ⟨number, lists'⟩ := numbered
  cases same
  exact ⟨calls, getElem?_intern _ _ _, unreserved⟩

/-- The numbers of styles that were added one after the other call all their slots at the end, by
induction on the styles.
-/
theorem addAll_resolves (reserves : lists.Reserves) (styles : List Style)
    : List.Forall₂ (lists.addAll styles).2.Resolves styles (lists.addAll styles).1
      ∧ Adds styles lists (lists.addAll styles).2 := by
  induction styles generalizing lists with
  | nil => exact ⟨.nil, .refl lists⟩
  | cons style rest ih =>
      have first := add_resolves reserves style
      have adds := lists.add_adds style
      obtain ⟨others, further⟩ := ih (reserves.adds adds)
      rw [addAll]
      exact ⟨.cons (first.adds further) others, adds.trans further⟩

-----------------------------------------------------------------------------------------
-- Number formats
-----------------------------------------------------------------------------------------

/-- Formats without a number of their own are told apart by their codes. -/
theorem eq_of_text_eq {a b : NumberFormat} (ownA : a.builtIn? = none) (ownB : b.builtIn? = none)
    (same : a.text = b.text)
    : a = b := by
  cases a with
  | general => cases ownA
  | code _ =>
      cases b with
      | general => cases ownB
      | code _ => exact congrArg NumberFormat.code same

/-- A format has one number. -/
theorem CallsFormat.number_unique (distinct : lists.codes.toList.Nodup) {format : NumberFormat}
    {m n : Nat} (calls : lists.CallsFormat format m) (calls' : lists.CallsFormat format n)
    : m = n := by
  rcases calls with builtIn | ⟨own, i, rfl, found⟩
  · rcases calls' with builtIn' | ⟨own', -⟩
    · exact Option.some.inj (builtIn.symm.trans builtIn')
    · exact absurd (builtIn.symm.trans own') nofun
  · rcases calls' with builtIn' | ⟨-, j, rfl, found'⟩
    · exact absurd (own.symm.trans builtIn') nofun
    · rw [place_unique distinct found found']

/-- A number calls one format: those of listed codes are beyond all others. -/
theorem CallsFormat.format_unique {a b : NumberFormat} {number : Nat}
    (calls : lists.CallsFormat a number) (calls' : lists.CallsFormat b number)
    : a = b := by
  rcases calls with builtIn | ⟨own, i, rfl, found⟩
  · obtain ⟨read, small, -⟩ := NumberFormat.of_builtIn? builtIn
    rcases calls' with builtIn' | ⟨-, j, rfl, -⟩
    · exact Option.some.inj (read.symm.trans (NumberFormat.of_builtIn? builtIn').1)
    · exact absurd small (Nat.not_lt.mpr (Nat.le_add_right _ j))
  · rcases calls' with builtIn' | ⟨own', j, place, found'⟩
    · have small := (NumberFormat.of_builtIn? builtIn').2.1
      exact absurd small (Nat.not_lt.mpr (Nat.le_add_right _ i))
    · rw [← Nat.add_left_cancel place, found] at found'
      exact eq_of_text_eq own own' (Option.some.inj found')

/-- The codes that were listed, with their numbers. -/
def codeEntries (lists : StyleLists) : List (Nat × String) :=
  lists.codes.toList.zipIdx.map fun (code, i) => (firstCustomFormat + i, code)

theorem mem_codeEntries {entry : Nat × String}
    : entry ∈ lists.codeEntries
      ↔ ∃ i, entry.1 = firstCustomFormat + i ∧ lists.codes[i]? = some entry.2 := by
  simp only [codeEntries, List.mem_map, Prod.exists, List.mk_mem_zipIdx_iff_getElem?,
    Array.getElem?_toList]
  constructor
  · rintro ⟨code, i, found, rfl⟩
    exact ⟨i, rfl, found⟩
  · rintro ⟨i, number, found⟩
    exact ⟨entry.2, i, found, Prod.ext number.symm rfl⟩

theorem nodup_codeEntries (distinct : lists.codes.toList.Nodup) : lists.codeEntries.Nodup := by
  have codes : lists.codeEntries.map Prod.snd = lists.codes.toList := by
    rw [codeEntries, List.map_map]
    exact List.zipIdx_map_fst 0 _
  exact List.Nodup.of_map Prod.snd (codes ▸ distinct)

/-- A code without a number of its own has one entry, and no other entry has its number. -/
theorem CallsFormat.filter_codeEntries (distinct : lists.codes.toList.Nodup)
    {format : NumberFormat} {number : Nat} (calls : lists.CallsFormat format number)
    (own : format.builtIn? = none)
    : lists.codeEntries.filter (fun entry => entry.1 = number ∨ entry.2 = format.text)
      = [(number, format.text)] := by
  obtain builtIn | ⟨-, i, rfl, found⟩ := calls
  · exact absurd (own.symm.trans builtIn) nofun
  refine List.perm_singleton.mp ((List.perm_ext_iff_of_nodup
    ((nodup_codeEntries distinct).filter _) (List.nodup_singleton _)).mpr fun entry => ?_)
  rw [List.mem_filter, mem_codeEntries, List.mem_singleton, decide_eq_true_iff]
  constructor
  · rintro ⟨⟨j, numbered, found'⟩, same⟩
    have place : j = i := by
      rcases same with same | same
      · exact Nat.add_left_cancel (numbered.symm.trans same)
      · exact place_unique distinct (same ▸ found') found
    subst place
    exact Prod.ext numbered (Option.some.inj (found'.symm.trans found))
  · rintro rfl
    exact ⟨⟨i, rfl, found⟩, .inl rfl⟩

end Package.StyleLists

end Spreadsheet
