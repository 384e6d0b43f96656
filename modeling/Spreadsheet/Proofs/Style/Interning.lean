import Mathlib.Data.List.Nodup
import Mathlib.Data.List.Pairwise
import Spreadsheet.Style.Pool

/-! What is found under the numbers of entries, and how lists of numbered entries grow. A pool of
styles is such a list. It tells styles apart by the bits of their font sizes, so that it can hold
two styles that differ in the sign of a size of zero.
-/

namespace Spreadsheet.Style

-----------------------------------------------------------------------------------------
-- Numbered entries
-----------------------------------------------------------------------------------------

/-- A new entry is found under the number it is given. -/
theorem getElem?_intern [DecidableEq α] (comparable : α → Bool) (list : Array α) (item : α)
    : (intern comparable list item).2[(intern comparable list item).1]? = some item := by
  unfold intern
  split
  · next i found =>
      split at found
      · obtain ⟨h, same, -⟩ := Array.findIdx?_eq_some_iff_getElem.mp found
        simp_all
      · cases found
  · simp

/-- Entries that are there already keep their numbers. -/
theorem getElem?_intern_of_lt [DecidableEq α] (comparable : α → Bool) {list : Array α}
    (item : α) {i : Nat} (known : i < list.size)
    : (intern comparable list item).2[i]? = list[i]? := by
  unfold intern
  split
  · rfl
  · simp [Array.getElem?_push, Nat.ne_of_lt known]

section Growing

variable {α : Type}

/-- What one list holds the other holds under the same number. -/
def Extends (list list' : Array α) : Prop :=
  ∀ (i : Nat) (a : α), list[i]? = some a → list'[i]? = some a

theorem Extends.refl (list : Array α) : Extends list list := fun _ _ => id

theorem Extends.trans {list list' list'' : Array α} (first : Extends list list')
    (second : Extends list' list'')
    : Extends list list'' :=
  fun i a found => second i a (first i a found)

/-- An entry of a list without repetitions has one number. -/
theorem place_unique {list : Array α} (distinct : list.toList.Nodup) {i j : Nat} {item : α}
    (here : list[i]? = some item) (there : list[j]? = some item)
    : i = j := by
  obtain ⟨inside, -⟩ := Array.getElem?_eq_some_iff.mp here
  rw [← Array.getElem?_toList] at here there
  exact (List.getElem?_inj (by simpa using inside) distinct).mp (here.trans there.symm)

variable [DecidableEq α] (comparable : α → Bool) (list : Array α) (item : α)

theorem extends_intern : Extends list (intern comparable list item).2 := by
  intro i a found
  obtain ⟨known, -⟩ := Array.getElem?_eq_some_iff.mp found
  rw [getElem?_intern_of_lt comparable item known]
  exact found

theorem size_intern_le : (intern comparable list item).2.size ≤ list.size + 1 := by
  unfold intern
  split
  · exact Nat.le_succ _
  · exact Nat.le_of_eq (Array.size_push item)

variable {comparable list item}

theorem mem_of_mem_intern {a : α} (member : a ∈ (intern comparable list item).2)
    : a ∈ list ∨ a = item := by
  unfold intern at member
  split at member
  · exact .inl member
  · exact Array.mem_push.mp member

theorem not_mem_of_findIdx? (absent : list.findIdx? (· == item) = none) : item ∉ list := by
  intro member
  have other := Array.findIdx?_eq_none_iff.mp absent item member
  exact absurd other (by simp)

/-- The number of an entry that can be found again is that of its first place. -/
theorem getElem?_ne_of_lt_intern (known : comparable item = true) {i : Nat}
    (before : i < (intern comparable list item).1)
    : list[i]? ≠ some item := by
  intro found
  unfold intern at before
  rw [if_pos known] at before
  split at before
  · next first =>
      obtain ⟨_, -, others⟩ := Array.findIdx?_eq_some_iff_getElem.mp first
      obtain ⟨inside, rfl⟩ := Array.getElem?_eq_some_iff.mp found
      exact others i before (beq_self_eq_true _)
  · next absent => exact not_mem_of_findIdx? absent (Array.mem_of_getElem? found)

/-- An entry that can be found again does not join the list once more. -/
theorem intern_of_mem (known : comparable item = true) (member : item ∈ list)
    : (intern comparable list item).2 = list := by
  unfold intern
  rw [if_pos known]
  split
  · rfl
  · next absent => exact absurd member (not_mem_of_findIdx? absent)

/-- An entry that can be found again joins a list without repetitions once at most. -/
theorem nodup_intern (known : comparable item = true) (distinct : list.toList.Nodup)
    : (intern comparable list item).2.toList.Nodup := by
  unfold intern
  rw [if_pos known]
  split
  · exact distinct
  · next absent =>
      rw [Array.toList_push]
      refine List.nodup_append.mpr ⟨distinct, List.pairwise_singleton _ item, ?_⟩
      intro a member b single
      cases List.mem_singleton.mp single
      rintro rfl
      exact not_mem_of_findIdx? absent (Array.mem_toList_iff.mp member)

end Growing

-----------------------------------------------------------------------------------------
-- Pools
-----------------------------------------------------------------------------------------

namespace Pool

theorem get_insert (pool : Pool) (style : Style)
    : (pool.insert style).2.get (pool.insert style).1 = style := by
  simp [insert, get, getElem?_intern]

theorem get_insert_of_lt {pool : Pool} (style : Style) {i : Nat} (known : i < pool.size)
    : (pool.insert style).2.get i = pool.get i := by
  simp only [insert, get]
  rw [getElem?_intern_of_lt _ _ known]

theorem insert_lt_size (pool : Pool) (style : Style)
    : (pool.insert style).1 < (pool.insert style).2.size := by
  have found := getElem?_intern Style.isComparable pool.styles style
  exact (Array.getElem?_eq_some_iff.mp found).1

theorem getElem?_eq_some_get {pool : Pool} {i : Nat} (known : i < pool.size)
    : pool.styles[i]? = some (pool.get i) := by
  rw [get, Array.getElem?_eq_getElem known, Option.getD_some]

/-- Pools only grow. -/
theorem size_le_size_insert (pool : Pool) (style : Style)
    : pool.size ≤ (pool.insert style).2.size := by
  simp only [insert, size, intern]
  split <;> simp

theorem extends_insert (pool : Pool) (style : Style)
    : Extends pool.styles (pool.insert style).2.styles :=
  extends_intern Style.isComparable pool.styles style

theorem mem_insert {pool : Pool} {style other : Style}
    : other ∈ (pool.insert style).2.styles ↔ other ∈ pool.styles ∨ other = style := by
  refine ⟨mem_of_mem_intern, ?_⟩
  rintro (member | rfl)
  · obtain ⟨i, found⟩ := Array.mem_iff_getElem?.mp member
    exact Array.mem_of_getElem? (pool.extends_insert style i other found)
  · exact Array.mem_of_getElem? (getElem?_intern Style.isComparable pool.styles other)

/-- The default style has number zero and no other one, and no other style has two numbers unless
the size of some font is not a number.
-/
structure Lawful (pool : Pool) : Prop where
  first : pool.styles[0]? = some ({} : Style)
  only : ∀ i : Nat, pool.styles[i]? = some ({} : Style) → i = 0
  nodup : (∀ style ∈ pool.styles, style.isComparable) → pool.styles.toList.Nodup

theorem Lawful.empty : Lawful .empty where
  first := rfl
  only i found := by
    obtain ⟨inside, -⟩ := Array.getElem?_eq_some_iff.mp found
    exact Nat.lt_one_iff.mp inside
  nodup _ := List.nodup_singleton _

/-- A style that is found again gets no second number. -/
theorem Lawful.insert {pool : Pool} (lawful : pool.Lawful) (style : Style)
    : (pool.insert style).2.Lawful where
  first := pool.extends_insert style 0 {} lawful.first
  only i found := by
    simp only [Pool.insert, intern] at found
    split at found
    · exact lawful.only i found
    · next absent =>
        rw [Array.getElem?_push] at found
        split at found
        · cases found
          have known := Array.mem_of_getElem? lawful.first
          have other := Array.findIdx?_eq_none_iff.mp absent _ known
          exact absurd other (by simp)
        · exact lawful.only i found
  nodup comparable :=
    nodup_intern (comparable style (mem_insert.mpr (.inr rfl)))
      (lawful.nodup fun other member => comparable other (mem_insert.mpr (.inl member)))

end Pool

-----------------------------------------------------------------------------------------
-- Equality of styles
-----------------------------------------------------------------------------------------

/-- The styles are equal, the sizes of their fonts as numbers are: a zero equals a zero of the other
sign, and what is not a number equals nothing.
-/
def same (a b : Style) : Bool :=
  a.font.size.numEq b.font.size
    && { a with font := { a.font with size := b.font.size } } == b

/-- The second style is the first one with a size of zero of the other sign. -/
def IsTwin (a b : Style) : Prop :=
  a.font.size.isZero ∧ b = { a with font := { a.font with size := a.font.size.neg } }

instance (a b : Style) : Decidable (a.IsTwin b) := inferInstanceAs (Decidable (_ ∧ _))

variable {a b : Style}

/-- Zeros of different signs are each other's negatives. -/
theorem neg_eq_of_isZero {x y : Number.Binary64} (zero : x.isZero) (zero' : y.isZero)
    (different : x ≠ y)
    : y = x.neg := by
  obtain ⟨negative, ⟨magnitude, _⟩⟩ := x
  obtain ⟨negative', ⟨magnitude', _⟩⟩ := y
  obtain rfl : magnitude = 0 := beq_iff_eq.mp zero
  obtain rfl : magnitude' = 0 := beq_iff_eq.mp zero'
  cases negative <;> cases negative' <;> first | rfl | exact absurd rfl different

/-- Styles with sizes that are numbers are equal if they are the same or twins. -/
theorem same_iff (comparable : a.isComparable) : a.same b ↔ a = b ∨ a.IsTwin b := by
  have number : a.font.size.isNaN = false := by
    simpa [isComparable, Font.isComparable] using comparable
  simp only [same, Number.Binary64.numEq, Bool.and_eq_true, Bool.or_eq_true, beq_iff_eq,
    Bool.not_eq_true']
  constructor
  · rintro ⟨⟨-, size⟩, rest⟩
    by_cases bits : a.font.size = b.font.size
    · rw [← bits] at rest
      exact .inl rest
    · have zeros := size.resolve_left bits
      rw [neg_eq_of_isZero zeros.1 zeros.2 bits] at rest
      exact .inr ⟨zeros.1, rest.symm⟩
  · rintro (rfl | ⟨zero, rfl⟩)
    · exact ⟨⟨⟨number, number⟩, .inl rfl⟩, rfl⟩
    · exact ⟨⟨⟨number, number⟩, .inr ⟨zero, zero⟩⟩, rfl⟩

theorem IsTwin.symm (twin : a.IsTwin b) : b.IsTwin a := by
  obtain ⟨zero, rfl⟩ := twin
  exact ⟨zero, by simp [Number.Binary64.neg]⟩

theorem IsTwin.ne (twin : a.IsTwin b) : a ≠ b := by
  obtain ⟨-, rfl⟩ := twin
  intro equal
  have sign := congrArg (·.font.size.negative) equal
  simp [Number.Binary64.neg] at sign

/-- The default style has no twin. -/
theorem not_isTwin_default (b : Style) : ¬ ({} : Style).IsTwin b :=
  fun twin => absurd twin.1 (by decide)

/-- No two styles of the pool are equal. -/
def Pool.Distinct (pool : Pool) : Prop :=
  pool.styles.toList.Pairwise fun a b => a.same b = false

/-- A pool tells its styles apart by their bits, so that only twins can be equal. -/
theorem Pool.Lawful.distinct_iff {pool : Pool} (lawful : pool.Lawful)
    (comparable : ∀ style ∈ pool.styles, style.isComparable)
    : pool.Distinct ↔ ∀ a ∈ pool.styles, ∀ b ∈ pool.styles, ¬ a.IsTwin b := by
  constructor
  · intro distinct a member b member' twin
    have apart : pool.styles.toList.Pairwise fun a b => ¬ a.IsTwin b := by
      refine distinct.imp_of_mem fun inside _ different twin => ?_
      have same := (same_iff (comparable _ (Array.mem_toList_iff.mp inside))).mpr (.inr twin)
      rw [different] at same
      cases same
    have : Std.Symm fun a b : Style => ¬ a.IsTwin b := ⟨fun _ _ other twin => other twin.symm⟩
    exact apart.forall (Array.mem_toList_iff.mpr member) (Array.mem_toList_iff.mpr member')
      twin.ne twin
  · intro apart
    refine (lawful.nodup comparable).pairwise_of_forall_ne fun a member b member' different => ?_
    have member := Array.mem_toList_iff.mp member
    have member' := Array.mem_toList_iff.mp member'
    rw [← Bool.not_eq_true, same_iff (comparable a member)]
    rintro (equal | twin)
    · exact different equal
    · exact apart a member b member' twin

/-- The pool holds the default style as its first one, and besides it just the styles that were
given. If their sizes are numbers no two styles of the pool are equal, unless twins were given.
-/
structure Pool.Interns (pool : Pool) (given : List Style) : Prop where
  first : pool.styles[0]? = some ({} : Style)
  mem : ∀ style, style ∈ pool.styles ↔ style = {} ∨ style ∈ given
  distinct : (∀ style ∈ given, style.isComparable)
    → (pool.Distinct ↔ ∀ a ∈ given, ∀ b ∈ given, ¬ a.IsTwin b)

theorem Pool.Lawful.interns {pool : Pool} (lawful : pool.Lawful) {given : List Style}
    (mem : ∀ style, style ∈ pool.styles ↔ style = {} ∨ style ∈ given)
    : pool.Interns given where
  first := lawful.first
  mem := mem
  distinct comparable := by
    have all : ∀ style ∈ pool.styles, style.isComparable := by
      intro style member
      rcases (mem style).mp member with rfl | member
      · decide
      · exact comparable style member
    rw [lawful.distinct_iff all]
    constructor
    · intro apart a member b member'
      exact apart a ((mem a).mpr (.inr member)) b ((mem b).mpr (.inr member'))
    · intro apart a member b member' twin
      rcases (mem a).mp member with rfl | member
      · exact not_isTwin_default b twin
      rcases (mem b).mp member' with rfl | member'
      · exact not_isTwin_default a twin.symm
      · exact apart a member b member' twin

end Spreadsheet.Style
