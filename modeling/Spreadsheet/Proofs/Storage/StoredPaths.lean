import Spreadsheet.Proofs.Cell.AddressText
import Spreadsheet.Proofs.Number.DigitReading
import Spreadsheet.Proofs.Storage.FileTrees
import Spreadsheet.Storage.Store

/-! Where a directory keeps its files. Time and name make up one piece of a path, from which both
can be told, and the place of a file is right inside that of its directory. The name is the last one
on the path that was suggested, told by the characters of that path: behind it there is nothing but
slashes and single dots, and before it either nothing or a slash.
-/

namespace Spreadsheet.Storage

open Spreadsheet.Text

variable {directory suggested suggested' name name' path path' : String} {time time' : Nat}

/-- The name under which a file is kept. -/
def storedName (time : Nat) (name : String) : String := Nat.repr time ++ "_" ++ name

theorem storedPath_eq_ok
    : storedPath directory suggested time = .ok path
      ↔ ∃ name, lastName? suggested = some name
        ∧ path = inside directory (storedName time name) := by
  simp only [storedPath]
  split
  · next nothing => simp [nothing]
  · next name found =>
      simp only [found, Option.some.injEq, exists_eq_left', storedName]
      exact ⟨fun same => (Except.ok.inj same).symm, fun same => by rw [same]⟩

-----------------------------------------------------------------------------------------
-- Pieces
-----------------------------------------------------------------------------------------

theorem slash_not_mem_of_mem_pieces {piece : String} (member : piece ∈ pieces path)
    : '/' ∉ piece.toList := by
  obtain ⟨chars, listed, rfl⟩ := List.mem_map.mp member
  intro slash
  rw [String.toList_ofList] at slash
  have other := not_of_mem_splitAtEach listed slash
  cases other

theorem slash_not_mem_of_lastName? (found : lastName? suggested = some name)
    : '/' ∉ name.toList := by
  have last := List.mem_of_getLast? (Option.eq_some_of_filter_eq_some found)
  exact slash_not_mem_of_mem_pieces (List.mem_filter.mp last).1

theorem slash_not_mem_storedName (plain : '/' ∉ name.toList)
    : '/' ∉ (storedName time name).toList := by
  simp only [storedName, String.toList_append, List.mem_append, not_or]
  refine ⟨⟨fun digit => ?_, by decide⟩, plain⟩
  rw [Nat.toList_repr] at digit
  have digit := Number.isDigit_of_mem_toDigits digit
  cases digit

theorem pieces_ne_nil (path : String) : pieces path ≠ [] := by
  simpa [pieces, splitAtChar] using splitAtEach_ne_nil _ path.toList

/-- A name without slashes comes behind the pieces of its directory, or it takes the place of an
empty piece at their end.
-/
theorem pieces_inside (directory : String) (plain : '/' ∉ name.toList)
    : pieces (inside directory name) = pieces directory ++ [name]
      ∨ ∃ front, pieces directory = front ++ [""]
        ∧ pieces (inside directory name) = front ++ [name] := by
  have whole : splitAtEach (· == '/') name.toList = [name.toList] :=
    splitAtEach_eq_singleton fun c member => beq_false_of_ne fun slash => plain (slash ▸ member)
  have behind (chars : List Char)
      : (splitAtEach (· == '/') (chars ++ '/' :: name.toList)).map String.ofList
        = (splitAtEach (· == '/') chars).map String.ofList ++ [name] := by
    rw [splitAtEach_append_cons chars rfl, whole, List.map_append, List.map_singleton,
      String.ofList_toList]
  simp only [pieces, splitAtChar, inside]
  split
  · next bare =>
      right
      rcases (Bool.or_eq_true _ _).mp bare with empty | slash
      · have empty : directory = "" := by simpa using empty
        refine ⟨[], ?_⟩
        rw [empty, String.empty_append, whole]
        simp [splitAtEach]
      · obtain ⟨front, same⟩ := List.getLast?_eq_some_iff.mp (beq_iff_eq.mp slash)
        refine ⟨(splitAtEach (· == '/') front).map String.ofList, ?_, ?_⟩
        · rw [same, splitAtEach_append_cons front rfl, List.map_append]
          rfl
        · rw [String.toList_append, same, List.append_assoc, List.singleton_append]
          exact behind front
  · left
    rw [String.toList_append, String.toList_append, List.append_assoc]
    exact behind directory.toList

/-- Inside a directory, paths start where that of the directory does. -/
theorem isAbsolute_inside (directory : String) (plain : '/' ∉ name.toList)
    : isAbsolute (inside directory name) = isAbsolute directory := by
  by_cases empty : directory.toList = []
  · obtain rfl := String.toList_eq_nil_iff.mp empty
    have bare : inside "" name = name := by simp [inside]
    rw [bare, isAbsolute, isAbsolute]
    refine beq_false_of_ne fun slash => plain ?_
    exact List.mem_of_head? slash
  · obtain ⟨c, rest, chars⟩ := List.exists_cons_of_ne_nil empty
    simp only [isAbsolute, inside]
    split <;> simp [chars]

/-- Of the pieces of a path, those that lead somewhere are its components, and so is a dot at the
start.
-/
theorem components_eq (path : String)
    : components path = (pieces path).head?.toList.filter (· == ".") ++ steps path := by
  rw [components, steps]
  split
  · next rest same => simp [same, staysThere]
  · next other =>
      cases same : pieces path with
      | nil => rfl
      | cons first rest =>
          have noDot : first ≠ "." := fun dot => other rest (dot ▸ same)
          simp [noDot]

/-- A name that leads somewhere is one more component. -/
theorem components_inside (directory : String) (plain : '/' ∉ name.toList)
    (leads : staysThere name = false)
    : components (inside directory name) = components directory ++ [name] := by
  have noDot : name ≠ "." := by
    rintro rfl
    cases leads
  have stepped : steps (inside directory name) = steps directory ++ [name] := by
    rcases pieces_inside directory plain with split | ⟨front, split, split'⟩
    · simp [steps, split, leads]
    · have idle : staysThere "" = true := rfl
      simp [steps, split, split', leads, idle]
  have first
      : (pieces (inside directory name)).head?.toList.filter (· == ".")
        = (pieces directory).head?.toList.filter (· == ".") := by
    rcases pieces_inside directory plain with split | ⟨front, split, split'⟩
    · obtain ⟨piece, rest, same⟩ := List.exists_cons_of_ne_nil (pieces_ne_nil directory)
      rw [split, same]
      rfl
    · rw [split, split']
      cases front with
      | nil => simp [noDot]
      | cons piece rest => rfl
  rw [components_eq, components_eq, stepped, first, List.append_assoc]

-----------------------------------------------------------------------------------------
-- Files of different times and names
-----------------------------------------------------------------------------------------

/-- The time ends at the first bar, whatever the name is. -/
theorem storedName_inj
    : storedName time name = storedName time' name' ↔ time = time' ∧ name = name' := by
  constructor
  · intro same
    have chars (n : Nat) (s : String)
        : (storedName n s).toList = (Nat.repr n).toList ++ '_' :: s.toList := by
      simp [storedName]
    have first (n : Nat) (s : String)
        : (splitAtEach (· == '_') (storedName n s).toList).head? = some (Nat.repr n).toList := by
      have noBar : ∀ c ∈ (Nat.repr n).toList, (c == '_') = false := fun c digit => by
        rw [Nat.toList_repr] at digit
        exact beq_false_of_ne (Number.ne_of_isDigit (Number.isDigit_of_mem_toDigits digit) rfl)
      rw [chars, splitAtEach_append noBar rfl, List.head?_cons]
    have times : (Nat.repr time).toList = (Nat.repr time').toList := by
      rw [← Option.some.injEq, ← first time name, ← first time' name', same]
    obtain rfl := Number.repr_injective (String.toList_inj.mp times)
    have names := congrArg String.toList same
    rw [chars, chars] at names
    exact ⟨rfl, String.toList_inj.mp (List.cons.inj (List.append_cancel_left names)).2⟩
  · rintro ⟨rfl, rfl⟩
    rfl

theorem inside_inj : inside directory name = inside directory name' ↔ name = name' := by
  simp only [inside]
  split <;> simp

/-- The bar tells the name of a file from the pieces that stay where they are or lead up. -/
theorem storedName_ne {piece : String} (noBar : '_' ∉ piece.toList)
    : storedName time name ≠ piece := by
  rintro rfl
  exact noBar (by simp [storedName])

theorem staysThere_storedName (time : Nat) (name : String)
    : staysThere (storedName time name) = false := by
  have some : storedName time name ≠ "" := storedName_ne (by decide)
  have filled : (storedName time name).isEmpty = false := by simpa using some
  rw [staysThere, filled, beq_false_of_ne (storedName_ne (by decide))]
  rfl

theorem step_storedName {t : FileTree} {home place : Place}
    (stepped : t.step home (storedName time name) = .ok place)
    : t.find? home = some .directory ∧ place = home ++ [storedName time name] := by
  have down : (storedName time name == "..") = false :=
    beq_false_of_ne (storedName_ne (by decide))
  simp only [FileTree.step, staysThere_storedName, down, Bool.false_eq_true, if_false] at stepped
  split at stepped
  · cases stepped
  · cases stepped
  · next directory =>
      split at stepped
      · cases stepped
      · cases stepped
        exact ⟨directory, rfl⟩

theorem checkPath_inside (checked : FileTree.checkPath (inside directory name) = .ok ())
    : FileTree.checkPath directory = .ok () := by
  obtain ⟨behind, same⟩ : ∃ behind, inside directory name = directory ++ behind := by
    rw [inside]
    split
    · exact ⟨name, rfl⟩
    · exact ⟨"/" ++ name, String.append_assoc⟩
  simp only [FileTree.checkPath, same, String.toList_append, String.utf8ByteSize_append]
    at checked ⊢
  split at checked
  · cases checked
  · next noNull =>
      split at checked
      · cases checked
      · next short =>
          rw [if_neg (by simp_all), if_neg (by omega)]

theorem eq_of_staysThere {t : FileTree} {here next : Place} {piece : String}
    (idle : staysThere piece = true) (stepped : t.step here piece = .ok next)
    : next = here := by
  simp only [FileTree.step, idle, if_true] at stepped
  split at stepped
  · cases stepped
  · cases stepped
  · exact (Except.ok.inj stepped).symm

theorem steps_concat_eq_ok {t : FileTree} {start last : Place} {front : List String}
    {piece : String}
    : (front ++ [piece]).foldlM t.step start = .ok last
      ↔ ∃ home, front.foldlM t.step start = .ok home ∧ t.step home piece = .ok last := by
  have one (home : Place) : [piece].foldlM t.step home = t.step home piece := by simp
  simp only [List.foldlM_append, bind_eq_ok, one]

/-- The place is that of a directory. The empty path is that of the current one. -/
def FileTree.Houses (t : FileTree) (current : Place) (directory : String) (home : Place) : Prop :=
  t.find? home = some .directory
    ∧ if directory = "" then home = current else t.locate current directory = .ok home

/-- The place of a file is right inside its directory. -/
theorem exists_houses {t : FileTree} {current place : Place} (plain : '/' ∉ name.toList)
    (located : t.locate current (inside directory (storedName time name)) = .ok place)
    : ∃ home, t.Houses current directory home ∧ place = home ++ [storedName time name] := by
  have plain : '/' ∉ (storedName time name).toList := slash_not_mem_storedName plain
  obtain ⟨checked, -, stepped⟩ := FileTree.locate_eq_ok.mp located
  rw [FileTree.base, isAbsolute_inside directory plain, ← FileTree.base] at stepped
  obtain ⟨home, around, there, rfl⟩
      : ∃ home, (pieces directory).foldlM t.step (FileTree.base current directory) = .ok home
          ∧ t.find? home = some .directory ∧ place = home ++ [storedName time name] := by
    rcases pieces_inside directory plain with split | ⟨front, split, split'⟩
    · rw [split] at stepped
      obtain ⟨home, around, last⟩ := steps_concat_eq_ok.mp stepped
      exact ⟨home, around, step_storedName last⟩
    · rw [split'] at stepped
      obtain ⟨home, around, last⟩ := steps_concat_eq_ok.mp stepped
      obtain ⟨there, rfl⟩ := step_storedName last
      have stays : t.step home "" = .ok home := by simp [FileTree.step, there, staysThere]
      exact ⟨home, split ▸ steps_concat_eq_ok.mpr ⟨home, around, stays⟩, there, rfl⟩
  refine ⟨home, ⟨there, ?_⟩, rfl⟩
  split
  · next empty =>
      subst empty
      have stays : t.step current "" = .ok home := by
        simpa [pieces, splitAtChar, splitAtEach, FileTree.base, isAbsolute] using around
      exact eq_of_staysThere rfl stays
  · next filled =>
      exact FileTree.locate_eq_ok.mpr ⟨checkPath_inside checked, by simpa using filled, around⟩

/-- The place of a file ends with its name. -/
theorem getLast?_of_locate {t : FileTree} {current place : Place} (plain : '/' ∉ name.toList)
    (located : t.locate current (inside directory (storedName time name)) = .ok place)
    : place.getLast? = some (storedName time name) := by
  obtain ⟨home, -, rfl⟩ := exists_houses plain located
  exact List.getLast?_concat

/-- Files that are kept at one place have the same path. -/
theorem eq_of_locate {t t' : FileTree} {current place : Place}
    (stored : storedPath directory suggested time = .ok path)
    (stored' : storedPath directory suggested' time' = .ok path')
    (located : t.locate current path = .ok place) (located' : t'.locate current path' = .ok place)
    : path = path' := by
  obtain ⟨name, found, rfl⟩ := storedPath_eq_ok.mp stored
  obtain ⟨name', found', rfl⟩ := storedPath_eq_ok.mp stored'
  have last := getLast?_of_locate (slash_not_mem_of_lastName? found) located
  rw [getLast?_of_locate (slash_not_mem_of_lastName? found') located'] at last
  rw [Option.some.inj last]

/-- Two files have the same path just if they have the same time and name. -/
theorem storedPath_eq_iff (stored : storedPath directory suggested time = .ok path)
    (stored' : storedPath directory suggested' time' = .ok path')
    : path = path' ↔ time = time' ∧ lastName? suggested = lastName? suggested' := by
  obtain ⟨name, found, rfl⟩ := storedPath_eq_ok.mp stored
  obtain ⟨name', found', rfl⟩ := storedPath_eq_ok.mp stored'
  rw [inside_inj, storedName_inj, found, found', Option.some.injEq]

end Spreadsheet.Storage

namespace Spreadsheet

-----------------------------------------------------------------------------------------
-- Pieces of a text
-----------------------------------------------------------------------------------------

namespace Text

/-- The pieces of a text make up the text, by induction on it. -/
theorem flatMap_splitAtEach (c : Char) (s : List Char)
    : (splitAtEach (· == c) s).flatMap (c :: ·) = c :: s := by
  induction s with
  | nil => rfl
  | cons d rest ih =>
      rw [splitAtEach]
      split
      · next stop => rw [List.flatMap_cons, ih, beq_iff_eq.mp stop, List.singleton_append]
      · split
        · next none => exact absurd none (splitAtEach_ne_nil _ rest)
        · next piece others pieces =>
            rw [pieces, List.flatMap_cons, List.cons_append] at ih
            rw [List.flatMap_cons, List.cons_append, List.cons_append, (List.cons.inj ih).2]

/-- A text that is made up of pieces is cut into these, by induction on them. -/
theorem splitAtEach_flatMap {c : Char} {piece : List Char} {pieces : List (List Char)}
    (whole : ∀ p ∈ piece :: pieces, c ∉ p)
    : splitAtEach (· == c) (piece ++ pieces.flatMap (c :: ·)) = piece :: pieces := by
  induction pieces generalizing piece with
  | nil =>
      rw [List.flatMap_nil, List.append_nil]
      exact splitAtEach_eq_singleton fun d inside => beq_false_of_ne fun same =>
        whole piece List.mem_cons_self (same ▸ inside)
  | cons next rest ih =>
      have first : ∀ d ∈ piece, (d == c) = false := fun d inside => beq_false_of_ne fun same =>
        whole piece List.mem_cons_self (same ▸ inside)
      rw [List.flatMap_cons, List.cons_append, splitAtEach_append first (beq_self_eq_true c),
        ih fun p member => whole p (List.mem_cons_of_mem _ member)]

end Text

namespace Storage

open Spreadsheet.Text

/-- Slashes, and dots that stand by themselves behind a slash: nothing that leads anywhere. -/
inductive IsIdle : List Char → Prop where
  | nil : IsIdle []
  | slash {s : List Char} (rest : IsIdle s) : IsIdle ('/' :: s)
  | dot {s : List Char} (rest : IsIdle s) : IsIdle ('/' :: '.' :: s)

/-- The name is the last ordinary one on the path. A step up is no name, and neither is one that
stays where it is.
-/
structure IsLastName (path name : String) : Prop where
  filled : name ≠ ""
  noSlash : '/' ∉ name.toList
  ordinary : name ≠ "." ∧ name ≠ ".."
  last
    : ∃ front back, path.toList = front ++ name.toList ++ back
        ∧ (front = [] ∨ front.getLast? = some '/') ∧ IsIdle back

variable {path name : String}

-----------------------------------------------------------------------------------------
-- Pieces that stay where they are
-----------------------------------------------------------------------------------------

theorem staysThere_ofList {piece : List Char}
    : staysThere (String.ofList piece) = true ↔ piece = [] ∨ piece = ['.'] := by
  have dot : String.ofList piece = "." ↔ piece = ['.'] := by
    rw [← String.toList_inj, String.toList_ofList]
    rfl
  rw [staysThere, Bool.or_eq_true, beq_iff_eq, String.isEmpty_iff, String.ofList_eq_empty_iff, dot]

theorem isIdle_flatMap {pieces : List (List Char)}
    (each : ∀ piece ∈ pieces, piece = [] ∨ piece = ['.'])
    : IsIdle (pieces.flatMap ('/' :: ·)) := by
  induction pieces with
  | nil => exact .nil
  | cons piece rest ih =>
      have idle := ih fun piece member => each piece (List.mem_cons_of_mem _ member)
      rcases each piece List.mem_cons_self with rfl | rfl
      · exact .slash idle
      · exact .dot idle

theorem IsIdle.exists_flatMap {s : List Char} (idle : IsIdle s)
    : ∃ pieces : List (List Char),
        s = pieces.flatMap ('/' :: ·) ∧ ∀ piece ∈ pieces, piece = [] ∨ piece = ['.'] := by
  induction idle with
  | nil => exact ⟨[], rfl, nofun⟩
  | slash _ ih =>
      obtain ⟨pieces, rfl, each⟩ := ih
      exact ⟨[] :: pieces, rfl, List.forall_mem_cons.mpr ⟨.inl rfl, each⟩⟩
  | dot _ ih =>
      obtain ⟨pieces, rfl, each⟩ := ih
      exact ⟨['.'] :: pieces, rfl, List.forall_mem_cons.mpr ⟨.inr rfl, each⟩⟩

-----------------------------------------------------------------------------------------
-- The last name
-----------------------------------------------------------------------------------------

/-- The last of the items that are kept, with the items behind it, none of which is. -/
theorem getLast?_filter_eq_some_iff {p : α → Bool} {items : List α} {a : α}
    : (items.filter p).getLast? = some a
      ↔ p a = true ∧ ∃ before after, items = before ++ a :: after ∧ ∀ b ∈ after, p b = false := by
  rw [List.getLast?_eq_some_iff]
  constructor
  · rintro ⟨kept, same⟩
    obtain ⟨first, second, rfl, -, found⟩ := List.filter_eq_append_iff.mp same
    obtain ⟨before, after, rfl, -, holds, none⟩ := List.filter_eq_cons_iff.mp found
    refine ⟨holds, first ++ before, after, (List.append_assoc _ _ _).symm, fun b member => ?_⟩
    simpa using List.filter_eq_nil_iff.mp none b member
  · rintro ⟨holds, before, after, rfl, none⟩
    have behind : after.filter p = [] :=
      List.filter_eq_nil_iff.mpr fun b member => by simp [none b member]
    exact ⟨before.filter p, by rw [List.filter_append, List.filter_cons_of_pos holds, behind]⟩

theorem lastName?_eq_some
    : lastName? path = some name
      ↔ name ≠ ".." ∧ staysThere name = false
        ∧ ∃ before after, pieces path = before ++ name :: after
          ∧ ∀ piece ∈ after, staysThere piece = true := by
  rw [lastName?, Option.filter_eq_some_iff, steps, getLast?_filter_eq_some_iff, bne_iff_ne,
    Bool.not_eq_true', and_comm]
  simp only [Bool.not_eq_false']

theorem map_toList_pieces (path : String)
    : (pieces path).map String.toList = splitAtEach (· == '/') path.toList := by
  simp [pieces, splitAtChar, Function.comp_def]

/-- What is cut off in front of a piece is nothing, or it ends with a slash. -/
theorem exists_front {before after : List (List Char)} {piece : List Char}
    (cut : splitAtEach (· == '/') path.toList = before ++ piece :: after)
    : ∃ front, path.toList = front ++ piece ++ after.flatMap ('/' :: ·)
      ∧ (front = [] ∨ front.getLast? = some '/') := by
  have joined := flatMap_splitAtEach '/' path.toList
  rw [cut, List.flatMap_append, List.flatMap_cons] at joined
  cases before with
  | nil => exact ⟨[], (List.cons.inj joined).2.symm, .inl rfl⟩
  | cons first others =>
      refine ⟨first ++ others.flatMap ('/' :: ·) ++ ['/'], ?_, .inr List.getLast?_concat⟩
      rw [List.flatMap_cons, List.cons_append, List.cons_append] at joined
      rw [← (List.cons.inj joined).2]
      simp

/-- A file can be named after a path just if the path has a last name. -/
theorem lastName?_eq_some_iff : lastName? path = some name ↔ IsLastName path name := by
  have filled : staysThere name = false ↔ name ≠ "" ∧ name ≠ "." := by
    rw [staysThere, Bool.or_eq_false_iff, beq_eq_false_iff_ne, String.isEmpty_eq_false_iff]
  rw [lastName?_eq_some]
  constructor
  · rintro ⟨notUp, leads, before, after, split, idle⟩
    have cut := map_toList_pieces path
    rw [split, List.map_append, List.map_cons] at cut
    obtain ⟨front, placed, start⟩ := exists_front cut.symm
    refine ⟨(filled.mp leads).1, ?_, ⟨(filled.mp leads).2, notUp⟩, front, _, placed, start,
      isIdle_flatMap fun piece member => ?_⟩
    · have listed : name ∈ pieces path := by simp [split]
      exact slash_not_mem_of_mem_pieces listed
    · obtain ⟨text, inside, rfl⟩ := List.mem_map.mp member
      exact staysThere_ofList.mp (String.ofList_toList ▸ idle text inside)
  · rintro ⟨some, noSlash, ⟨notDot, notUp⟩, front, back, placed, start, idle⟩
    refine ⟨notUp, filled.mpr ⟨some, notDot⟩, ?_⟩
    obtain ⟨after, rfl, each⟩ := idle.exists_flatMap
    have whole : ∀ piece ∈ name.toList :: after, '/' ∉ piece :=
      List.forall_mem_cons.mpr ⟨noSlash, fun piece member => by
        rcases each piece member with rfl | rfl <;> decide⟩
    have behind := splitAtEach_flatMap whole
    have idle : ∀ piece ∈ after.map String.ofList, staysThere piece = true := by
      intro piece member
      obtain ⟨chars, inside, rfl⟩ := List.mem_map.mp member
      exact staysThere_ofList.mpr (each chars inside)
    rcases start with rfl | slash
    · refine ⟨[], after.map String.ofList, ?_, idle⟩
      rw [pieces, splitAtChar, placed, List.nil_append, behind, List.map_cons,
        String.ofList_toList, List.nil_append]
    · obtain ⟨front, rfl⟩ := List.getLast?_eq_some_iff.mp slash
      refine ⟨(splitAtEach (· == '/') front).map String.ofList, after.map String.ofList, ?_, idle⟩
      rw [pieces, splitAtChar, placed, List.append_assoc, List.append_assoc, List.singleton_append,
        splitAtEach_append_cons front rfl, behind, List.map_append,
        List.map_cons, String.ofList_toList]

end Storage

end Spreadsheet
