import Spreadsheet.Proofs.Cell.AddressBounds
import Spreadsheet.Storage.Machine

/-! What the operations on a tree of files change. Nothing takes a directory away, so that a path
that has led to some place leads there for good.
-/

namespace Spreadsheet.Storage.FileTree

variable {t t' u : FileTree} {place other current : Place} {item : Item} {path : String}
    {data : List UInt8}

-----------------------------------------------------------------------------------------
-- Single places
-----------------------------------------------------------------------------------------

theorem lookup_filter_ne (items : List (Place × Item)) (place other : Place)
    : (items.filter (·.1 != place)).lookup other
      = if other = place then none else items.lookup other := by
  induction items with
  | nil => simp
  | cons entry rest ih =>
      obtain ⟨here, item⟩ := entry
      by_cases gone : here = place
      · subst gone
        rw [List.filter_cons_of_neg (by simp), ih]
        split
        · rfl
        · next different => rw [List.lookup_cons, beq_false_of_ne different]
      · rw [List.filter_cons_of_pos (by simpa using gone), List.lookup_cons, List.lookup_cons, ih]
        by_cases found : other = here
        · subst found
          simp [gone]
        · rw [beq_false_of_ne found]

theorem find?_root (t : FileTree) : t.find? [] = some .directory := rfl

/-- Everything but the root is listed. -/
theorem find?_of_ne_nil (filled : place ≠ []) : t.find? place = t.items.lookup place := by
  simp [find?, filled]

theorem find?_put (filled : place ≠ [])
    : (t.put place item).find? other = if other = place then some item else t.find? other := by
  by_cases root : other = []
  · subst root
    rw [find?_root, find?_root, if_neg (Ne.symm filled)]
  · rw [find?_of_ne_nil root, find?_of_ne_nil root, put, List.lookup_cons]
    by_cases here : other = place
    · simp [here]
    · simp only [beq_false_of_ne here, lookup_filter_ne, if_neg here]

theorem find?_erase (filled : place ≠ [])
    : (t.erase place).find? other = if other = place then none else t.find? other := by
  by_cases root : other = []
  · subst root
    rw [find?_root, find?_root, if_neg (Ne.symm filled)]
  · rw [find?_of_ne_nil root, find?_of_ne_nil root]
    exact lookup_filter_ne t.items place other

/-- The root is a directory. -/
theorem ne_nil_of_find? (other : t.find? place ≠ some .directory) : place ≠ [] := by
  rintro rfl
  exact other rfl

-----------------------------------------------------------------------------------------
-- Trees that grow
-----------------------------------------------------------------------------------------

/-- All directories of the first tree are in the second. -/
def KeepsDirectories (t t' : FileTree) : Prop :=
  ∀ place, t.find? place = some .directory → t'.find? place = some .directory

/-- Everything in the first tree is in the second. -/
def Grows (t t' : FileTree) : Prop :=
  ∀ place item, t.find? place = some item → t'.find? place = some item

theorem Grows.refl (t : FileTree) : Grows t t := fun _ _ => id

theorem Grows.trans (first : Grows t t') (second : Grows t' u) : Grows t u :=
  fun place item found => second place item (first place item found)

theorem Grows.keepsDirectories (grows : Grows t t') : KeepsDirectories t t' :=
  fun place => grows place .directory

/-- A step along a path looks at directories only. -/
theorem KeepsDirectories.step (keeps : KeepsDirectories t t') {piece : String} {next : Place}
    (stepped : t.step place piece = .ok next)
    : t'.step place piece = .ok next := by
  cases found : t.find? place with
  | none => simp [FileTree.step, found] at stepped
  | some item =>
      cases item with
      | file data => simp [FileTree.step, found] at stepped
      | directory =>
          rw [← stepped]
          simp only [FileTree.step, found, keeps place found]

theorem KeepsDirectories.steps (keeps : KeepsDirectories t t') {pieces : List String} {last : Place}
    (stepped : pieces.foldlM t.step place = .ok last)
    : pieces.foldlM t'.step place = .ok last := by
  induction pieces generalizing place with
  | nil => exact stepped
  | cons piece rest ih =>
      rw [List.foldlM_cons] at stepped ⊢
      obtain ⟨next, first, stepped⟩ := bind_eq_ok.mp stepped
      exact bind_eq_ok.mpr ⟨next, keeps.step first, ih stepped⟩

/-- A path leads to a place by way of directories. -/
theorem locate_eq_ok
    : t.locate current path = .ok place
      ↔ checkPath path = .ok () ∧ path.isEmpty = false
        ∧ (pieces path).foldlM t.step (base current path) = .ok place := by
  simp only [locate, bind_eq_ok]
  constructor
  · rintro ⟨_, checked, located⟩
    split at located
    · cases located
    · next filled => exact ⟨checked, by simpa using filled, located⟩
  · rintro ⟨checked, filled, located⟩
    refine ⟨(), checked, ?_⟩
    rw [filled]
    exact located

theorem KeepsDirectories.locate (keeps : KeepsDirectories t t')
    (located : t.locate current path = .ok place)
    : t'.locate current path = .ok place := by
  obtain ⟨checked, filled, stepped⟩ := locate_eq_ok.mp located
  exact locate_eq_ok.mpr ⟨checked, filled, keeps.steps stepped⟩

-----------------------------------------------------------------------------------------
-- Operations
-----------------------------------------------------------------------------------------

/-- A file is written where no directory is. -/
theorem write_eq_ok
    : t.write current path data = .ok t'
      ↔ ∃ place, t.locate current path = .ok place ∧ t.find? place ≠ some .directory
        ∧ t' = t.put place (.file data) := by
  simp only [write, bind_eq_ok]
  refine exists_congr fun place => and_congr_right fun _ => ?_
  split
  · next directory => exact ⟨nofun, fun both => absurd directory both.1⟩
  · next other => exact ⟨fun done => ⟨other, (Except.ok.inj done).symm⟩, fun both => both.2 ▸ rfl⟩

/-- What is removed is a file. -/
theorem remove_eq_ok
    : t.remove current path = .ok t'
      ↔ ∃ place, t.locate current path = .ok place ∧ (∃ data, t.find? place = some (.file data))
        ∧ t' = t.erase place := by
  simp only [remove, bind_eq_ok]
  refine exists_congr fun place => and_congr_right fun _ => ?_
  split
  · next data found =>
      exact ⟨fun done => ⟨⟨data, found⟩, (Except.ok.inj done).symm⟩, fun both => both.2 ▸ rfl⟩
  · next directory => exact ⟨nofun, fun ⟨⟨_, found⟩, _⟩ => by rw [directory] at found; cases found⟩
  · next nothing => exact ⟨nofun, fun ⟨⟨_, found⟩, _⟩ => by rw [nothing] at found; cases found⟩

theorem read_eq_ok
    : t.read current path = .ok data
      ↔ ∃ place, t.locate current path = .ok place ∧ t.find? place = some (.file data) := by
  simp only [read, bind_eq_ok]
  refine exists_congr fun place => and_congr_right fun _ => ?_
  split
  · next found =>
      rw [found, Option.some.injEq, Item.file.injEq]
      exact ⟨Except.ok.inj, fun same => by rw [same]; rfl⟩
  · next directory => exact ⟨nofun, fun found => by rw [directory] at found; cases found⟩
  · next nothing => exact ⟨nofun, fun found => by rw [nothing] at found; cases found⟩

theorem put_keepsDirectories (other : t.find? place ≠ some .directory)
    : KeepsDirectories t (t.put place item) := fun directory found => by
  rw [find?_put (ne_nil_of_find? other), if_neg, found]
  rintro rfl
  exact other found

theorem erase_keepsDirectories (other : t.find? place ≠ some .directory)
    : KeepsDirectories t (t.erase place) := fun directory found => by
  rw [find?_erase (ne_nil_of_find? other), if_neg, found]
  rintro rfl
  exact other found

theorem KeepsDirectories.of_write (written : t.write current path data = .ok t')
    : KeepsDirectories t t' := by
  obtain ⟨place, -, other, rfl⟩ := write_eq_ok.mp written
  exact put_keepsDirectories other

theorem KeepsDirectories.of_remove (removed : t.remove current path = .ok t')
    : KeepsDirectories t t' := by
  obtain ⟨place, -, ⟨data, found⟩, rfl⟩ := remove_eq_ok.mp removed
  exact erase_keepsDirectories (by rw [found]; nofun)

theorem Grows.read (grows : Grows t t') (read : t.read current path = .ok data)
    : t'.read current path = .ok data := by
  obtain ⟨place, located, found⟩ := read_eq_ok.mp read
  exact read_eq_ok.mpr ⟨place, grows.keepsDirectories.locate located, grows place _ found⟩

/-- What is written can be read. -/
theorem read_of_write (written : t.write current path data = .ok t')
    : t'.read current path = .ok data := by
  have keeps := KeepsDirectories.of_write written
  obtain ⟨place, located, other, rfl⟩ := write_eq_ok.mp written
  refine read_eq_ok.mpr ⟨place, keeps.locate located, ?_⟩
  rw [find?_put (ne_nil_of_find? other), if_pos rfl]

/-- The paths do not lead to one place. -/
def Apart (t : FileTree) (current : Place) (path path' : String) : Prop :=
  ∀ place, t.locate current path = .ok place → t.locate current path' ≠ .ok place

variable {path' : String} {data' : List UInt8}

theorem read_of_write_apart (written : t.write current path data = .ok t')
    (apart : t.Apart current path path') (read : t.read current path' = .ok data')
    : t'.read current path' = .ok data' := by
  have keeps := KeepsDirectories.of_write written
  obtain ⟨place, located, other, rfl⟩ := write_eq_ok.mp written
  obtain ⟨place', located', found⟩ := read_eq_ok.mp read
  refine read_eq_ok.mpr ⟨place', keeps.locate located', ?_⟩
  rw [find?_put (ne_nil_of_find? other), if_neg, found]
  rintro rfl
  exact apart place' located located'

theorem read_of_remove_apart (removed : t.remove current path = .ok t')
    (apart : t.Apart current path path') (read : t.read current path' = .ok data')
    : t'.read current path' = .ok data' := by
  have keeps := KeepsDirectories.of_remove removed
  obtain ⟨place, located, ⟨gone, there⟩, rfl⟩ := remove_eq_ok.mp removed
  obtain ⟨place', located', found⟩ := read_eq_ok.mp read
  refine read_eq_ok.mpr ⟨place', keeps.locate located', ?_⟩
  rw [find?_erase (ne_nil_of_find? (by rw [there]; nofun)), if_neg, found]
  rintro rfl
  exact apart place' located located'

/-- A directory is made where nothing was. -/
theorem put_of_makeDirectory (made : t.makeDirectory current path = .ok t')
    : ∃ place, t.find? place = none ∧ t' = t.put place .directory := by
  obtain ⟨_, -, made⟩ := bind_eq_ok.mp made
  obtain ⟨place, -, made⟩ := bind_eq_ok.mp made
  split at made
  · cases made
  · next nothing => exact ⟨place, by simpa using nothing, (Except.ok.inj made).symm⟩

theorem makeDirectory_grows (made : t.makeDirectory current path = .ok t') : Grows t t' := by
  obtain ⟨place, free, rfl⟩ := put_of_makeDirectory made
  intro other item found
  rw [find?_put (ne_nil_of_find? (by rw [free]; nofun)), if_neg, found]
  rintro rfl
  rw [free] at found
  cases found

-----------------------------------------------------------------------------------------
-- Files
-----------------------------------------------------------------------------------------

/-- The data of the file at a place. -/
def file? (t : FileTree) (place : Place) : Option (List UInt8) :=
  match t.find? place with
  | some (.file data) => some data
  | _ => none

/-- Both trees have the same files, at the same places. -/
def SameFiles (t t' : FileTree) : Prop := ∀ place, t'.file? place = t.file? place

theorem SameFiles.refl (t : FileTree) : SameFiles t t := fun _ => rfl

theorem SameFiles.trans (first : SameFiles t t') (second : SameFiles t' u) : SameFiles t u :=
  fun place => (second place).trans (first place)

theorem sameFiles_of_makeDirectory (made : t.makeDirectory current path = .ok t')
    : SameFiles t t' := by
  obtain ⟨place, free, rfl⟩ := put_of_makeDirectory made
  have filled : place ≠ [] := ne_nil_of_find? (by rw [free]; nofun)
  intro other
  simp only [file?, find?_put filled]
  by_cases here : other = place
  · rw [here, if_pos rfl, free]
  · rw [if_neg here]

/-- Writing changes one file. -/
theorem file?_put (noDirectory : t.find? place ≠ some .directory)
    : (t.put place (.file data)).file? other
      = if other = place then some data else t.file? other := by
  simp only [file?, find?_put (ne_nil_of_find? noDirectory)]
  by_cases here : other = place
  · rw [if_pos here, if_pos here]
  · rw [if_neg here, if_neg here]

-----------------------------------------------------------------------------------------
-- Making directories outward
-----------------------------------------------------------------------------------------

section Outward

variable {σ ε α β : Type} {relates : σ → σ → Prop}

/-- Each run of the program leads to a related state. -/
def Leads (relates : σ → σ → Prop) (x : StateM σ α) : Prop := ∀ s, relates s (x s).2

theorem Leads.bind {x : StateM σ α} {f : α → StateM σ β} (first : Leads relates x)
    (trans : ∀ s t u, relates s t → relates t u → relates s u) (second : ∀ a, Leads relates (f a))
    : Leads relates (x >>= f) := fun s => trans _ _ _ (first s) (second (x s).1 (x s).2)

/-- What relates the states around each step relates those around the whole, by induction on the
paths outward.
-/
theorem leads_makeOutward (refl : ∀ s, relates s s)
    (trans : ∀ s t u, relates s t → relates t u → relates s u)
    {make : String → StateM σ (Except ε Unit)} {isMissing : ε → Bool}
    {isDirectory : String → StateM σ Bool} (makes : ∀ path, Leads relates (make path))
    (looks : ∀ path, Leads relates (isDirectory path)) (paths : List String)
    : Leads relates (makeOutward make isMissing isDirectory paths) := by
  have settled (a : Except ε Unit) : Leads relates (pure a : StateM σ (Except ε Unit)) := refl
  induction paths with
  | nil => exact settled _
  | cons path around ih =>
      have looked (e : Except ε Unit)
          : Leads relates (do return if ← isDirectory path then .ok () else e
              : StateM σ (Except ε Unit)) :=
        (looks path).bind trans fun _ => settled _
      rw [makeOutward]
      refine (makes path).bind trans fun made => ?_
      cases made with
      | ok _ => exact settled _
      | error e =>
          dsimp only
          split
          · refine ih.bind trans fun held => ?_
            cases held with
            | error e => exact settled _
            | ok _ =>
                refine (makes path).bind trans fun again => ?_
                cases again with
                | error e => exact looked _
                | ok _ => exact settled _
          · exact looked _

end Outward

/-- What relates the trees around the making of one directory relates those around the making of
several.
-/
theorem relates_makeDirectories {relates : FileTree → FileTree → Prop} (refl : ∀ t, relates t t)
    (trans : ∀ t t' u, relates t t' → relates t' u → relates t u)
    (makes : ∀ t t' path, t.makeDirectory current path = .ok t' → relates t t') (t : FileTree)
    (path : String)
    : relates t (makeDirectories current path t).2 := by
  refine leads_makeOutward refl trans (fun path t => ?_) (fun path t => refl t) (outward path) t
  cases made : t.makeDirectory current path with
  | error e => exact refl t
  | ok t' => exact makes t t' path made

theorem makeDirectories_grows (t : FileTree) (current : Place) (path : String)
    : Grows t (makeDirectories current path t).2 :=
  relates_makeDirectories .refl (fun _ _ _ => .trans) (fun _ _ _ => makeDirectory_grows) t path

/-- Making directories leaves the files alone. -/
theorem makeDirectories_sameFiles (t : FileTree) (current : Place) (path : String)
    : SameFiles t (makeDirectories current path t).2 :=
  relates_makeDirectories .refl (fun _ _ _ => .trans) (fun _ _ _ => sameFiles_of_makeDirectory) t
    path

end Spreadsheet.Storage.FileTree

-----------------------------------------------------------------------------------------
-- Machines
-----------------------------------------------------------------------------------------

namespace Spreadsheet.Storage.Machine

theorem change_ok {f : FileTree → Except TreeFault FileTree} {machine : Machine} {files : FileTree}
    (done : f machine.files = .ok files)
    : change f machine = (.ok (), { machine with files }) := by
  simp only [change, bind, StateT.bind, get, getThe, MonadStateOf.get, StateT.get, pure,
    done]
  rfl

theorem change_error {f : FileTree → Except TreeFault FileTree} {machine : Machine} {e : TreeFault}
    (refused : f machine.files = .error e)
    : change f machine = (.error e.message, machine) := by
  simp only [change, bind, StateT.bind, get, getThe, MonadStateOf.get, StateT.get, pure,
    refused]
  rfl

end Spreadsheet.Storage.Machine
