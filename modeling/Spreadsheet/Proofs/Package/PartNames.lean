import Mathlib.Data.List.Nodup
import Spreadsheet.Proofs.Package.PartLookup

/-! Names of parts as paths: the folder of a part, the part that holds its relationships, and the
part that one of its targets names. No two parts of a written package have one name, since the
drawings and the pictures are numbered through the whole workbook.
-/

namespace Spreadsheet.Package

open Spreadsheet.Sheet

-----------------------------------------------------------------------------------------
-- Paths
-----------------------------------------------------------------------------------------

/-- The steps of a path. -/
def segments (path : String) : List String := (path.toList.splitOn '/').map String.ofList

/-- The path with some steps. -/
def joined (steps : List String) : String := "/".intercalate steps

/-- The folder that a part is in. -/
def folder (name : String) : List String := (segments name).dropLast

/-- The part that holds the relationships of a part. The whole package has some too; it has no
name of its own.
-/
def relationshipsName (source : String) : String :=
  joined (folder source ++ ["_rels", (segments source).getLastD "" ++ ".rels"])

/-- A step up, or down into a folder; an empty one leads back to the root. -/
def enter (folder : List String) (segment : String) : List String :=
  if segment = "" then []
  else if segment = ".." then folder.dropLast
  else folder ++ [segment]

/-- The part that a target names, seen from the folder of its source. -/
def resolve (source target : String) : String :=
  joined ((segments target).foldl enter (folder source))

/-- What stands behind the last point of a name. -/
def extension (name : String) : String :=
  String.ofList (name.toList.reverse.takeWhile (· != '.')).reverse

section Joined

variable {steps target : List String} {file : String}

/-- Steps that hold no slash are told apart in their path. -/
theorem segments_joined (some : steps ≠ []) (noSlash : ∀ step ∈ steps, '/' ∉ step.toList)
    : segments (joined steps) = steps := by
  have apart := @List.splitOn_intercalate Char (steps.map String.toList) _ _ '/'
    (by simpa using noSlash) (by simpa using some)
  rw [segments, joined, String.toList_intercalate]
  exact (congrArg (List.map String.ofList) apart).trans (by simp)

theorem joined_concat (some : steps ≠ []) (file : String)
    : joined (steps ++ [file]) = joined steps ++ "/" ++ file := by
  induction steps with
  | nil => exact absurd rfl some
  | cons first rest ih =>
      cases rest with
      | nil => simp [joined]
      | cons next rest =>
          have later := ih (List.cons_ne_nil _ _)
          simp only [joined, List.cons_append, String.intercalate_cons_cons] at later ⊢
          rw [later]
          simp only [String.append_assoc]

/-- A file in a folder, as names of parts are written. -/
theorem append_eq_joined {front : String} (some : steps ≠ []) (whole : joined steps ++ "/" = front)
    (file : String)
    : front ++ file = joined (steps ++ [file]) := by
  rw [joined_concat some, whole]

variable (noSlash : ∀ step ∈ steps ++ [file], '/' ∉ step.toList)

include noSlash

theorem segments_concat : segments (joined (steps ++ [file])) = steps ++ [file] :=
  segments_joined (by simp) noSlash

theorem folder_joined : folder (joined (steps ++ [file])) = steps := by
  rw [folder, segments_concat noSlash, List.dropLast_concat]

theorem relationshipsName_joined
    : relationshipsName (joined (steps ++ [file]))
      = joined (steps ++ ["_rels", file ++ ".rels"]) := by
  rw [relationshipsName, folder_joined noSlash, segments_concat noSlash, List.getLastD_concat]

theorem resolve_joined (some : target ≠ []) (noSlash' : ∀ step ∈ target, '/' ∉ step.toList)
    : resolve (joined (steps ++ [file])) (joined target) = joined (target.foldl enter steps) := by
  rw [resolve, segments_joined some noSlash', folder_joined noSlash]

end Joined

example : resolve "xl/worksheets/sheet1.xml" "../drawings/drawing1.xml" = "xl/drawings/drawing1.xml"
    := by decide

/-- The extension of a name is what is added behind its last point. -/
theorem extension_append (front : String) {back : String} (noPoint : '.' ∉ back.toList)
    : extension (front ++ "." ++ back) = back := by
  have inside : ∀ c ∈ back.toList.reverse, (c != '.') = true := by
    intro c member
    exact bne_iff_ne.mpr fun point => noPoint (point ▸ List.mem_reverse.mp member)
  have signs : (front ++ "." ++ back).toList.reverse
      = back.toList.reverse ++ '.' :: front.toList.reverse := by
    simp
  rw [extension, signs, List.takeWhile_append_of_pos inside]
  simp

-----------------------------------------------------------------------------------------
-- Names with numbers
-----------------------------------------------------------------------------------------

/-- The text in front of the first number in a name, and the digits of the number. -/
def numberKey (name : String) : List Char × List Char :=
  (name.toList.takeWhile (!·.isDigit),
    (name.toList.dropWhile (!·.isDigit)).takeWhile (·.isDigit))

/-- The number in a name is found if no other stands in front of it or beside it. -/
theorem numberKey_append {front back : String} (noDigit : front.toList.all (!·.isDigit) = true)
    (number : Nat) (stop : back.toList.takeWhile (·.isDigit) = [])
    : numberKey (front ++ Nat.repr number ++ back)
      = (front.toList, (Nat.repr number).toList) := by
  have before : ∀ c ∈ front.toList, (!c.isDigit) = true := List.all_eq_true.mp noDigit
  have digits : ∀ c ∈ (Nat.repr number).toList, c.isDigit = true := by
    rw [Nat.toList_repr]
    exact fun c member => Number.isDigit_of_mem_toDigits member
  obtain ⟨first, rest, same⟩ : ∃ first rest, (Nat.repr number).toList = first :: rest := by
    rw [Nat.toList_repr]
    exact List.exists_cons_of_ne_nil Nat.toDigits_ne_nil
  have digit : first.isDigit = true := digits first (same ▸ List.mem_cons_self)
  have whole : (front ++ Nat.repr number ++ back).toList
      = front.toList ++ ((Nat.repr number).toList ++ back.toList) := by
    simp
  have own : ((Nat.repr number).toList ++ back.toList).takeWhile (!·.isDigit) = []
      ∧ ((Nat.repr number).toList ++ back.toList).dropWhile (!·.isDigit)
        = (Nat.repr number).toList ++ back.toList := by
    simp [same, digit]
  rw [numberKey, whole, List.takeWhile_append_of_pos before, List.dropWhile_append_of_pos before,
    own.1, own.2, List.takeWhile_append_of_pos digits, stop, List.append_nil, List.append_nil]

-----------------------------------------------------------------------------------------
-- Numbers of drawings and pictures
-----------------------------------------------------------------------------------------

/-- What a sheet's parts are numbered by: each number with what stands in front of it. -/
def partNumbers (index : Nat) (s : Sheet) : Option DrawingNumbers → List (String × Nat)
  | none => [("xl/worksheets/sheet", index + 1)]
  | some numbers =>
    [("xl/worksheets/sheet", index + 1), ("xl/worksheets/_rels/sheet", index + 1),
        ("xl/drawings/drawing", numbers.drawing), ("xl/drawings/_rels/drawing", numbers.drawing)] ++
      (List.range' numbers.firstPicture s.pictures.length).map ("xl/media/image", ·)

/-- A file with a number in a folder, as names of parts are put together. -/
theorem numberKey_file {head front stem back : String} (whole : front ++ stem = head)
    (noDigit : head.toList.all (!·.isDigit) = true) (number : Nat)
    (stop : back.toList.takeWhile (·.isDigit) = [])
    : numberKey (front ++ (stem ++ (Nat.repr number ++ back)))
      = (head.toList, (Nat.repr number).toList) := by
  rw [← String.append_assoc, ← String.append_assoc, whole, numberKey_append noDigit number stop]

theorem numbers_numberedPictures (first : Nat) (pictures : List Picture)
    : (numberedPictures first pictures).map (·.1) = List.range' first pictures.length := by
  refine List.ext_getElem (by simp [numberedPictures]) fun i inside inside' => ?_
  simp [numberedPictures]

/-- The parts of drawings, with the pictures last. -/
theorem drawingParts_eq (index : Nat) (s : Sheet) (numbers : DrawingNumbers)
    : drawingParts index s numbers
      = [.ofRoot ("xl/worksheets/_rels/" ++ sheetFile (index + 1) ++ ".rels")
            (relationshipsNode (sheetRelationships numbers.drawing)),
          .ofRoot ("xl/drawings/" ++ drawingFile numbers.drawing) (drawingNode s.pictures),
          .ofRoot ("xl/drawings/_rels/" ++ drawingFile numbers.drawing ++ ".rels")
            (relationshipsNode
              (drawingRelationships (numberedPictures numbers.firstPicture s.pictures)))] ++
        (numberedPictures numbers.firstPicture s.pictures).map fun entry =>
          ⟨"xl/media/" ++ pictureFile entry.1 entry.2.format, .binary entry.2.data⟩ :=
  rfl

theorem numberKey_sheetParts (t : StyleTable) (index : Nat) (s : Sheet)
    (plan : Option DrawingNumbers)
    : (sheetParts t index s plan).map (numberKey ·.name)
      = (partNumbers index s plan).map fun key => (key.1.toList, (Nat.repr key.2).toList) := by
  have sheet : numberKey ("xl/worksheets/" ++ sheetFile (index + 1))
      = ("xl/worksheets/sheet".toList, (Nat.repr (index + 1)).toList) := by
    rw [sheetFile, String.append_assoc]
    exact numberKey_file (by decide) (by decide) _ (by decide)
  cases plan with
  | none => exact congrArg (fun key => [key]) sheet
  | some numbers =>
      have links : numberKey ("xl/worksheets/_rels/" ++ sheetFile (index + 1) ++ ".rels")
          = ("xl/worksheets/_rels/sheet".toList, (Nat.repr (index + 1)).toList) := by
        simp only [sheetFile, String.append_assoc]
        exact numberKey_file (by decide) (by decide) _ (by decide)
      have drawing : numberKey ("xl/drawings/" ++ drawingFile numbers.drawing)
          = ("xl/drawings/drawing".toList, (Nat.repr numbers.drawing).toList) := by
        simp only [drawingFile, String.append_assoc]
        exact numberKey_file (by decide) (by decide) _ (by decide)
      have drawingLinks : numberKey ("xl/drawings/_rels/" ++ drawingFile numbers.drawing ++ ".rels")
          = ("xl/drawings/_rels/drawing".toList, (Nat.repr numbers.drawing).toList) := by
        simp only [drawingFile, String.append_assoc]
        exact numberKey_file (by decide) (by decide) _ (by decide)
      have picture (number : Nat) (format : PictureFormat)
          : numberKey ("xl/media/" ++ pictureFile number format)
            = ("xl/media/image".toList, (Nat.repr number).toList) := by
        simp only [pictureFile, String.append_assoc]
        refine numberKey_file (by decide) (by decide) _ ?_
        cases format <;> decide
      have pictures : ((numberedPictures numbers.firstPicture s.pictures).map fun entry =>
            (⟨"xl/media/" ++ pictureFile entry.1 entry.2.format, .binary entry.2.data⟩ : Part)).map
              (numberKey ·.name)
          = ((List.range' numbers.firstPicture s.pictures.length).map
              (("xl/media/image", ·) : Nat → String × Nat)).map
                fun key => (key.1.toList, (Nat.repr key.2).toList) := by
        rw [← numbers_numberedPictures, List.map_map, List.map_map, List.map_map]
        exact List.map_congr_left fun entry _ => picture entry.1 entry.2.format
      simp only [sheetParts, drawingParts_eq, Option.map_some, Option.getD_some, partNumbers,
        List.map_cons, List.cons_append, List.nil_append, Part.ofRoot, sheet, links, drawing,
        drawingLinks, pictures]

/-- Of two sheets the first one has the smaller numbers. -/
structure Earlier (a b : (Sheet × Option DrawingNumbers) × Nat) : Prop where
  index : a.2 < b.2
  numbers : ∀ m ∈ a.1.2, ∀ n ∈ b.1.2,
    m.drawing < n.drawing ∧ m.firstPicture + a.1.1.pictures.length ≤ n.firstPicture

/-- The numbers of a plan are not below those that it starts with. -/
theorem le_of_mem_planDrawings {drawing picture : Nat} {sheets : List Sheet} {n : DrawingNumbers}
    (member : some n ∈ planDrawings drawing picture sheets)
    : drawing ≤ n.drawing ∧ picture ≤ n.firstPicture := by
  induction sheets generalizing drawing picture with
  | nil => cases member
  | cons s rest ih =>
      rw [planDrawings] at member
      split at member
      · rcases List.mem_cons.mp member with same | member
        · cases same
        · exact ih member
      · rcases List.mem_cons.mp member with same | member
        · cases same
          exact ⟨Nat.le_refl _, Nat.le_refl _⟩
        · have later := ih member
          omega

/-- Numbers go up from sheet to sheet, by induction on the sheets. -/
theorem pairwise_earlier (drawing picture index : Nat) (sheets : List Sheet)
    : ((sheets.zip (planDrawings drawing picture sheets)).zipIdx index).Pairwise Earlier := by
  induction sheets generalizing drawing picture index with
  | nil => exact .nil
  | cons s rest ih =>
      have behind {drawing picture : Nat} {entry : (Sheet × Option DrawingNumbers) × Nat}
          (member : entry ∈ (rest.zip (planDrawings drawing picture rest)).zipIdx (index + 1))
          : index < entry.2 ∧ ∀ n ∈ entry.1.2, drawing ≤ n.drawing ∧ picture ≤ n.firstPicture := by
        refine ⟨List.le_snd_of_mem_zipIdx member, fun n planned => ?_⟩
        have pair := List.of_mem_zip (List.fst_mem_of_mem_zipIdx member)
        exact le_of_mem_planDrawings (planned ▸ pair.2)
      rw [planDrawings]
      split
      · rw [List.zip_cons_cons, List.zipIdx_cons, List.pairwise_cons]
        refine ⟨fun entry member => ⟨(behind member).1, fun m planned => ?_⟩, ih _ _ _⟩
        exact absurd planned (Option.not_mem_none m)
      · rw [List.zip_cons_cons, List.zipIdx_cons, List.pairwise_cons]
        refine ⟨fun entry member => ⟨(behind member).1, ?_⟩, ih _ _ _⟩
        rintro m ⟨⟩ n planned
        exact (behind member).2 n planned

theorem nodup_partNumbers (index : Nat) (s : Sheet) (plan : Option DrawingNumbers)
    : (partNumbers index s plan).Nodup := by
  cases plan with
  | none => exact List.nodup_singleton _
  | some numbers =>
      have pictures : ((List.range' numbers.firstPicture s.pictures.length).map
          (("xl/media/image", ·) : Nat → String × Nat)).Nodup :=
        List.Nodup.map (fun _ _ same => (Prod.mk.inj same).2) List.nodup_range'
      simp [partNumbers, pictures]

theorem mem_partNumbers {index : Nat} {s : Sheet} {plan : Option DrawingNumbers}
    {key : String × Nat} (member : key ∈ partNumbers index s plan)
    : key = ("xl/worksheets/sheet", index + 1) ∨ ∃ n ∈ plan,
      key = ("xl/worksheets/_rels/sheet", index + 1) ∨ key = ("xl/drawings/drawing", n.drawing)
      ∨ key = ("xl/drawings/_rels/drawing", n.drawing)
      ∨ ∃ i, n.firstPicture ≤ i ∧ i < n.firstPicture + s.pictures.length
        ∧ key = ("xl/media/image", i) := by
  cases plan with
  | none => exact .inl (List.mem_singleton.mp member)
  | some n =>
      simp only [partNumbers, List.cons_append, List.nil_append, List.mem_cons, List.mem_map,
        List.mem_range'_1] at member
      rcases member with rfl | rfl | rfl | rfl | ⟨i, ⟨low, high⟩, rfl⟩
      · exact .inl rfl
      · exact .inr ⟨n, rfl, .inl rfl⟩
      · exact .inr ⟨n, rfl, .inr (.inl rfl)⟩
      · exact .inr ⟨n, rfl, .inr (.inr (.inl rfl))⟩
      · exact .inr ⟨n, rfl, .inr (.inr (.inr ⟨i, low, high, rfl⟩))⟩

/-- Parts of different sheets have different numbers or different names in front of them. -/
theorem Earlier.ne {a b : (Sheet × Option DrawingNumbers) × Nat} (earlier : Earlier a b)
    {key key' : String × Nat} (member : key ∈ partNumbers a.2 a.1.1 a.1.2)
    (member' : key' ∈ partNumbers b.2 b.1.1 b.1.2)
    : key ≠ key' := by
  have index := earlier.index
  rintro rfl
  rcases mem_partNumbers member with rfl | ⟨m, planned, own⟩
  · rcases mem_partNumbers member' with same | ⟨n, planned', other⟩
    · have numbers := (Prod.mk.inj same).2
      omega
    · simp at other
  · rcases mem_partNumbers member' with rfl | ⟨n, planned', other⟩
    · simp at own
    · have numbers := earlier.numbers m planned n planned'
      rcases own with rfl | rfl | rfl | ⟨i, low, high, rfl⟩ <;> simp at other <;> omega

/-- No two parts of sheets have one name. -/
theorem nodup_names_allSheetParts (t : StyleTable) (w : Workbook)
    : ((allSheetParts t w).map (·.name)).Nodup := by
  have numbers : ((w.sheets.zip (drawingPlan w)).zipIdx.flatMap
      fun entry => partNumbers entry.2 entry.1.1 entry.1.2).Nodup := by
    refine List.pairwise_flatMap.mpr ⟨fun entry _ => nodup_partNumbers .., ?_⟩
    refine (pairwise_earlier 1 1 0 w.sheets).imp ?_
    intro a b earlier key member key' member'
    exact earlier.ne member member'
  have injective : Function.Injective
      fun key : String × Nat => (key.1.toList, (Nat.repr key.2).toList) := by
    rintro ⟨front, m⟩ ⟨front', n⟩ same
    simp only [Prod.mk.injEq, String.toList_inj] at same
    rw [same.1, Number.repr_injective same.2]
  apply List.Nodup.of_map numberKey
  have keys := numbers.map injective
  rw [List.map_flatMap] at keys
  rw [List.map_map, allSheetParts, List.map_flatMap]
  exact (List.flatMap_congr fun entry _ => numberKey_sheetParts ..) ▸ keys

/-- No two parts of a written package have one name. -/
theorem nodup_names (now : Time.DateTime) (w : Workbook)
    : ((ofWorkbook now w).map (·.name)).Nodup := by
  rw [ofWorkbook_eq, List.map_append, List.nodup_append]
  refine ⟨?_, nodup_names_allSheetParts _ w, ?_⟩
  · rw [workbookParts_names]
    decide
  · rw [workbookParts_names]
    rintro name known _ sheet rfl
    obtain ⟨part, member, rfl⟩ := List.mem_map.mp sheet
    obtain ⟨i, s, plan, member⟩ := exists_of_mem_allSheetParts member
    exact name_of_mem_sheetParts member (List.mem_cons_of_mem _ known) rfl

end Spreadsheet.Package
