import Spreadsheet.Proofs.Cell.RangeCells
import Spreadsheet.Proofs.Package.PartElements
import Spreadsheet.Proofs.Sheet.Bounds
import Spreadsheet.Proofs.Sheet.RowInsertion
import Spreadsheet.Proofs.Workbook.Reachable
import Spreadsheet.Proofs.Xml.LegalText

/-! Texts in quotes, as formulas have them: a quote inside is doubled, and a single one is the end.
In a written package the sheet that a filter is on and the text that a rule looks for are read as
they were, whatever quotes and marks they hold.
-/

namespace Spreadsheet.Text

variable {quote : Char} {s s' before content after : List Char}

/-- The text as it stands between quotes. -/
def doubled (quote : Char) (s : List Char) : List Char :=
  s.flatMap fun c => if c = quote then [quote, quote] else [c]

/-- What is in quotes and what stands behind, given what follows the opening quote; nothing if there
is no closing one.
-/
def readQuoted (quote : Char) : List Char → Option (List Char × List Char)
  | [] => none
  | [c] => if c = quote then some ([], []) else none
  | c :: d :: rest =>
    if c = quote then
      if d = quote then (readQuoted quote rest).map fun (content, after) => (c :: content, after)
      else some ([], d :: rest)
    else (readQuoted quote (d :: rest)).map fun (content, after) => (c :: content, after)

/-- What stands before the first text in quotes, what is in the quotes, and what stands behind. -/
def quotation? (quote : Char) (s : List Char) : Option (List Char × List Char × List Char) :=
  match s.dropWhile (· != quote) with
  | [] => none
  | _ :: rest =>
    (readQuoted quote rest).map fun (content, after) => (s.takeWhile (· != quote), content, after)

/-- The text has one text in quotes, with something before and behind it. -/
structure QuotesOnce (quote : Char) (s before content after : List Char) : Prop where
  read : quotation? quote s = some (before, content, after)
  alone : quote ∉ after

-----------------------------------------------------------------------------------------
-- Doubled quotes
-----------------------------------------------------------------------------------------

theorem doubled_cons (c : Char) (s : List Char)
    : doubled quote (c :: s) = (if c = quote then [quote, quote] else [c]) ++ doubled quote s :=
  List.flatMap_cons

/-- Leaving out other characters leaves doubled quotes doubled, by induction on the text. -/
theorem filter_doubled {keep : Char → Bool} (kept : keep quote = true) (s : List Char)
    : (doubled quote s).filter keep = doubled quote (s.filter keep) := by
  induction s with
  | nil => rfl
  | cons c rest ih =>
      rw [doubled_cons, List.filter_append, ih, List.filter_cons]
      by_cases same : c = quote
      · subst same
        simp [kept, doubled_cons]
      · by_cases stays : keep c = true <;> simp [same, stays, doubled_cons]

/-- A character that is no quote goes on with the text. -/
theorem readQuoted_cons_of_ne {c : Char} (other : c ≠ quote) (s : List Char)
    : readQuoted quote (c :: s)
      = (readQuoted quote s).map fun (content, after) => (c :: content, after) := by
  cases s with
  | nil => simp [readQuoted, other]
  | cons d rest => rw [readQuoted, if_neg other]

/-- The closing quote is the first one that is not doubled, by induction on the text in quotes. -/
theorem readQuoted_doubled (content : List Char) (free : after.head? ≠ some quote)
    : readQuoted quote (doubled quote content ++ quote :: after) = some (content, after) := by
  induction content with
  | nil =>
      cases after with
      | nil => simp [doubled, readQuoted]
      | cons d rest =>
          have other : d ≠ quote := fun same => free (same ▸ rfl)
          simp [doubled, readQuoted, other]
  | cons c rest ih =>
      rw [doubled_cons]
      by_cases same : c = quote
      · subst same
        rw [if_pos rfl, List.append_assoc, List.cons_append, List.cons_append, List.nil_append,
          readQuoted, if_pos rfl, if_pos rfl, ih]
        rfl
      · rw [if_neg same, List.append_assoc, List.cons_append, List.nil_append,
          readQuoted_cons_of_ne same, ih]
        rfl

/-- A text is read from between quotes as it was before its quotes were doubled. -/
theorem quotesOnce_doubled (content : List Char) (first : quote ∉ before) (alone : quote ∉ after)
    : QuotesOnce quote (before ++ quote :: (doubled quote content ++ quote :: after)) before content
        after := by
  have passed : ∀ c ∈ before, (c != quote) = true := fun c member =>
    bne_iff_ne.mpr fun same => first (same ▸ member)
  have free : after.head? ≠ some quote := fun same => alone (List.mem_of_head? same)
  have taken : ∀ rest, (before ++ quote :: rest).takeWhile (· != quote) = before := fun rest => by
    rw [List.takeWhile_append_of_pos passed, List.takeWhile_cons_of_neg (by simp), List.append_nil]
  have dropped : ∀ rest, (before ++ quote :: rest).dropWhile (· != quote) = quote :: rest :=
    fun rest => by
      rw [List.dropWhile_append_of_pos passed, List.dropWhile_cons_of_neg (by simp)]
  refine ⟨?_, alone⟩
  rw [quotation?, dropped, taken]
  dsimp only
  rw [readQuoted_doubled content free]
  rfl

end Spreadsheet.Text

namespace Spreadsheet

open Spreadsheet.Cell Spreadsheet.Sheet Spreadsheet.Text Spreadsheet.Xml

-----------------------------------------------------------------------------------------
-- Absolute ranges
-----------------------------------------------------------------------------------------

namespace Package

theorem toList_absoluteText (a : Address)
    : (absoluteText a).toList
      = '$' :: (columnLetters a.column).toList ++ '$' :: Nat.toDigits 10 a.rowNumber := by
  simp [absoluteText, Nat.toList_repr]

/-- Without its dollar signs the text is that of the address. -/
theorem filter_absoluteText (a : Address)
    : (absoluteText a).toList.filter (· != '$') = a.text.toList := by
  have plain : a.text.toList.filter (· != '$') = a.text.toList :=
    List.filter_eq_self.mpr fun _ member => bne_iff_ne.mpr (Address.of_mem_text member).2.1
  rw [Address.toList_text, List.filter_append] at plain
  rw [toList_absoluteText, List.filter_append, List.filter_cons_of_neg (by decide),
    List.filter_cons_of_neg (by decide), plain, Address.toList_text]

theorem of_mem_absoluteText {a : Address} {c : Char} (member : c ∈ (absoluteText a).toList)
    : c = '$' ∨ c ∈ a.text.toList := by
  by_cases dollar : c = '$'
  · exact .inl dollar
  · right
    rw [← filter_absoluteText]
    exact List.mem_filter.mpr ⟨member, bne_iff_ne.mpr dollar⟩

theorem isCorner_absoluteText (a : Address) : Range.IsCorner (absoluteText a) := by
  intro c member
  rcases of_mem_absoluteText member with rfl | member
  · decide
  · exact ⟨(Address.of_mem_text member).1, (Address.of_mem_text member).2.2⟩

theorem parse_absoluteText {a : Address} (onSheet : a.OnSheet)
    : Address.parse (absoluteText a) = .ok a :=
  Address.parse_of_filter onSheet (fun c member => (isCorner_absoluteText a c member).1)
    (filter_absoluteText a)

/-- An absolute range on a sheet is read with its corners in order. -/
theorem parse_absoluteRangeText {r : Range} (onSheet : r.OnSheet)
    : Range.parse (absoluteRangeText r) = .ok r.normalized := by
  have topLeft := parse_absoluteText onSheet.topLeft
  have bottomRight := parse_absoluteText onSheet.bottomRight
  rw [absoluteRangeText]
  split
  · next single =>
      rw [Range.normalized_of_isSingle single,
        Range.parse_corner (isCorner_absoluteText _) topLeft]
  · exact Range.parse_corners (isCorner_absoluteText _) (isCorner_absoluteText _) topLeft
      bottomRight

/-- It is read as it was just if its corners are in order. -/
theorem parse_absoluteRangeText_iff {r : Range} (onSheet : r.OnSheet)
    : Range.parse (absoluteRangeText r) = .ok r ↔ r.Ordered := by
  rw [parse_absoluteRangeText onSheet, Except.ok.injEq, Range.normalized_eq_self_iff]

/-- Absolute ranges hold dollar signs, a colon, letters and digits. -/
theorem of_mem_absoluteRangeText {r : Range} {c : Char} (member : c ∈ (absoluteRangeText r).toList)
    : c ∈ ['$', ':'] ∨ c.isAlphanum = true := by
  have corner {a : Address} (member : c ∈ (absoluteText a).toList)
      : c ∈ ['$', ':'] ∨ c.isAlphanum = true :=
    (of_mem_absoluteText member).imp (fun dollar => by rw [dollar]; decide)
      Address.isAlphanum_of_mem_text
  rw [absoluteRangeText] at member
  split at member
  · exact corner member
  · simp only [String.toList_append, List.mem_append] at member
    rcases member with (member | member) | member
    · exact corner member
    · exact .inl (List.mem_cons_of_mem _ member)
    · exact corner member

theorem legal_absoluteRangeText (r : Range) : Legal (absoluteRangeText r) := by
  intro c member
  rcases of_mem_absoluteRangeText member with sign | letter
  · have signs : ['$', ':'].all isLegal = true := by decide
    exact List.all_eq_true.mp signs c sign
  · exact isLegal_of_isAlphanum letter

-----------------------------------------------------------------------------------------
-- Texts in quotes
-----------------------------------------------------------------------------------------

/-- A text that is written with its quotes doubled, between pieces with the quotes around it, is
read as far as documents can hold it.
-/
theorem quotesOnce_innerText {quote : Char} {front back : String} {before after : List Char}
    (content : String) (legal : isLegal quote = true) (legalFront : Legal front)
    (legalBack : Legal back) (opening : front.toList = before ++ [quote])
    (closing : back.toList = quote :: after) (first : quote ∉ before) (alone : quote ∉ after)
    : QuotesOnce quote
        (innerText [.plain front, .text (String.ofList (doubled quote content.toList)),
          .plain back]).toList
        before (legalPart content).toList after := by
  have inside
      : (legalPart (String.ofList (doubled quote content.toList))).toList
        = doubled quote (legalPart content).toList := by
    rw [legalPart, legalPart, String.toList_ofList, String.toList_ofList, String.toList_ofList]
    exact filter_doubled legal content.toList
  have text
      : (innerText [.plain front, .text (String.ofList (doubled quote content.toList)),
          .plain back]).toList
        = before ++ quote :: (doubled quote (legalPart content).toList ++ quote :: after) := by
    simp only [innerText, Node.ownText, legalPart_eq_self legalFront, legalPart_eq_self legalBack,
      String.toList_append, inside, opening, closing, String.toList_empty, List.append_nil,
      List.append_assoc, List.singleton_append]
  rw [text]
  exact quotesOnce_doubled _ first alone

-----------------------------------------------------------------------------------------
-- Sheets in the names of filters
-----------------------------------------------------------------------------------------

/-- The defined name that a filter has: it says which sheet it belongs to by its position, and its
formula is the name of the sheet in apostrophes, an exclamation mark and the range. The range is
read with its corners in order, so that it is the filter just if those of the filter are.
-/
structure NamesFilter (s : Sheet) (position : Nat) (filter : Range) (e : Element) : Prop where
  name : e.tag.attribute? "name" = some "_xlnm._FilterDatabase"
  position : e.tag.attribute? "localSheetId" = some (Nat.repr position)
  quoted : QuotesOnce '\'' e.text.toList [] (legalPart s.name).toList
    ('!' :: (absoluteRangeText filter).toList)
  read : filter.OnSheet → Range.parse (absoluteRangeText filter) = .ok filter.normalized
  same : filter.OnSheet → (Range.parse (absoluteRangeText filter) = .ok filter ↔ filter.Ordered)

/-- Sheets with their positions and filters. -/
def filteredSheets (w : Workbook) : List ((Sheet × Nat) × Range) :=
  w.sheets.zipIdx.filterMap fun entry => entry.1.filter.map (entry, ·)

theorem exists_elements_filterName (s : Sheet) (position : Nat) (filter : Range)
    : ∃ e, (filterName position s filter).elements = [e] ∧ NamesFilter s position filter e := by
  have alone : '\'' ∉ '!' :: (absoluteRangeText filter).toList := by
    intro member
    rcases List.mem_cons.mp member with mark | member
    · exact absurd mark (by decide)
    · rcases of_mem_absoluteRangeText member with sign | letter
      · exact absurd sign (by decide)
      · cases letter
  have legal : Legal ("'!" ++ absoluteRangeText filter) :=
    Legal.append (by decide) (legal_absoluteRangeText filter)
  refine ⟨_, rfl, ?_, ?_, ?_, parse_absoluteRangeText, parse_absoluteRangeText_iff⟩
  · rw [attribute?_readAttributes]
    exact congrArg some (legalPart_eq_self (by decide))
  · rw [attribute?_readAttributes]
    exact congrArg some (legalPart_eq_self (legal_repr position))
  · exact quotesOnce_innerText s.name (by decide) (by decide) legal rfl (by simp) (by simp) alone

/-- Each filter has its name, in the order of the sheets. -/
theorem namesFilter_definedNames (now : Time.DateTime) (w : Workbook)
    : List.Forall₂ (fun entry e => NamesFilter entry.1.1 entry.1.2 entry.2 e) (filteredSheets w)
        (ofWorkbook now w).definedNames := by
  have names : filterNames w
      = (filteredSheets w).map fun entry => filterName entry.1.2 entry.1.1 entry.2 := by
    rw [filterNames, filteredSheets, List.map_filterMap]
    simp only [Option.map_map]
    rfl
  rw [definedNames_ofWorkbook, names]
  generalize filteredSheets w = entries
  induction entries with
  | nil => exact .nil
  | cons entry rest ih =>
      obtain ⟨e, single, named⟩ := exists_elements_filterName entry.1.1 entry.1.2 entry.2
      rw [List.map_cons, innerElements, single]
      exact .cons named ih

-----------------------------------------------------------------------------------------
-- Texts that rules look for
-----------------------------------------------------------------------------------------

/-- The one formula of a rule looks for a text in a cell. -/
def Searches (text : String) (cell : Address) (e : Element) : Prop :=
  ∃ formula, e.children = [formula] ∧ formula.name = "formula"
    ∧ QuotesOnce '"' formula.text.toList "NOT(ISERROR(SEARCH(".toList (legalPart text).toList
      (',' :: (cell.text.toList ++ ")))".toList))

/-- The formula of a rule looks for a text in the first corner of a range. It is the top left cell
of the range just if the corners are in order.
-/
structure SearchesIn (text : String) (range : Range) (e : Element) : Prop where
  searches : Searches text range.topLeft e
  read : range.topLeft.OnSheet → Address.parse range.topLeft.text = .ok range.topLeft
  topLeft : range.topLeft = range.normalized.topLeft ↔ range.Ordered

/-- The rules that have ranges stand in their order, and those for texts look for them in their
first range.
-/
def SearchRules (rules : List Rule) (elements : List Element) : Prop :=
  List.Forall₂
    (fun rule e => ∀ text first others,
      rule.condition = .containsText text → rule.ranges = first :: others
      → SearchesIn text first e)
    (rules.filter (!·.ranges.isEmpty)) elements

/-- The first corner of a range is its top left cell just if the corners are in order. -/
theorem topLeft_eq_iff {r : Range} : r.topLeft = r.normalized.topLeft ↔ r.Ordered := by
  obtain ⟨⟨top, left⟩, bottom, right⟩ := r
  simp only [Range.normalized, Range.ofCorners, Address.mk.injEq]
  constructor
  · rintro ⟨rows, columns⟩
    exact ⟨rows ▸ Nat.min_le_right .., columns ▸ Nat.min_le_right ..⟩
  · rintro ⟨rows, columns⟩
    exact ⟨(Nat.min_eq_left rows).symm, (Nat.min_eq_left columns).symm⟩

theorem searchesIn_ruleNode (number : Option Nat) (rule : Rule)
    : ∃ e, (ruleNode number rule).elements = [e]
      ∧ ∀ text first others, rule.condition = .containsText text → rule.ranges = first :: others
        → SearchesIn text first e := by
  obtain ⟨e, single⟩ : ∃ e, (ruleNode number rule).elements = [e] := by
    rw [ruleNode]
    cases rule.condition <;> exact ⟨_, rfl⟩
  refine ⟨e, single, fun text first others looks ranges => ?_⟩
  have cell : firstCell rule.ranges = first.topLeft := by rw [ranges]; rfl
  have alone : '"' ∉ ',' :: (first.topLeft.text.toList ++ ")))".toList) := by
    simp only [List.mem_cons, List.mem_append, not_or]
    refine ⟨by decide, fun member => ?_, by decide⟩
    cases Address.isAlphanum_of_mem_text member
  have legal : Legal ("\"," ++ first.topLeft.text ++ ")))") :=
    (Legal.append (by decide) first.topLeft.legal_text).append (by decide)
  rw [ruleNode, looks] at single
  dsimp only at single
  rw [cell, Node.elements] at single
  obtain rfl := List.head_eq_of_cons_eq single
  refine ⟨⟨_, rfl, rfl, ?_⟩, Address.parse_text, topLeft_eq_iff⟩
  exact quotesOnce_innerText text (by decide) (by decide) legal (by decide) (by simp) (by decide)
    alone

theorem searchRules_rulesIn (now : Time.DateTime) {w : Workbook} {i : Nat} {s : Sheet}
    (found : w.sheets[i]? = some s)
    : SearchRules s.rules ((ofWorkbook now w).rulesIn (sheetPath i)) := by
  have rules : s.rules.filter (!·.ranges.isEmpty) = (writtenRules s).map (·.1) := by
    conv_lhs => rw [← List.zipIdx_map_fst 0 s.rules, List.filter_map]
    rfl
  rw [rulesIn_ofWorkbook now found, SearchRules, rules, List.forall₂_map_left_iff]
  induction writtenRules s with
  | nil => exact .nil
  | cons entry rest ih =>
      obtain ⟨e, single, searches⟩ :=
        searchesIn_ruleNode ((StyleTable.ofWorkbook w).ruleNumber? i entry.2) entry.1
      rw [List.flatMap_cons, single]
      exact .cons searches ih

end Package

namespace Workbook

open Spreadsheet.Package

-----------------------------------------------------------------------------------------
-- Formulas of a written workbook
-----------------------------------------------------------------------------------------

/-- A workbook can be written just if the numbers of all rows on it fit in their words, and quoted
texts in its formulas are then read as they were, as far as documents can hold them. Each filter has
one name, with the position of its sheet and the name of the sheet in apostrophes, and the range
behind it is read as the filter, with its corners in order. Each rule for a text looks for it in the
first corner of its first range, also where rows were put in, and the corners stay in order then.
-/
theorem quotedFormulas_write (now : Time.DateTime) (w : Workbook)
    : ((∃ p, Package.write now w = .ok p) ↔ ∀ s ∈ w.sheets, s.IsNumbered)
      ∧ ∀ p, Package.write now w = .ok p
        → List.Forall₂ (fun entry e => NamesFilter entry.1.1 entry.1.2 entry.2 e)
            (filteredSheets w) p.definedNames
          ∧ ∀ (i : Nat) (s : Sheet), w.sheets[i]? = some s
            → SearchRules s.rules (p.rulesIn (sheetPath i))
              ∧ ∀ (before : Sheet) (start count : Nat), before.insertRows start count = .ok s
                → SearchRules (before.rules.map (·.shiftRows start count))
                    (p.rulesIn (sheetPath i))
                  ∧ ∀ rule ∈ before.rules, ∀ r ∈ rule.ranges, r.Ordered
                    → (r.shiftRows start count).Ordered := by
  refine ⟨⟨?_, fun numbered => ⟨_, write_eq_ok.mpr ⟨numbered, rfl⟩⟩⟩, fun p written => ?_⟩
  · rintro ⟨p, written⟩
    exact (write_eq_ok.mp written).1
  obtain ⟨-, rfl⟩ := write_eq_ok.mp written
  refine ⟨namesFilter_definedNames now w, fun i s found => ⟨searchRules_rulesIn now found, ?_⟩⟩
  intro before start count done
  have rules := searchRules_rulesIn now found
  rw [Sheet.insertRows_eq_shiftRows done] at rules
  exact ⟨rules, fun _ _ _ _ => Range.Ordered.shiftRows⟩

/-- A sheet with quotes and marks in its name and a rule for a text with quotes. -/
def quotingSheet : Sheet where
  name := "Bob's & <co>"
  filter := some ⟨⟨0, 0⟩, ⟨4, 2⟩⟩
  rules := [{ condition := .containsText "say \"hi\"", ranges := [⟨⟨1, 1⟩, ⟨3, 2⟩⟩] }]

/-- Both texts are read from between their quotes. -/
theorem quotedFormulas_quotingSheet
    : ∃ p e rule formula,
        Package.write ⟨⟨2024, 3, 7⟩, 0, 0⟩ { sheets := [quotingSheet] } = .ok p
        ∧ p.definedNames = [e]
        ∧ QuotesOnce '\'' e.text.toList [] "Bob's & <co>".toList "!$A$1:$C$5".toList
        ∧ Range.parse "$A$1:$C$5" = .ok ⟨⟨0, 0⟩, ⟨4, 2⟩⟩
        ∧ p.rulesIn (sheetPath 0) = [rule]
        ∧ rule.children = [formula]
        ∧ QuotesOnce '"' formula.text.toList "NOT(ISERROR(SEARCH(".toList "say \"hi\"".toList
          ",B2)))".toList := by
  obtain ⟨writes, quotes⟩ :=
    quotedFormulas_write ⟨⟨2024, 3, 7⟩, 0, 0⟩ { sheets := [quotingSheet] }
  obtain ⟨p, written⟩ := writes.mpr (by decide)
  obtain ⟨names, rules⟩ := quotes p written
  have rules := (rules 0 quotingSheet rfl).1
  have listed : filteredSheets { sheets := [quotingSheet] }
      = [((quotingSheet, 0), ⟨⟨0, 0⟩, ⟨4, 2⟩⟩)] := rfl
  have range : absoluteRangeText ⟨⟨0, 0⟩, ⟨4, 2⟩⟩ = "$A$1:$C$5" := by decide +kernel
  have cell : (⟨1, 1⟩ : Address).text = "B2" := by decide +kernel
  rw [listed] at names
  refine ⟨p, ?_⟩
  generalize p.definedNames = names' at names ⊢
  generalize p.rulesIn (sheetPath 0) = rules' at rules ⊢
  cases names with
  | cons named none =>
      cases none
      cases rules with
      | cons searched none =>
          cases none
          obtain ⟨formula, only, -, quoted⟩ := (searched _ _ _ rfl rfl).searches
          have read := named.read ⟨⟨by decide, by decide⟩, ⟨by decide, by decide⟩⟩
          have quoted' := named.quoted
          rw [range] at read quoted'
          rw [cell] at quoted
          exact ⟨_, _, formula, written, rfl, quoted', read, rfl, only, quoted⟩

-----------------------------------------------------------------------------------------
-- A rule without a row number
-----------------------------------------------------------------------------------------

/-- A rule for a text in the last row, and as many rows above it as move it to the last row that has
a number.
-/
def sunkRuleEdits : List Sheet.Edit :=
  [.addRule { condition := .containsText "say \"hi\"", ranges := [⟨⟨1048575, 0⟩, ⟨1048575, 0⟩⟩] },
    .insertRows 0 4293918720]

/-- Not every rule that was moved by an insertion is written. -/
theorem write_sunkRuleEdits
    : ({ sheets := [edited "S" sunkRuleEdits] } : Workbook).Reachable
      ∧ (edited "S" sunkRuleEdits).InBounds ∧ (edited "S" sunkRuleEdits).InOrder
      ∧ Package.write ⟨⟨2024, 3, 7⟩, 0, 0⟩ { sheets := [edited "S" sunkRuleEdits] }
        = .error .overflow := by
  have free : ({} : Workbook).checkNewName "S" = .ok () := by decide
  have shape : edited "S" sunkRuleEdits
      = { name := "S"
          rules := [{ condition := .containsText "say \"hi\""
                      ranges := [⟨⟨4294967295, 0⟩, ⟨4294967295, 0⟩⟩] }] } := by
    decide +kernel
  have inside : (edited "S" sunkRuleEdits).InBounds := by
    rw [shape]
    exact { Sheet.AllInBounds.blank "S" with }
  have inOrder : (edited "S" sunkRuleEdits).InOrder := by
    refine edited_inOrder ?_
    simp only [sunkRuleEdits, List.forall_mem_cons, Sheet.Edit.ranges, List.not_mem_nil,
      false_implies, implies_true, and_true]
    exact ⟨Nat.le_refl _, Nat.le_refl _⟩
  refine ⟨reachable_edited free sunkRuleEdits, inside, inOrder, ?_⟩
  rw [shape]
  decide +kernel

end Workbook

end Spreadsheet
