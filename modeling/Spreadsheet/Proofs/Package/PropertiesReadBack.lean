import Spreadsheet.Proofs.Package.WorkbookReadBack
import Spreadsheet.Proofs.Time.Timestamps

/-! The documents of properties are read element by element. Only the name of the last start tag is
kept, so that blanks and line breaks between elements count for nothing, and a text counts for the
property whose element it stands in. Keywords share one text.
-/

namespace Spreadsheet

open Spreadsheet.Text Spreadsheet.Xml

-----------------------------------------------------------------------------------------
-- Keywords
-----------------------------------------------------------------------------------------

namespace Text

/-- White space in front counts for nothing. -/
theorem trimChars_cons_of_isBlank {c : Char} (blank : isBlank c = true) (s : List Char)
    : trimChars (c :: s) = trimChars s := by
  rw [trimChars, trimStart, List.dropWhile_cons_of_pos blank]
  rfl

theorem mem_of_mem_trimChars {c : Char} {s : List Char} (member : c ∈ trimChars s) : c ∈ s := by
  rw [trimChars, trimEnd, List.mem_reverse] at member
  have behind := (List.dropWhile_sublist _).mem member
  exact (List.dropWhile_sublist _).mem (List.mem_reverse.mp behind)

end Text

namespace Package.PropertiesReading

/-- The keyword in a piece of a text, if the piece is not blank. -/
def keyword? (piece : List Char) : List String :=
  [trim (String.ofList piece)].filter (!·.isEmpty)

theorem keywords_eq_flatMap (text : String)
    : keywords text = (splitAtEach (· == ',') text.toList).flatMap keyword? := by
  rw [keywords, splitAtChar]
  induction splitAtEach (· == ',') text.toList with
  | nil => rfl
  | cons piece rest ih =>
      rw [List.map_cons, List.map_cons, List.filter_cons, ih, List.flatMap_cons, keyword?,
        List.filter_cons]
      split <;> rfl

/-- A blank in front of a piece counts for nothing. -/
theorem keyword?_cons (piece : List Char) : keyword? (' ' :: piece) = keyword? piece := by
  rw [keyword?, keyword?, trim, trim, String.toList_ofList, String.toList_ofList,
    trimChars_cons_of_isBlank (by decide)]

/-- Texts with a comma and a blank between them hold the keywords of both. -/
theorem keywords_append (text rest : String)
    : keywords (text ++ ", " ++ rest) = keywords text ++ keywords rest := by
  have spelled : (text ++ ", " ++ rest).toList = text.toList ++ ',' :: ' ' :: rest.toList := by
    simp
  have blank : (splitAtEach (· == ',') (' ' :: rest.toList)).flatMap keyword? = keywords rest := by
    rw [splitAtEach, keywords_eq_flatMap]
    simp only [Char.reduceBEq, Bool.false_eq_true, if_false]
    split
    · next none => exact absurd none (splitAtEach_ne_nil _ _)
    · next piece pieces split =>
        rw [split, List.flatMap_cons, List.flatMap_cons, keyword?_cons]
  rw [keywords_eq_flatMap, spelled, splitAtEach_append_cons text.toList (by decide),
    List.flatMap_append, blank, keywords_eq_flatMap text]

/-- A text of keywords holds the keywords that each of them holds, by induction on the list. -/
theorem keywords_intercalate (list : List String)
    : keywords (", ".intercalate list) = list.flatMap keywords := by
  induction list with
  | nil => rfl
  | cons keyword rest ih =>
      cases rest with
      | nil =>
          rw [String.intercalate_singleton, List.flatMap_cons, List.flatMap_nil, List.append_nil]
      | cons next rest =>
          rw [String.intercalate_cons_cons, keywords_append, ih]
          rfl

/-- No keyword that is read holds a comma. -/
theorem not_mem_of_mem_keywords {text keyword : String} (member : keyword ∈ keywords text)
    : ',' ∉ keyword.toList := by
  rw [keywords_eq_flatMap, List.mem_flatMap] at member
  obtain ⟨piece, cut, member⟩ := member
  intro comma
  cases List.mem_singleton.mp (List.mem_filter.mp member).1
  rw [trim, String.toList_ofList, String.toList_ofList] at comma
  have sign := not_of_mem_splitAtEach cut (mem_of_mem_trimChars comma)
  cases sign

/-- A keyword without a comma is read as it is. -/
theorem keywords_eq_singleton {keyword : String} (filled : keyword ≠ "")
    (trimmed : trim keyword = keyword) (whole : ',' ∉ keyword.toList)
    : keywords keyword = [keyword] := by
  have single : splitAtEach (· == ',') keyword.toList = [keyword.toList] := by
    refine splitAtEach_eq_singleton fun c member => ?_
    rw [beq_eq_false_iff_ne]
    rintro rfl
    exact whole member
  have visible : (!keyword.isEmpty) = true := by simpa using filled
  rw [keywords_eq_flatMap, single, List.flatMap_singleton, keyword?, String.ofList_toList, trimmed,
    List.filter_cons, if_pos visible, List.filter_nil]

end Package.PropertiesReading

-----------------------------------------------------------------------------------------
-- Properties that files can hold
-----------------------------------------------------------------------------------------

/-- A text that documents can hold and that is seen. -/
structure Xml.Visible (text : String) : Prop where
  filled : text ≠ ""
  legal : Legal text

namespace Properties

/-- Texts are visible where they are given, keywords have no white space around them, and it is
known when the workbook was made and changed.
-/
structure Storable (p : Properties) : Prop where
  title : ∀ text ∈ p.title, Visible text
  subject : ∀ text ∈ p.subject, Visible text
  creator : ∀ text ∈ p.creator, Visible text
  description : ∀ text ∈ p.description, Visible text
  company : ∀ text ∈ p.company, Visible text
  category : ∀ text ∈ p.category, Visible text
  keywords : ∀ keyword ∈ p.keywords, Visible keyword ∧ trim keyword = keyword
  created : ∃ t, p.created = some t ∧ t.IsStampable
  modified : ∃ t, p.modified = some t ∧ t.IsStampable

/-- The properties that are read where these were written. -/
def asRead (p : Properties) : Properties :=
  { p with keywords := p.keywords.flatMap Package.PropertiesReading.keywords }

variable {p : Properties}

/-- All properties are read as they were just if no keyword holds a comma. -/
theorem Storable.asRead_eq_iff (storable : p.Storable)
    : p.asRead = p ↔ ∀ keyword ∈ p.keywords, ',' ∉ keyword.toList := by
  constructor
  · intro same keyword member
    have same : p.keywords.flatMap Package.PropertiesReading.keywords = p.keywords :=
      congrArg Properties.keywords same
    rw [← same, List.mem_flatMap] at member
    obtain ⟨text, -, member⟩ := member
    exact Package.PropertiesReading.not_mem_of_mem_keywords member
  · intro whole
    have each : p.keywords.flatMap Package.PropertiesReading.keywords
        = p.keywords.flatMap ([·]) := by
      refine List.flatMap_congr fun keyword member => ?_
      obtain ⟨visible, trimmed⟩ := storable.keywords keyword member
      exact Package.PropertiesReading.keywords_eq_singleton visible.filled trimmed
        (whole keyword member)
    rw [asRead, each, List.flatMap_singleton']

end Properties

namespace Package

/-- Keywords that are visible share a visible text. -/
theorem visible_keywordsText {keywords : List String} (visible : ∀ k ∈ keywords, Visible k)
    : ∀ text ∈ keywordsText keywords, Visible text := by
  intro text joined
  cases keywords with
  | nil => cases joined
  | cons first rest =>
      cases joined
      constructor
      · intro empty
        have none : (", ".intercalate (first :: rest)).toList = [] := by rw [empty]; rfl
        cases rest with
        | nil =>
            rw [String.intercalate_singleton] at none
            exact (visible first List.mem_cons_self).filled (String.toList_eq_nil_iff.mp none)
        | cons second rest =>
            rw [String.intercalate_cons_cons] at none
            simp at none
      · induction rest generalizing first with
        | nil =>
            rw [String.intercalate_singleton]
            exact (visible first List.mem_cons_self).legal
        | cons second rest ih =>
            rw [String.intercalate_cons_cons]
            have front := (visible first List.mem_cons_self).legal
            have others := ih second fun k member => visible k (List.mem_cons_of_mem _ member)
            exact (front.append (by decide)).append others

theorem visible_stampText {t : Time.DateTime} (stampable : t.IsStampable)
    : Visible (stampText t) where
  filled empty := by
    have chars : (t.toSecondText ++ "Z").toList = [] := by rw [← stampText, empty]; rfl
    simp at chars
  legal := by
    have marks : ∀ c ∈ ['-', ':', 'T'], isLegal c = true := List.all_eq_true.mp rfl
    have field : Legal t.toSecondText := by
      intro c member
      rcases Time.DateTime.of_mem_toSecondText stampable.year member with digit | sign
      · exact isLegal_of_isAlphanum (by rw [Char.isAlphanum, digit, Bool.or_true])
      · exact marks c sign
    exact field.append (by decide)

namespace PropertiesReading

theorem moment?_stampText {t : Time.DateTime} (stampable : t.IsStampable)
    : moment? (stampText t) = some t := by
  rw [moment?, stampText, trim_eq_self stampable.solid]
  exact Time.DateTime.ofTimestamp?_toSecondText stampable

-----------------------------------------------------------------------------------------
-- Pieces of the documents
-----------------------------------------------------------------------------------------

/-- The reader keeps the name of the element that it is in, and does what `take` says with a text of
an element. Texts outside of elements count for nothing.
-/
structure Keeps (step : PropertiesReading → Event → Except ReadError PropertiesReading)
    (take : Properties → String → String → Properties) : Prop where
  start : ∀ s tag, step s (.start tag) = .ok { s with element := some tag.name }
  close : ∀ s name, step s (.close name) = .ok { s with element := none }
  text : ∀ p name text, step ⟨p, some name⟩ (.text (some text)) = .ok ⟨take p name text, some name⟩
  outside : ∀ p text, step ⟨p, none⟩ (.text (some text)) = .ok ⟨p, none⟩

/-- Only the company is taken. -/
def setCompany (p : Properties) (element text : String) : Properties :=
  if element = "Company" then { p with company := some text } else p

theorem keeps_coreStep : Keeps coreStep set := ⟨fun _ _ => rfl, fun _ _ => rfl, fun _ _ _ => rfl,
  fun _ _ => rfl⟩

theorem keeps_appStep : Keeps appStep setCompany where
  start _ _ := rfl
  close _ _ := rfl
  text p name text := by
    by_cases company : name = "Company"
    · simp [appStep, setCompany, company, known]
    · simp [appStep, setCompany, company]
  outside _ _ := rfl

/-- Reading the piece takes one record to the other, whatever comes behind, if texts count for
nothing where it starts; then they do so where it ends.
-/
def Takes (step : PropertiesReading → Event → Except ReadError PropertiesReading) (node : Node)
    (p p' : Properties) : Prop :=
  ∀ element, Deaf step ⟨p, element⟩
    → ∃ element', Deaf step ⟨p', element'⟩
      ∧ ∀ events, follow step ⟨p, element⟩ (node.events ++ events)
          = follow step ⟨p', element'⟩ events

/-- Reading the pieces takes one record to the other. -/
inductive TakesAll (step : PropertiesReading → Event → Except ReadError PropertiesReading)
    : List Node → Properties → Properties → Prop where
  | nil {p} : TakesAll step [] p p
  | cons {node rest p p' p''} (first : Takes step node p p') (others : TakesAll step rest p' p'')
    : TakesAll step (node :: rest) p p''

section Pieces

variable {step : PropertiesReading → Event → Except ReadError PropertiesReading}
  {take : Properties → String → String → Properties} (keeps : Keeps step take)
  {p p' p'' : Properties} {name : String} {attributes : List (String × String)} {nodes : List Node}

/-- A text between elements is passed over. -/
theorem Takes.text (content : String) : Takes step (.text content) p p :=
  fun element deaf => ⟨element, deaf, fun events => deaf.follow_text (legalPart content) events⟩

theorem Takes.plain (content : String) : Takes step (.plain content) p p :=
  fun element deaf => ⟨element, deaf, fun events => deaf.follow_text (legalPart content) events⟩

theorem TakesAll.single {node : Node} (taken : Takes step node p p') : TakesAll step [node] p p' :=
  .cons taken .nil

theorem TakesAll.append {nodes' : List Node} (first : TakesAll step nodes p p')
    (second : TakesAll step nodes' p' p'')
    : TakesAll step (nodes ++ nodes') p p'' := by
  induction first with
  | nil => exact second
  | cons taken _ ih => exact .cons taken (ih second)

/-- Line breaks between pieces are passed over, by induction on the pieces. -/
theorem TakesAll.lines (blanks : Nat) (taken : TakesAll step nodes p p')
    : TakesAll step (nodes.flatMap fun item => [Node.newLine blanks, item]) p p' := by
  induction taken with
  | nil => exact .nil
  | cons first _ ih => exact .cons (.plain _) (.cons first ih)

theorem TakesAll.follow_eq (taken : TakesAll step nodes p p') {element : Option String}
    (deaf : Deaf step ⟨p, element⟩)
    : ∃ element', Deaf step ⟨p', element'⟩
      ∧ ∀ events, follow step ⟨p, element⟩ (allEvents nodes ++ events)
          = follow step ⟨p', element'⟩ events := by
  induction taken generalizing element with
  | nil => exact ⟨element, deaf, fun _ => rfl⟩
  | cons first _ ih =>
      obtain ⟨element', deaf, front⟩ := first element deaf
      obtain ⟨element'', deaf, behind⟩ := ih deaf
      exact ⟨element'', deaf, fun events => by rw [allEvents, List.append_assoc, front, behind]⟩

include keeps

theorem Keeps.deaf_outside : Deaf step ⟨p, none⟩ := keeps.outside p

/-- In an element that is not looked at texts count for nothing. -/
theorem Keeps.deaf_unread (unread : ∀ p text, take p name text = p)
    : Deaf step ⟨p, some name⟩ := by
  intro text
  rw [keeps.text, unread]

/-- A text in an element is taken. -/
theorem Keeps.takes_text {content : String} (visible : Visible content)
    : Takes step (.element name attributes [.text content]) p (take p name content) := by
  intro element deaf
  refine ⟨none, keeps.deaf_outside, fun events => ?_⟩
  have legal : legalPart content = content := legalPart_eq_self visible.legal
  have seen : gathered content = [.text (some content)] := if_neg visible.filled
  change follow step ⟨p, element⟩ (.start ⟨name, readAttributes attributes⟩
    :: .text (some (legalPart content)) :: .close name :: events) = _
  rw [follow_start, keeps.start, legal]
  change follow step ⟨p, some name⟩ _ = _
  rw [follow_content, seen, List.foldlM_cons, keeps.text]
  change follow step ⟨take p name content, some name⟩ _ = _
  rw [follow_close, keeps.close]
  rfl

/-- A text that may be missing is taken if it is there. -/
theorem Keeps.takesAll_option {text : Option String} (visible : ∀ content ∈ text, Visible content)
    (missing : text = none → p' = p) (given : ∀ content, text = some content
      → take p name content = p')
    : TakesAll step (text.map (Node.textual name)).toList p p' := by
  cases text with
  | none =>
      rw [missing rfl]
      exact .nil
  | some content =>
      rw [← given content rfl]
      exact .single (keeps.takes_text (visible content rfl))

/-- What stands in an element that is not looked at is read piece by piece. -/
theorem Keeps.takes_element (unread : ∀ p text, take p name text = p)
    (inner : TakesAll step nodes p p')
    : Takes step (.element name attributes nodes) p p' := by
  intro element deaf
  obtain ⟨element', -, within⟩ := inner.follow_eq (keeps.deaf_unread unread)
  refine ⟨none, keeps.deaf_outside, fun events => ?_⟩
  rw [Node.events, List.cons_append, List.append_assoc, follow_start, keeps.start]
  change follow step ⟨p, some name⟩ _ = _
  rw [within, List.singleton_append, follow_close, keeps.close]
  rfl

theorem Keeps.takes_block {width depth : Nat} (unread : ∀ p text, take p name text = p)
    (inner : TakesAll step nodes p p')
    : Takes step (.block width depth name attributes nodes) p p' :=
  keeps.takes_element unread ((inner.lines _).append (.single (.plain _)))

/-- A document of properties is read as its root. -/
theorem Keeps.foldEvents_eq (part : String) {root : Node} (formed : root.EachTag IsTag)
    (taken : Takes step root p p')
    : ∃ element, foldEvents step { properties := p } (Part.ofRoot part root).content
        = .ok ⟨p', element⟩ := by
  have deaf : Deaf step ⟨p, none⟩ := keeps.deaf_outside
  obtain ⟨element, -, read⟩ := taken none deaf
  have whole := read []
  rw [List.append_nil] at whole
  refine ⟨element, ?_⟩
  rw [foldEvents_ofRoot part formed, deaf.foldlM_joinTexts, whole]
  rfl

end Pieces

-----------------------------------------------------------------------------------------
-- Both documents
-----------------------------------------------------------------------------------------

/-- The text of keywords gives what is read of them. -/
theorem keywords_of_keywordsText (list : List String)
    : list.flatMap keywords = ((keywordsText list).map keywords).getD [] := by
  cases list with
  | nil => rfl
  | cons first rest => exact (keywords_intercalate (first :: rest)).symm

/-- The first document begins with five texts. -/
theorem takesAll_descriptions {p : Properties} (storable : p.Storable)
    : TakesAll coreStep
        ((p.title.map (Node.textual "dc:title")).toList
          ++ (p.subject.map (Node.textual "dc:subject")).toList
          ++ (p.creator.map (Node.textual "dc:creator")).toList
          ++ (p.description.map (Node.textual "dc:description")).toList
          ++ (p.category.map (Node.textual "cp:category")).toList)
        {} { p with keywords := [], company := none, created := none, modified := none } := by
  have title : TakesAll coreStep (p.title.map (Node.textual "dc:title")).toList {}
      { title := p.title } :=
    keeps_coreStep.takesAll_option storable.title (fun none => by rw [none]) fun content given => by
      rw [given]
      rfl
  have subject : TakesAll coreStep (p.subject.map (Node.textual "dc:subject")).toList
      { title := p.title } { title := p.title, subject := p.subject } :=
    keeps_coreStep.takesAll_option storable.subject (fun none => by rw [none])
      fun content given => by
        rw [given]
        rfl
  have creator : TakesAll coreStep (p.creator.map (Node.textual "dc:creator")).toList
      { title := p.title, subject := p.subject }
      { title := p.title, subject := p.subject, creator := p.creator } :=
    keeps_coreStep.takesAll_option storable.creator (fun none => by rw [none])
      fun content given => by
        rw [given]
        rfl
  have description : TakesAll coreStep (p.description.map (Node.textual "dc:description")).toList
      { title := p.title, subject := p.subject, creator := p.creator }
      { title := p.title, subject := p.subject, creator := p.creator,
        description := p.description } :=
    keeps_coreStep.takesAll_option storable.description (fun none => by rw [none])
      fun content given => by
        rw [given]
        rfl
  have category : TakesAll coreStep (p.category.map (Node.textual "cp:category")).toList
      { title := p.title, subject := p.subject, creator := p.creator,
        description := p.description }
      { p with keywords := [], company := none, created := none, modified := none } :=
    keeps_coreStep.takesAll_option storable.category (fun none => by rw [none])
      fun content given => by
        rw [given]
        rfl
  exact (((title.append subject).append creator).append description).append category

theorem takesAll_keywords {p : Properties} (storable : p.Storable)
    : TakesAll coreStep ((keywordsText p.keywords).map (Node.textual "cp:keywords")).toList
        { p with keywords := [], company := none, created := none, modified := none }
        { p.asRead with company := none, created := none, modified := none } := by
  have visible := visible_keywordsText fun k member => (storable.keywords k member).1
  have read := keywords_of_keywordsText p.keywords
  refine keeps_coreStep.takesAll_option visible (fun none => ?_) fun content given => ?_
  · rw [Properties.asRead, read, none]
    rfl
  · rw [Properties.asRead, read, given]
    rfl

/-- A moment is taken as its text. -/
theorem takes_stampNode {t : Time.DateTime} (stampable : t.IsStampable) (name : String)
    (p : Properties)
    : Takes coreStep (stampNode name t) p (set p name (stampText t)) :=
  keeps_coreStep.takes_text (visible_stampText stampable)

/-- The first document gives all properties but the company. -/
theorem takes_coreNode {p : Properties} (now : Time.DateTime) (storable : p.Storable)
    : Takes coreStep (coreNode now p) {} { p.asRead with company := none } := by
  obtain ⟨created, made, stampable⟩ := storable.created
  obtain ⟨modified, changed, stampable'⟩ := storable.modified
  have author : TakesAll coreStep (p.creator.map (Node.textual "cp:lastModifiedBy")).toList
      { p.asRead with company := none, created := none, modified := none }
      { p.asRead with company := none, created := none, modified := none } :=
    keeps_coreStep.takesAll_option storable.creator (fun _ => rfl) fun _ _ => rfl
  have creation : Takes coreStep (stampNode "dcterms:created" created)
      { p.asRead with company := none, created := none, modified := none }
      { p.asRead with company := none, modified := none } := by
    have taken := takes_stampNode stampable "dcterms:created"
      { p.asRead with company := none, created := none, modified := none }
    rwa [set, moment?_stampText stampable, ← made] at taken
  have change : Takes coreStep (stampNode "dcterms:modified" modified)
      { p.asRead with company := none, modified := none } { p.asRead with company := none } := by
    have taken := takes_stampNode stampable' "dcterms:modified"
      { p.asRead with company := none, modified := none }
    rwa [set, moment?_stampText stampable', ← changed] at taken
  rw [coreNode, made, changed]
  refine keeps_coreStep.takes_block (fun _ _ => rfl) ?_
  exact (((takesAll_descriptions storable).append (takesAll_keywords storable)).append
    author).append (.cons creation (.single change))

/-- The second document gives the company; the names of sheets are not looked at. -/
theorem takes_appNode {w : Workbook} (storable : w.properties.Storable)
    : Takes appStep (appNode w) { w.properties.asRead with company := none }
        w.properties.asRead := by
  have unread {name : String} (other : name ≠ "Company") (p : Properties) (text : String)
      : setCompany p name text = p := if_neg other
  have company : TakesAll appStep (w.properties.company.map (Node.textual "Company")).toList
      { w.properties.asRead with company := none } w.properties.asRead := by
    refine keeps_appStep.takesAll_option storable.company (fun none => ?_) fun content given => ?_
    · rw [← none]
      rfl
    · rw [setCompany, if_pos rfl, ← given]
      rfl
  have textual {name : String} (other : name ≠ "Company") (content : String) (p : Properties)
      : Takes appStep (.textual name content) p p :=
    keeps_appStep.takes_element (unread other) (.single (.text content))
  have names (sheets : List Sheet) (p : Properties)
      : TakesAll appStep (sheets.map fun s => .textual "vt:lpstr" s.name) p p := by
    induction sheets with
    | nil => exact .nil
    | cons s rest ih => exact .cons (textual (by decide) s.name p) ih
  refine keeps_appStep.takes_block (unread (by decide)) ?_
  refine ((TakesAll.single (textual (by decide) _ _)).append company).append (.single ?_)
  refine keeps_appStep.takes_element (unread (by decide)) (.single ?_)
  exact keeps_appStep.takes_element (unread (by decide)) (names w.sheets _)

end PropertiesReading

/-- Storable properties are read with what there is of their keywords. -/
theorem readProperties_ofWorkbook (now : Time.DateTime) {w : Workbook}
    (storable : w.properties.Storable)
    : readProperties (ofWorkbook now w) = .ok w.properties.asRead := by
  obtain ⟨element, core⟩ := PropertiesReading.keeps_coreStep.foldEvents_eq "docProps/core.xml"
    (coreNode_eachTag now w.properties) (PropertiesReading.takes_coreNode now storable)
  obtain ⟨element', app⟩ := PropertiesReading.keeps_appStep.foldEvents_eq "docProps/app.xml"
    (appNode_eachTag w) (PropertiesReading.takes_appNode storable)
  exact readProperties_eq_ok core app

end Package

end Spreadsheet
