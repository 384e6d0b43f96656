import Spreadsheet.Proofs.Xml.TagReading

/-! Written documents are read as the tags and texts of their trees. Texts that stand beside
each other are read as one, and an empty one is not seen.
-/

namespace Spreadsheet.Xml

open Spreadsheet.Text

-----------------------------------------------------------------------------------------
-- What trees say
-----------------------------------------------------------------------------------------

mutual

/-- All tags of the piece have the property. -/
def Node.EachTag (property : String → List (String × String) → Prop) : Node → Prop
  | .text _ | .plain _ => True
  | .leaf name attributes => property name attributes
  | .element name attributes content => property name attributes ∧ EachTagOf property content

def EachTagOf (property : String → List (String × String) → Prop) : List Node → Prop
  | [] => True
  | node :: rest => node.EachTag property ∧ EachTagOf property rest

end

mutual

/-- The tags and texts of a piece in their order. -/
def Node.events : Node → List Event
  | .text content | .plain content => [.text (some (legalPart content))]
  | .leaf name attributes => [.empty ⟨name, readAttributes attributes⟩]
  | .element name attributes content =>
    .start ⟨name, readAttributes attributes⟩ :: (allEvents content ++ [.close name])

def allEvents : List Node → List Event
  | [] => []
  | node :: rest => node.events ++ allEvents rest

end

/-- A text that has been gathered; an empty one is not seen. -/
def gathered (text : String) : List Event := if text = "" then [] else [.text (some text)]

/-- Events with neighboring texts put together, given the text in front of them. -/
def joinTexts (front : String) : List Event → List Event
  | [] => gathered front
  | .text (some text) :: rest => joinTexts (front ++ text) rest
  | .text none :: rest => gathered front ++ .text none :: joinTexts "" rest
  | .start tag :: rest => gathered front ++ .start tag :: joinTexts "" rest
  | .empty tag :: rest => gathered front ++ .empty tag :: joinTexts "" rest
  | .close name :: rest => gathered front ++ .close name :: joinTexts "" rest

theorem eachTagOf_iff {property : String → List (String × String) → Prop} {nodes : List Node}
    : EachTagOf property nodes ↔ ∀ node ∈ nodes, node.EachTag property := by
  induction nodes with
  | nil => simp [EachTagOf]
  | cons node rest ih => simp [EachTagOf, ih]

theorem allEvents_append (nodes nodes' : List Node)
    : allEvents (nodes ++ nodes') = allEvents nodes ++ allEvents nodes' := by
  induction nodes with
  | nil => rfl
  | cons node rest ih => rw [List.cons_append, allEvents, allEvents, ih, List.append_assoc]

-----------------------------------------------------------------------------------------
-- Single steps
-----------------------------------------------------------------------------------------

variable {source : Source} {opened : List (List Sign)} {s : List Sign}

/-- Signs that no tag starts within are read up to the next tag, or to the end. -/
theorem scan_text (whole : source.isTorn = false) {form text : List Char} (h : Encodes form text)
    (filled : form ≠ []) (stop : s = [] ∨ ∃ rest, s = .char '<' :: rest)
    : scan source opened (form.map .char ++ s)
      = (scan source opened s).before (.text (some (String.ofList text))) := by
  have noTag : ∀ sign ∈ form.map Sign.char, (sign != .char '<') = true := by
    intro sign member
    obtain ⟨c, inside, rfl⟩ := List.mem_map.mp member
    rw [bne_iff_ne]
    rintro same
    cases Sign.char.inj same
    exact h.not_mem_tag inside
  have read : contentOf? (form.map .char) = some (String.ofList text) := contentOf?_encodes h
  cases form with
  | nil => exact absurd rfl filled
  | cons c rest =>
      rw [List.map_cons, List.forall_mem_cons, bne_iff_ne] at noTag
      rw [List.map_cons] at read
      have taken : (rest.map Sign.char ++ s).takeWhile (· != .char '<') = rest.map .char := by
        rw [List.takeWhile_append_of_pos noTag.2]
        rcases stop with rfl | ⟨_, rfl⟩ <;> exact List.append_nil _
      have onward : source.onward? (fromTag? (rest.map Sign.char ++ s)) = some s := by
        rw [fromTag?, List.dropWhile_append_of_pos noTag.2]
        rcases stop with rfl | ⟨_, rfl⟩
        · simp only [List.dropWhile_nil, Source.onward?, whole, Bool.false_eq_true, if_false]
        · simp only [List.dropWhile_cons, bne_self_eq_false, Bool.false_eq_true, if_false,
            Source.onward?]
      rw [List.map_cons, List.cons_append, scan.eq_def]
      split
      case h_7 c' rest' _ _ _ _ _ same =>
        cases same
        split
        · next h => rw [onward] at h; cases h
        · next h => rw [onward] at h; cases h; rw [taken, read]
      case h_1 same => exact absurd same (List.cons_ne_nil _ _)
      all_goals
        rename_i same
        exact absurd (List.cons.inj same).1 noTag.1

theorem exists_tagText_eq_cons {name : String} {attributes : List (String × String)}
    (tag : IsTag name attributes)
    : ∃ first rest, Sign.ofText (tagText name attributes) = first :: rest ∧ IsNameSign first := by
  obtain ⟨first, others, spelled⟩ := exists_ofText_eq_cons tag.name
  refine ⟨first, others ++ Sign.ofText (attributesText attributes), ?_, ?_⟩
  · rw [tagText, ofText_append, spelled, List.cons_append]
  · exact isNameSign_of_mem tag.name (spelled ▸ List.mem_cons_self)

/-- A tag is read up to its bracket; a slash at its end says that its element is empty. -/
theorem scan_tag {first : Sign} {rest content after : List Sign} (nameSign : IsNameSign first)
    (ended : splitTag none (first :: rest) = (content, some after))
    : scan source opened (.char '<' :: first :: rest)
      = if content.getLast? = some (.char '/') then
          (scan source opened after).before (.empty (.ofContent content.dropLast))
        else
          (scan source (Tag.nameSigns content :: opened) after).before
            (.start (.ofContent content)) := by
  have onward : source.onward? (splitTag none (first :: rest)).2 = some after := by rw [ended]; rfl
  rw [scan.eq_def]
  split
  case h_6 same =>
    cases same
    split
    · next h => rw [onward] at h; cases h
    · next h => rw [onward] at h; cases h; rw [ended]
  case h_1 same => exact absurd same (List.cons_ne_nil _ _)
  case h_2 same => cases same
  case h_3 same => cases same; exact absurd rfl nameSign.noMark.1
  case h_4 same => cases same; exact absurd rfl nameSign.noMark.2.1
  case h_5 same => cases same; exact absurd rfl nameSign.noMark.2.2
  case h_7 other same =>
    cases same
    exact (other _ _ rfl rfl).elim

/-- A processing instruction is passed over. -/
theorem scan_instruction {content : List Sign} (inside : ∀ sign ∈ content, sign ≠ .char '>')
    (closed : isInstruction content = true)
    : scan source opened (.char '<' :: .char '?' :: (content ++ .char '>' :: s))
      = scan source opened s := by
  have inside : ∀ sign ∈ content, (sign != .char '>') = true :=
    fun sign member => bne_iff_ne.mpr (inside sign member)
  have taken : beforeBracket (content ++ .char '>' :: s) = content := by
    rw [beforeBracket, List.takeWhile_append_of_pos inside]
    exact List.append_nil _
  have onward : source.onward? (behindBracket? (content ++ .char '>' :: s)) = some s := by
    rw [behindBracket?, List.dropWhile_append_of_pos inside]
    rfl
  rw [scan.eq_def]
  split
  case h_4 same =>
    cases same
    split
    · next h => rw [onward] at h; cases h
    · next h => rw [onward] at h; cases h; rw [taken, if_pos closed]
  case h_1 same => exact absurd same (List.cons_ne_nil _ _)
  case h_2 same => cases same
  case h_3 same => cases same
  case h_5 same => cases same
  case h_6 other _ same => cases same; exact (other rfl).elim
  case h_7 other same =>
    cases same
    exact (other _ _ rfl rfl).elim

variable {name : String} {attributes : List (String × String)}

/-- A start tag opens an element. -/
theorem scan_start (tag : IsTag name attributes)
    : scan source opened (.char '<' :: (Sign.ofText (tagText name attributes) ++ .char '>' :: s))
      = (scan source (Sign.ofText name :: opened) s).before
        (.start ⟨name, readAttributes attributes⟩) := by
  have ended := splitTag_tagText tag (.char '>' :: s)
  have last := getLast?_tagText_ne tag.name attributes
  have read := ofContent_tagText tag
  have names := (nameSigns_tagText tag.name attributes).1
  obtain ⟨first, rest, spelled, nameSign⟩ := exists_tagText_eq_cons tag
  rw [spelled] at ended last read names ⊢
  rw [List.cons_append] at ended ⊢
  rw [scan_tag nameSign ended]
  simp only [splitTag, if_true, List.append_nil]
  rw [if_neg last, read, names]

/-- A tag with a slash at its end is an element by itself. -/
theorem scan_empty (tag : IsTag name attributes)
    : scan source opened
        (.char '<' :: (Sign.ofText (tagText name attributes) ++ .char '/' :: .char '>' :: s))
      = (scan source opened s).before (.empty ⟨name, readAttributes attributes⟩) := by
  have ended := splitTag_tagText tag (.char '/' :: .char '>' :: s)
  have slash : splitTag none (.char '/' :: .char '>' :: s) = ([.char '/'], some s) := rfl
  have read := ofContent_tagText tag
  obtain ⟨first, rest, spelled, nameSign⟩ := exists_tagText_eq_cons tag
  rw [slash] at ended
  rw [spelled] at ended read ⊢
  rw [List.cons_append] at ended ⊢
  rw [scan_tag nameSign ended, List.getLast?_concat, if_pos rfl,
    List.dropLast_concat, read]

/-- No white space stands behind a name. -/
theorem endName_ofText (named : isName name = true)
    : endName (Sign.ofText name) = Sign.ofText name := by
  have kept : (Sign.ofText name).reverse.dropWhile isEndSpace = (Sign.ofText name).reverse := by
    cases reversed : (Sign.ofText name).reverse with
    | nil => rfl
    | cons last rest =>
        have member : last ∈ Sign.ofText name := by
          rw [← List.mem_reverse, reversed]
          exact List.mem_cons_self
        rw [List.dropWhile_cons, (isNameSign_of_mem named member).noEndSpace]
        rfl
  rw [endName, kept, List.reverse_reverse]
  exact ite_self _

/-- An end tag closes the innermost element if it has the same name. -/
theorem scan_close (named : isName name = true)
    : scan source (Sign.ofText name :: opened)
        (.char '<' :: .char '/' :: (Sign.ofText name ++ .char '>' :: s))
      = (scan source opened s).before (.close name) := by
  have inside : ∀ sign ∈ Sign.ofText name, (sign != .char '>') = true := by
    intro sign member
    rw [bne_iff_ne]
    exact (isNameSign_of_mem named member).noBracket
  have taken : beforeBracket (Sign.ofText name ++ .char '>' :: s) = Sign.ofText name := by
    rw [beforeBracket, List.takeWhile_append_of_pos inside]
    exact List.append_nil _
  have onward : source.onward? (behindBracket? (Sign.ofText name ++ .char '>' :: s)) = some s := by
    rw [behindBracket?, List.dropWhile_append_of_pos inside]
    rfl
  rw [scan.eq_def]
  split
  case h_5 same =>
    cases same
    rw [taken, endName_ofText named]
    split
    · next h _ =>
        cases h
        next h =>
          rw [onward] at h
          cases h
          simp only [if_true, nameOf_ofText]
    · next other => exact absurd onward (other _ _ _ rfl)
  case h_1 same => exact absurd same (List.cons_ne_nil _ _)
  case h_2 same => cases same
  case h_3 same => cases same
  case h_4 same => cases same
  case h_6 other same => cases same; exact (other rfl).elim
  case h_7 other same =>
    cases same
    exact (other _ _ rfl rfl).elim

-----------------------------------------------------------------------------------------
-- Whole documents
-----------------------------------------------------------------------------------------

/-- Behind any text, the signs are read as the events, without a fault. -/
def ReadsAs (source : Source) (opened : List (List Sign)) (s : List Sign) (events : List Event)
    : Prop :=
  ∀ form text, Encodes form text
    → scan source opened (form.map .char ++ s) = ⟨joinTexts (String.ofList text) events, false⟩

namespace ReadsAs

variable {events : List Event}

/-- What stands before a tag, or before the end, is one text. -/
theorem of_stop (whole : source.isTorn = false) (stop : s = [] ∨ ∃ rest, s = .char '<' :: rest)
    {scanned : List Event} (read : scan source opened s = ⟨scanned, false⟩)
    (joined : ∀ text, joinTexts text events = gathered text ++ scanned)
    : ReadsAs source opened s events := by
  intro form text h
  by_cases filled : form = []
  · rw [filled, List.map_nil, List.nil_append, read, joined, h.eq_nil_iff.mp filled]
    rfl
  · have visible : String.ofList text ≠ "" := by
      intro empty
      have := congrArg String.toList empty
      rw [String.toList_ofList] at this
      exact filled (h.eq_nil_iff.mpr this)
    rw [scan_text whole h filled stop, read, joined, gathered, if_neg visible]
    rfl

theorem nil (whole : source.isTorn = false) : ReadsAs source opened [] [] := by
  have read : scan source opened [] = ⟨[], false⟩ := by
    rw [scan.eq_def]
    simp only [whole, Bool.false_eq_true, if_false]
    rfl
  exact of_stop whole (.inl rfl) read fun text => (List.append_nil _).symm

/-- A text joins the one that is in front of it. -/
theorem text {form text : List Char} (h : Encodes form text) (rest : ReadsAs source opened s events)
    : ReadsAs source opened (form.map .char ++ s)
      (.text (some (String.ofList text)) :: events) := by
  intro form' text' h'
  have joined := rest _ _ (h'.append h)
  rw [List.map_append, List.append_assoc, String.ofList_append] at joined
  rw [joined, joinTexts]

variable {name : String} {attributes : List (String × String)}

/-- Behind any text, an event other than a text is read after it. -/
theorem tag (whole : source.isTorn = false) {event : Event} {tail after : List Sign}
    {opened' : List (List Sign)} (rest : ReadsAs source opened' after events)
    (scanned : scan source opened (.char '<' :: tail) = (scan source opened' after).before event)
    (joined : ∀ text,
      joinTexts text (event :: events) = gathered text ++ event :: joinTexts "" events)
    : ReadsAs source opened (.char '<' :: tail) (event :: events) := by
  have read := rest [] [] .nil
  rw [List.map_nil, List.nil_append] at read
  exact of_stop whole (.inr ⟨tail, rfl⟩) (by rw [scanned, read]; rfl) joined

end ReadsAs

mutual

/-- A piece of a document is read as its events, by induction on the tree. -/
theorem readsAs_render (whole : source.isTorn = false) {opened : List (List Sign)} {s : List Sign}
    (node : Node) (formed : node.EachTag IsTag) {events : List Event}
    (rest : ReadsAs source opened s events)
    : ReadsAs source opened (Sign.ofText node.render ++ s) (node.events ++ events) := by
  cases node with
  | text content =>
      have read := rest.text (encodes_escape content)
      rwa [String.ofList_toList] at read
  | plain content =>
      have read := rest.text (encodes_escapePlain content)
      rwa [String.ofList_toList] at read
  | leaf name attributes =>
      have read := rest.tag whole (scan_empty formed) fun _ => rfl
      simpa [Node.render, tagText, Sign.ofText, Node.events] using read
  | element name attributes content =>
      obtain ⟨tag, formed⟩ := formed
      have close := rest.tag whole (scan_close tag.name) fun _ => rfl
      have inner := readsAs_renderAll whole content formed close
      have read := inner.tag whole (scan_start tag) fun _ => rfl
      simpa [Node.render, tagText, Sign.ofText, Node.events] using read

/-- Pieces that follow each other are read as their events. -/
theorem readsAs_renderAll (whole : source.isTorn = false) {opened : List (List Sign)}
    {s : List Sign} (nodes : List Node) (formed : EachTagOf IsTag nodes) {events : List Event}
    (rest : ReadsAs source opened s events)
    : ReadsAs source opened (Sign.ofText (renderAll nodes) ++ s) (allEvents nodes ++ events) := by
  cases nodes with
  | nil => exact rest
  | cons node nodes =>
      have read := readsAs_render whole node formed.1 (readsAs_renderAll whole nodes formed.2 rest)
      rwa [← List.append_assoc, ← List.append_assoc, ← ofText_append] at read

end

/-- What the declaration of documents says. -/
def declaration : String := "xml version=\"1.0\" encoding=\"UTF-8\" standalone=\"yes\"?"

theorem document_eq (root : Node)
    : document root = "<?" ++ declaration ++ ">\n" ++ root.render := by
  have first : "<?xml version=\"1.0\" encoding=\"UTF-8\" standalone=\"yes\"?>\n"
      = "<?" ++ declaration ++ ">\n" := by decide +kernel
  exact congrArg (· ++ root.render) first

theorem isTorn_ofText (s : String) : (Source.ofText s).isTorn = false := rfl

/-- A written document is read as the events of its root, behind the end of its first line. -/
theorem events_document {root : Node} (formed : root.EachTag IsTag)
    : events (.ofText (document root)) = ⟨joinTexts "\n" root.events, false⟩ := by
  have whole := isTorn_ofText (document root)
  generalize source_eq : Source.ofText (document root) = source at whole
  have signs : source.signs = .char '<' :: .char '?' :: (Sign.ofText declaration ++ .char '>' ::
      (['\n'].map .char ++ Sign.ofText root.render)) := by
    rw [← source_eq, Source.ofText, document_eq, ofText_append, ofText_append, ofText_append,
      List.append_assoc, List.append_assoc]
    rfl
  have inside : ∀ sign ∈ Sign.ofText declaration, sign ≠ .char '>' := by decide +kernel
  have closed : isInstruction (Sign.ofText declaration) = true := by decide +kernel
  have newLine : Encodes ['\n'] ['\n'] := .char (by decide) (by decide) .nil
  have nothing : ReadsAs source [] [] [] := .nil whole
  have read := readsAs_render whole root formed nothing _ _ newLine
  rw [List.append_nil, List.append_nil] at read
  rw [events, signs]
  exact (scan_instruction inside closed).trans read

end Spreadsheet.Xml
