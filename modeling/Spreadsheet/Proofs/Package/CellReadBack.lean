import Spreadsheet.Proofs.Package.SheetPieces
import Spreadsheet.Proofs.Sheet.Aspects
import Spreadsheet.Proofs.Xml.LegalText

/-! A cell that was written is read at its own position, with what can be told of its value and the
style that its number stands for.
-/

namespace Spreadsheet

-----------------------------------------------------------------------------------------
-- Values
-----------------------------------------------------------------------------------------

open Spreadsheet.Cell Spreadsheet.Xml

/-- The value that is read where a value was written. Characters that documents cannot hold are
lost, and a text without any others is no text at all.
-/
def Cell.Value.asRead : Value → Value
  | .empty => .empty
  | .boolean b => .boolean b
  | .number x => .number ((Number.readBinary64? (x.text .cell)).getD x)
  | .text content => if legalPart content = "" then .empty else .text (legalPart content)
  | .formula body => if legalPart body = "" then .empty else .ofFormula (legalPart body)

namespace Package.SheetReading

variable {shared : Shared} {s : Sheet} {attributes : List (String × String)} {head : CellHead}
  {goal : Sheet.Goal} {address : Address} {number : Nat}

-----------------------------------------------------------------------------------------
-- Tags
-----------------------------------------------------------------------------------------

/-- The number that is read where one was written. -/
def numberAsRead (number : Nat) : Nat :=
  (Number.readNat? (Number.wordLimit 32) (Nat.repr number).toList).getD 0

/-- The style that a number stands for; zero and unknown numbers stand for the default one. -/
def styleOf (shared : Shared) (number : Nat) : Style :=
  if number = 0 then {} else shared.styles[number]?.getD {}

/-- The attributes give the address of a cell and the number of its style unless that is zero. -/
structure PlacesCell (attributes : List (String × String)) (address : Address) (number : Nat) : Prop
    where
  placed : attributes.lookup "r" = some address.text
  styled : attributes.lookup "s" = if number != 0 then some (Nat.repr number) else none

/-- The tag of a cell with an address of a sheet says where the cell is and how it is styled. -/
theorem exists_cellHead (onSheet : address.OnSheet) (places : PlacesCell attributes address number)
    : ∃ head, cellHead ⟨"c", readAttributes attributes⟩ = .ok head ∧ head.address = address
      ∧ head.kind = (attributes.lookup "t").map legalPart ∧ head.style = numberAsRead number := by
  have parsed : onModel (ModelError.parseAddress address.text) = .ok address := by
    rw [ModelError.parseAddress, Address.parse_text onSheet]
    rfl
  have style : ((⟨"c", readAttributes attributes⟩ : Tag).nat? "s" (Number.wordLimit 32)).getD 0
      = numberAsRead number := by
    rw [Tag.nat?, attribute?_readAttributes, places.styled]
    cases none : number != 0 with
    | true =>
        rw [if_pos rfl, Option.map_some, legalPart_eq_self (legal_repr number)]
        rfl
    | false =>
        rw [bne_eq_false_iff_eq.mp none]
        decide
  rw [cellHead, attribute?_readAttributes, places.placed, Option.map_some,
    legalPart_eq_self address.legal_text]
  dsimp only
  rw [parsed]
  exact ⟨_, rfl, rfl, attribute?_readAttributes _ _ _, style⟩

-----------------------------------------------------------------------------------------
-- Values and styles on the sheet
-----------------------------------------------------------------------------------------

/-- The style that a number stands for can be applied to every cell of a sheet. -/
theorem exists_applyStyle (onSheet : head.address.OnSheet)
    (styled : goal (.style head.address.row head.address.column) = styleOf shared head.style)
    (s : Sheet)
    : ∃ s', applyStyle shared head s = .ok s'
      ∧ s.Brings goal (· = .style head.address.row head.address.column) s' := by
  have untouched (nothing : styleOf shared head.style = {})
      : s.Brings goal (· = .style head.address.row head.address.column) s := by
    refine (Sheet.Brings.refl goal s).mono ?_
    rintro a rfl
    exact styled.trans nothing
  rw [applyStyle]
  split
  · next zero => exact ⟨s, rfl, untouched (if_pos zero)⟩
  · next numbered =>
      rw [styleOf, if_neg numbered] at styled untouched
      cases known : shared.styles[head.style]? with
      | none => exact ⟨s, rfl, untouched (by rw [known]; rfl)⟩
      | some style =>
          rw [known] at styled
          refine ⟨_, Sheet.setStyle_eq_ok.mpr ⟨onSheet, rfl⟩, ?_⟩
          exact .of_changes (fun sound => Sheet.changes_setStyle sound _ _ style) fun _ =>
            styled.symm

/-- A cell whose value can be told is put on the sheet. -/
theorem exists_finishCell {value : Value} {content formula : Option String}
    (onSheet : head.address.OnSheet)
    (valued : cellValue shared head.kind content formula = .ok value)
    (aimed : goal (.value head.address.row head.address.column) = value)
    (styled : goal (.style head.address.row head.address.column) = styleOf shared head.style)
    : ∃ s', finishCell shared ⟨s, some head, content, formula, none⟩ head = .ok { sheet := s' }
      ∧ s.Brings goal (fun a => a = .value head.address.row head.address.column
        ∨ a = .style head.address.row head.address.column) s' := by
  have placed : s.setValue head.address.row head.address.column value
      = .ok { s with cells := s.cells.setValue head.address.row head.address.column value } :=
    Sheet.setValue_eq_ok.mpr ⟨onSheet, rfl⟩
  have first : s.Brings goal (· = .value head.address.row head.address.column) _ :=
    .of_changes (fun _ => Sheet.changes_setValue s _ _ value) fun _ => aimed.symm
  obtain ⟨s', applied, second⟩ := exists_applyStyle onSheet styled
    { s with cells := s.cells.setValue head.address.row head.address.column value }
  refine ⟨s', ?_, first.trans second⟩
  exact bind_eq_ok.mpr ⟨value, valued, bind_eq_ok.mpr
    ⟨_, onSheet_of_ok placed, onSheet_of_ok applied⟩⟩

-----------------------------------------------------------------------------------------
-- What cells hold
-----------------------------------------------------------------------------------------

/-- What has been read of a text; nothing is read of an empty one. -/
def given (content : String) : Option String := if content = "" then none else some content

/-- An element with a text in it is read by its start, its text and its end. -/
theorem follow_textual {state opened filled state' : SheetReading} {name : String}
    {content : String}
    (entered : state.start ⟨name, readAttributes attributes⟩ = .ok opened)
    (taken : (gathered (legalPart content)).foldlM (step shared) opened = .ok filled)
    (left : filled.close shared name = .ok state') (events : List Event)
    : follow (step shared) state ((Node.element name attributes [.text content]).events ++ events)
      = follow (step shared) state' events := by
  rw [Node.events, List.cons_append, List.append_assoc, follow_start, step, entered]
  change follow (step shared) opened (.text (some (legalPart content)) :: .close name :: events) = _
  rw [follow_content, taken]
  change follow (step shared) filled (.close name :: events) = _
  rw [follow_close, step, left]
  rfl

theorem foldlM_value (content : String) (cell : Option CellHead)
    : (gathered content).foldlM (step shared) ⟨s, cell, none, none, some .value⟩
      = .ok ⟨s, cell, given content, none, some .value⟩ := by
  rw [gathered, given]
  split
  · rfl
  · change Except.ok (mk s cell (some ("" ++ content)) none (some .value)) = _
    rw [String.empty_append]

theorem foldlM_formula (content : String) (cell : Option CellHead)
    : (gathered content).foldlM (step shared) ⟨s, cell, none, none, some .formula⟩
      = .ok ⟨s, cell, none, given content, some .formula⟩ := by
  rw [gathered, given]
  split
  · rfl
  · change Except.ok (mk s cell none (some ("" ++ content)) (some .formula)) = _
    rw [String.empty_append]

variable (styled : goal (.style address.row address.column) = styleOf shared (numberAsRead number))

include styled

/-- A cell is read by its tag, what it holds and its end. -/
theorem exists_takes_cell {nodes : List Node} {content formula : Option String} {value : Value}
    (onSheet : address.OnSheet) (places : PlacesCell attributes address number)
    (inner : ∀ head events, follow (step shared) ⟨s, some head, none, none, none⟩
        (allEvents nodes ++ events)
      = follow (step shared) ⟨s, some head, content, formula, none⟩ events)
    (valued : cellValue shared ((attributes.lookup "t").map legalPart) content formula = .ok value)
    (aimed : goal (.value address.row address.column) = value)
    : ∃ s', Takes shared (.element "c" attributes nodes) s s'
      ∧ s.Brings goal (fun a => a = .value address.row address.column
        ∨ a = .style address.row address.column) s' := by
  obtain ⟨head, tagged, rfl, kind, style⟩ := exists_cellHead onSheet places
  rw [← kind] at valued
  rw [← style] at styled
  obtain ⟨s', finished, brings⟩ := exists_finishCell (s := s) onSheet valued aimed styled
  refine ⟨s', fun events => ?_, brings⟩
  have entered : step shared { sheet := s } (.start ⟨"c", readAttributes attributes⟩)
      = .ok ⟨s, some head, none, none, none⟩ := bind_eq_ok.mpr ⟨head, tagged, rfl⟩
  have left : step shared ⟨s, some head, content, formula, none⟩ (.close "c")
      = .ok { sheet := s' } := finished
  rw [Node.events, List.cons_append, List.append_assoc, follow_start, entered]
  change follow (step shared) ⟨s, some head, none, none, none⟩ _ = _
  rw [inner, List.singleton_append, follow_close, left]
  rfl

/-- A cell that is only styled is read by its tag. -/
theorem exists_takes_styled (onSheet : address.OnSheet)
    (places : PlacesCell attributes address number) (s : Sheet)
    : ∃ s', Takes shared (.leaf "c" attributes) s s'
      ∧ s.Brings goal (· = .style address.row address.column) s' := by
  obtain ⟨head, tagged, rfl, -, style⟩ := exists_cellHead onSheet places
  rw [← style] at styled
  obtain ⟨s', applied, brings⟩ := exists_applyStyle onSheet styled s
  exact ⟨s', .leaf (bind_eq_ok.mpr ⟨head, tagged, onSheet_of_ok applied⟩), brings⟩

omit styled

-----------------------------------------------------------------------------------------
-- Written cells
-----------------------------------------------------------------------------------------

/-- The attributes that every cell has place it and leave its kind to what follows. -/
theorem placesCell_cellAttributes (address : Address) (number : Nat)
    (kind : List (String × String)) (plain : kind.lookup "s" = none)
    : PlacesCell ([("r", address.text)] ++ attributeIf (number != 0) "s" (Nat.repr number) ++ kind)
        address number
      ∧ ([("r", address.text)] ++ attributeIf (number != 0) "s" (Nat.repr number)
          ++ kind).lookup "t" = kind.lookup "t" := by
  refine ⟨⟨rfl, ?_⟩, ?_⟩
  · cases number != 0
    · exact plain
    · rfl
  · cases number != 0 <;> rfl

theorem rawValue_number {x : Number.Binary64} (shared : Shared)
    : rawValue shared none x.display
      = .ok (.number ((Number.readBinary64? (x.text .cell)).getD x)) := by
  obtain ⟨y, read⟩ := Number.Binary64.exists_readBinary64?_text x
  have solid : ∀ c ∈ x.text .cell, Text.isBlank c = false := by
    have signs : "-.NaNinf".toList.all (!Text.isBlank ·) := by decide
    intro c member
    rcases Number.Binary64.of_mem_text member with digit | sign
    · exact Number.isBlank_of_isDigit digit
    · exact Bool.not_eq_true' _ ▸ List.all_eq_true.mp signs c sign
  have written : Text.trimChars x.display.toList = x.text .cell := by
    rw [Number.Binary64.display, String.toList_ofList, Text.trimChars_eq_self solid]
  unfold rawValue
  dsimp only
  rw [written, read]
  rfl

/-- The text of a number is never empty, since it is read as a number. -/
theorem given_display (x : Number.Binary64) : given x.display = some x.display := by
  obtain ⟨y, read⟩ := Number.Binary64.exists_readBinary64?_text x
  rw [given, if_neg]
  intro nothing
  have blank : x.text .cell = [] := by
    rw [← String.toList_ofList (l := x.text .cell)]
    exact congrArg String.toList nothing
  rw [blank] at read
  cases read

/-- What is read within a cell that holds one value. -/
theorem follow_valueElement (content : String) (head : CellHead) (events : List Event)
    : follow (step shared) ⟨s, some head, none, none, none⟩
        (allEvents [.textual "v" content] ++ events)
      = follow (step shared) ⟨s, some head, given (legalPart content), none, none⟩ events := by
  have opened : start ⟨s, some head, none, none, none⟩ ⟨"v", readAttributes []⟩
      = .ok ⟨s, some head, none, none, some .value⟩ := rfl
  rw [allEvents, allEvents, List.append_nil]
  exact follow_textual opened (foldlM_value _ _) rfl events

theorem follow_formulaElement (body : String) (head : CellHead) (events : List Event)
    : follow (step shared) ⟨s, some head, none, none, none⟩
        (allEvents [.textual "f" body] ++ events)
      = follow (step shared) ⟨s, some head, none, given (legalPart body), none⟩ events := by
  have opened : start ⟨s, some head, none, none, none⟩ ⟨"f", readAttributes []⟩
      = .ok ⟨s, some head, none, none, some .formula⟩ := rfl
  rw [allEvents, allEvents, List.append_nil]
  exact follow_textual opened (foldlM_formula _ _) rfl events

/-- A text stands within two elements, of which the outer one is passed over. -/
theorem follow_textElement (content : String) (head : CellHead) (events : List Event)
    : follow (step shared) ⟨s, some head, none, none, none⟩
        (allEvents [.element "is" [] [.element "t" [("xml:space", "preserve")] [.text content]]]
          ++ events)
      = follow (step shared) ⟨s, some head, given (legalPart content), none, none⟩ events := by
  have opened : start ⟨s, some head, none, none, none⟩
        ⟨"t", readAttributes [("xml:space", "preserve")]⟩
      = .ok ⟨s, some head, none, none, some .value⟩ := rfl
  rw [allEvents, allEvents, List.append_nil, Node.events, allEvents, allEvents, List.append_nil,
    List.cons_append, List.append_assoc, follow_start]
  change follow (step shared) ⟨s, some head, none, none, none⟩ _ = _
  rw [follow_textual opened (foldlM_value _ _) rfl, List.singleton_append, follow_close]
  rfl

/-- An empty cell is written for its style alone, if it has one. -/
theorem exists_takesAll_emptyCell (onSheet : address.OnSheet)
    (aimed : goal (.value address.row address.column) = .empty)
    (styled : goal (.style address.row address.column) = styleOf shared (numberAsRead number))
    (s : Sheet)
    : ∃ s', TakesAll shared (cellNode address number .empty) s s'
      ∧ s.Brings goal (fun a => a = .value address.row address.column
        ∨ a = .style address.row address.column) s' := by
  have untouched : s.Brings goal (· = .value address.row address.column) s := by
    refine (Sheet.Brings.refl goal s).mono ?_
    rintro a rfl
    exact aimed
  have plain := (placesCell_cellAttributes address number [] rfl).1
  rw [List.append_nil] at plain
  rw [cellNode]
  cases none : number != 0 with
  | false =>
      have default : goal (.style address.row address.column) = {} := by
        rw [styled, bne_eq_false_iff_eq.mp none]
        rfl
      refine ⟨s, .nil, (Sheet.Brings.refl goal s).mono ?_⟩
      rintro a (rfl | rfl)
      · exact aimed
      · exact default
  | true =>
      rw [none] at plain
      obtain ⟨s', taken, brings⟩ := exists_takes_styled styled onSheet plain s
      exact ⟨s', .single taken, untouched.trans brings⟩

/-- A cell with a value has the attributes that place it and perhaps one for its kind. -/
theorem exists_takesAll_filledCell {nodes : List Node} {content formula : Option String}
    {value : Value} (onSheet : address.OnSheet) (kind : List (String × String))
    (plain : kind.lookup "s" = none)
    (inner : ∀ head events, follow (step shared) ⟨s, some head, none, none, none⟩
        (allEvents nodes ++ events)
      = follow (step shared) ⟨s, some head, content, formula, none⟩ events)
    (valued : cellValue shared ((kind.lookup "t").map legalPart) content formula = .ok value)
    (aimed : goal (.value address.row address.column) = value)
    (styled : goal (.style address.row address.column) = styleOf shared (numberAsRead number))
    : ∃ s', TakesAll shared [.element "c" ([("r", address.text)]
          ++ attributeIf (number != 0) "s" (Nat.repr number) ++ kind) nodes] s s'
      ∧ s.Brings goal (fun a => a = .value address.row address.column
        ∨ a = .style address.row address.column) s' := by
  obtain ⟨places, same⟩ := placesCell_cellAttributes address number kind plain
  rw [← same] at valued
  obtain ⟨s', taken, brings⟩ := exists_takes_cell styled onSheet places inner valued aimed
  exact ⟨s', .single taken, brings⟩

/-- A written cell is read at its position, with what can be told of its value and its style. -/
theorem exists_takesAll_cellNode (onSheet : address.OnSheet) {value : Value}
    (aimed : goal (.value address.row address.column) = value.asRead)
    (styled : goal (.style address.row address.column) = styleOf shared (numberAsRead number))
    (s : Sheet)
    : ∃ s', TakesAll shared (cellNode address number value) s s'
      ∧ s.Brings goal (fun a => a = .value address.row address.column
        ∨ a = .style address.row address.column) s' := by
  cases value with
  | empty => exact exists_takesAll_emptyCell onSheet aimed styled s
  | number x =>
      have valued : cellValue shared none (given (legalPart x.display)) none
          = .ok (Value.number x).asRead := by
        rw [legalPart_eq_self (legal_display x), given_display]
        exact rawValue_number shared
      rw [cellNode, ← List.append_nil (([("r", address.text)] : List (String × String)) ++ _)]
      exact exists_takesAll_filledCell onSheet [] rfl (follow_valueElement x.display) valued aimed
        styled
  | text content =>
      have valued : cellValue shared (some "inlineStr") (given (legalPart content)) none
          = .ok (Value.text content).asRead := by
        rw [Value.asRead, given]
        split <;> rfl
      exact exists_takesAll_filledCell onSheet [("t", "inlineStr")] rfl
        (follow_textElement content) valued aimed styled
  | boolean b =>
      have valued : cellValue shared (some "b") (given (legalPart (if b then "1" else "0"))) none
          = .ok (Value.boolean b).asRead := by
        cases b <;> rfl
      exact exists_takesAll_filledCell onSheet [("t", "b")] rfl (follow_valueElement _) valued aimed
        styled
  | formula body =>
      have valued : cellValue shared none none (given (legalPart body))
          = .ok (Value.formula body).asRead := by
        rw [Value.asRead, given]
        split <;> rfl
      rw [cellNode, ← List.append_nil (([("r", address.text)] : List (String × String)) ++ _)]
      exact exists_takesAll_filledCell onSheet [] rfl (follow_formulaElement body) valued aimed
        styled

end Package.SheetReading

end Spreadsheet
