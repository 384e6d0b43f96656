import Spreadsheet.Proofs.Request.DeclaredGrammar
import Spreadsheet.Proofs.Request.GrammarReading
import Spreadsheet.Proofs.Request.IssuePlaces

/-! Requests are accepted if and only if they are of the declared grammar, and all departures of
any other value are reported, each of them once and at its own place. The grammar that requests
are checked against lists its fields in an order of its own; it says the same as the declared one.
-/

namespace Spreadsheet.Request

open Spreadsheet.Json

namespace Shape

-----------------------------------------------------------------------------------------
-- Shapes that differ in the order of fields
-----------------------------------------------------------------------------------------

mutual

/-- The second shape says all that the first one says, with the fields of objects in any
order.
-/
def isCoveredBy : Shape → Shape → Bool
  | .any, .any | .string, .string | .number, .number | .boolean, .boolean
  | .textOrNumber, .textOrNumber => true
  | .integer least, .integer least' => least == least'
  | .oneOf names, .oneOf names' => names == names'
  | .array item, .array item' => item.isCoveredBy item'
  | .someOf item message, .someOf item' message' =>
    message == message' && item.isCoveredBy item'
  | .members value, .members value' => value.isCoveredBy value'
  | .object fields, .object fields' => areCoveredBy fields fields'
  | _, _ => false

def areCoveredBy : List (String × Bool × Shape) → List (String × Bool × Shape) → Bool
  | [], _ => true
  | (name, required, S) :: fields, fields' =>
    (match fields'.find? (·.1 == name) with
      | some (_, required', T) => required == required' && S.isCoveredBy T
      | none => false) &&
      areCoveredBy fields fields'

end

/-- A field is covered by one with its name that is required if it is. -/
theorem exists_field_of_areCoveredBy {fields fields' : List (String × Bool × Shape)}
    (covered : areCoveredBy fields fields') {name : String} {required : Bool} {S : Shape}
    (member : (name, required, S) ∈ fields)
    : ∃ T, (name, required, T) ∈ fields' ∧ S.isCoveredBy T := by
  induction fields with
  | nil => cases member
  | cons field rest ih =>
      rw [areCoveredBy, Bool.and_eq_true] at covered
      rcases List.mem_cons.mp member with rfl | later
      · have first := covered.1
        split at first
        · next name' required' T found =>
            obtain ⟨rfl, inside⟩ : required = required' ∧ S.isCoveredBy T := by simpa using first
            obtain rfl : name' = name := by simpa using List.find?_some found
            exact ⟨T, List.mem_of_find?_eq_some found, inside⟩
        · cases first
      · exact ih covered.2 later

theorem kinds_eq_of_isCoveredBy {S T : Shape} (covered : S.isCoveredBy T) : S.kinds = T.kinds := by
  cases S <;> cases T <;> first | rfl | cases covered

theorem FaultAt.of_isCoveredBy {S T : Shape} {v : Value} {fault : Fault}
    (at_ : S.FaultAt v fault) (covered : S.isCoveredBy T)
    : T.FaultAt v fault := by
  have kinds := kinds_eq_of_isCoveredBy covered
  cases at_ with
  | kind wrong =>
      rw [kinds]
      exact .kind (by rwa [OfKind, ← kinds])
  | unknownName unknown =>
      cases T with
      | oneOf names' => exact beq_iff_eq.mp covered ▸ .unknownName unknown
      | _ => cases covered
  | outOfRange outside =>
      cases T with
      | integer least' => exact beq_iff_eq.mp covered ▸ .outOfRange outside
      | _ => cases covered
  | fraction =>
      cases T with
      | integer least' => exact beq_iff_eq.mp covered ▸ .fraction
      | _ => cases covered
  | empty =>
      cases T with
      | someOf item' message' =>
          rw [isCoveredBy, Bool.and_eq_true, beq_iff_eq] at covered
          exact covered.1 ▸ .empty
      | _ => cases covered

/-- What is looked at inside a value for one shape is looked at for each that covers it. -/
theorem Part.of_isCoveredBy {S T S' : Shape} {v w : Value} {step : Step}
    (part : Part S v step S' w) (covered : S.isCoveredBy T)
    : ∃ T', Part T v step T' w ∧ S'.isCoveredBy T' := by
  cases part with
  | item found =>
      cases T with
      | array item' => exact ⟨item', .item found, covered⟩
      | _ => cases covered
  | someItem found =>
      cases T with
      | someOf item' message' =>
          exact ⟨item', .someItem found, (Bool.and_eq_true_iff.mp covered).2⟩
      | _ => cases covered
  | entry member =>
      cases T with
      | members value' => exact ⟨value', .entry member, covered⟩
      | _ => cases covered
  | field member found =>
      cases T with
      | object fields' =>
          obtain ⟨T', member', inside⟩ := exists_field_of_areCoveredBy covered member
          exact ⟨T', .field member' found, inside⟩
      | _ => cases covered

/-- What departs from a shape departs from each one that covers it, by induction on the place. -/
theorem Departs.of_isCoveredBy {S T : Shape} {v : Value} {path : Path} {fault : Fault}
    (departs : S.Departs v path fault) (covered : S.isCoveredBy T)
    : T.Departs v path fault := by
  induction departs generalizing T with
  | here at_ => exact .here (at_.of_isCoveredBy covered)
  | absent member absent =>
      cases T with
      | object fields' =>
          obtain ⟨T, member', -⟩ := exists_field_of_areCoveredBy covered member
          exact .absent member' absent
      | _ => cases covered
  | inside part below ih =>
      obtain ⟨T', part', inside⟩ := part.of_isCoveredBy covered
      exact .inside part' (ih inside)

theorem Alike.of_isCoveredBy {S T : Shape} {v v' : Value} (alike : S.Alike v v')
    (covered : T.isCoveredBy S)
    : T.Alike v v' := by
  induction alike generalizing T with
  | same => exact .same
  | unread wrong kind =>
      exact .unread (by rwa [OfKind, kinds_eq_of_isCoveredBy covered]) kind
  | array length _ ih =>
      cases T with
      | array item' => exact .array length fun i w w' found found' => ih i w w' found found' covered
      | _ => cases covered
  | someOf length _ ih =>
      cases T with
      | someOf item' message' =>
          have inside := (Bool.and_eq_true_iff.mp covered).2
          exact .someOf length fun i w w' found found' => ih i w w' found found' inside
      | _ => cases covered
  | members names _ ih =>
      cases T with
      | members value' =>
          exact .members names fun i entry entry' found found' =>
            ih i entry entry' found found' covered
      | _ => cases covered
  | object absent _ ih =>
      cases T with
      | object fields' =>
          refine .object (fun field member => ?_) fun field member w w' found found' => ?_
          · obtain ⟨S', member', -⟩ := exists_field_of_areCoveredBy covered member
            exact absent (field.1, field.2.1, S') member'
          · obtain ⟨S', member', inside⟩ := exists_field_of_areCoveredBy covered member
            exact ih (field.1, field.2.1, S') member' w w' found found' inside
      | _ => cases covered

end Shape

open Shape

-----------------------------------------------------------------------------------------
-- Requests and the declared grammar
-----------------------------------------------------------------------------------------

/-- The grammar that requests are checked against says no more and no less than the declared
one.
-/
theorem requestShape_isCoveredBy
    : (requestShape false).isCoveredBy declaredShape
      ∧ declaredShape.isCoveredBy (requestShape false) := by
  decide +kernel

theorem requestShape_isPlain : (requestShape false).isPlain := by
  decide +kernel

/-- The issues of a request are its departures from the declared grammar. -/
theorem mem_issues_iff_departs (v : Value) (path : Path) (fault : Fault)
    : ⟨path, fault⟩ ∈ issues false v ↔ declaredShape.Departs v path fault := by
  obtain ⟨there, back⟩ := requestShape_isCoveredBy
  rw [issues, mem_issues_iff]
  constructor
  · rintro ⟨rest, rfl, departs⟩
    exact departs.of_isCoveredBy there
  · exact fun departs => ⟨path, rfl, departs.of_isCoveredBy back⟩

theorem issues_eq_nil_iff_conforms (v : Value)
    : issues false v = [] ↔ declaredShape.Conforms v := by
  rw [List.eq_nil_iff_forall_not_mem]
  constructor
  · intro empty
    refine conforms_of_not_departs _ v fun path fault departs => ?_
    exact empty _ ((mem_issues_iff_departs v path fault).mpr departs)
  · rintro conforms ⟨path, fault⟩ listed
    exact conforms.not_departs ((mem_issues_iff_departs v path fault).mp listed)

/-- Values that differ in unknown members have one result: the same issues, or the same
request.
-/
theorem validate_congr {v v' : Value} (alike : declaredShape.Alike v v')
    : issues false v' = issues false v ∧ validate v' = validate v := by
  have alike := alike.of_isCoveredBy requestShape_isCoveredBy.1
  have same : issues false v' = issues false v := (alike.issues_eq []).symm
  refine ⟨same, ?_⟩
  cases found : issues false v with
  | nil =>
      obtain ⟨r, read, read'⟩ := request_reads v v' ((issues_eq_nil_iff ..).mp found) alike
      simp only [validate, same, found, read, read']
  | cons issue rest => simp only [validate, same, found]

/-- A request is accepted if and only if it is of the declared grammar. Of any other value the
issues are its departures from the grammar, no two of them with one place as messages name it.
Members that the grammar does not know make no difference.
-/
theorem validate_exact (v : Value) (distinct : v.NamesDistinct)
    : ((∃ r, validate v = .ok r) ↔ declaredShape.Conforms v)
      ∧ (¬declaredShape.Conforms v → validate v = .error (.issues (issues false v)))
      ∧ (∀ path fault, ⟨path, fault⟩ ∈ issues false v ↔ declaredShape.Departs v path fault)
      ∧ ((issues false v).map (·.path.text)).Nodup
      ∧ ∀ v', declaredShape.Alike v v'
        → issues false v' = issues false v ∧ validate v' = validate v := by
  refine ⟨⟨?_, ?_⟩, ?_, mem_issues_iff_departs v,
    nodup_issue_texts requestShape_isPlain distinct, fun v' => validate_congr⟩
  · rintro ⟨r, accepted⟩
    rw [← issues_eq_nil_iff_conforms]
    cases found : issues false v with
    | nil => rfl
    | cons issue rest => simp [validate, found] at accepted
  · intro conforms
    have none := (issues_eq_nil_iff_conforms v).mpr conforms
    obtain ⟨r, read⟩ := Option.isSome_iff_exists.mp (request_readBy [] v none)
    exact ⟨r, by simp only [validate, none, read]⟩
  · intro departs
    cases found : issues false v with
    | nil => exact absurd ((issues_eq_nil_iff_conforms v).mp found) departs
    | cons issue rest => simp only [validate, found]

/-- Whatever text a request is read from, no two issues name one place. -/
theorem nodup_issue_texts_of_ofText? {text : String} {v : Value}
    (read : Value.ofText? text = some v)
    : ((issues false v).map (·.path.text)).Nodup :=
  nodup_issue_texts requestShape_isPlain (Value.namesDistinct_of_ofText? read)

/-- A draft with a number for a name, a column without a key, and a note that no field takes. -/
def faultyRequest (note : Value) : Value :=
  .object
    [("file_name", .int 7), ("note", note),
      ("sheets",
        .array
          [.object
            [("columns", .array [.object [("header", .string "H")]]),
              ("data", .array [.object [("a.b", .null)]]), ("name", .string "S")]])]

theorem namesDistinct_faultyRequest : (faultyRequest .null).NamesDistinct := by
  have column : (Value.object [("header", .string "H")]).NamesDistinct :=
    .object (by decide) (by simp [Value.NamesDistinct.string])
  have row : (Value.object [("a.b", .null)]).NamesDistinct :=
    .object (by decide) (by simp [Value.NamesDistinct.null])
  refine .object (by decide) ?_
  simp only [List.forall_mem_cons]
  refine ⟨.int 7, .null, .array (List.forall_mem_singleton.mpr (.object (by decide) ?_)), nofun⟩
  simp only [List.forall_mem_cons]
  exact ⟨.array (List.forall_mem_singleton.mpr column), .array (List.forall_mem_singleton.mpr row),
    .string "S", nofun⟩

/-- Both faults of the draft are reported, whatever the note. -/
theorem validate_faultyRequest
    : (faultyRequest .null).NamesDistinct
      ∧ ¬declaredShape.Conforms (faultyRequest .null)
      ∧ validate (faultyRequest .null) = .error (.issues (issues false (faultyRequest .null)))
      ∧ (issues false (faultyRequest .null)).map Issue.text
        = ["file_name: expected string, got number", "sheets.0.columns.0.key: required"]
      ∧ validate (faultyRequest (.string "n")) = validate (faultyRequest .null) := by
  have texts : (issues false (faultyRequest .null)).map Issue.text
      = ["file_name: expected string, got number", "sheets.0.columns.0.key: required"] := by
    decide +kernel
  have departs : ¬declaredShape.Conforms (faultyRequest .null) := by
    intro conforms
    rw [(issues_eq_nil_iff_conforms _).mpr conforms] at texts
    cases texts
  have alike : declaredShape.Alike (faultyRequest .null) (faultyRequest (.string "n")) := by
    apply Alike.of_get?_eq
    simp only [List.forall_mem_cons]
    exact ⟨rfl, rfl, rfl, rfl, nofun⟩
  obtain ⟨-, refused, -, -, unread⟩ := validate_exact _ namesDistinct_faultyRequest
  exact ⟨namesDistinct_faultyRequest, departs, refused departs, texts, (unread _ alike).2⟩

end Spreadsheet.Request
