import Spreadsheet.Proofs.Package.PartNames
import Spreadsheet.Proofs.Package.SheetEntries

/-! Following relationships from part to part. What a part says of its relationships is read from
its written document, and an id leads on only if it is that of a single relationship.
-/

namespace Spreadsheet.Package

open Spreadsheet.Xml

-----------------------------------------------------------------------------------------
-- What parts say
-----------------------------------------------------------------------------------------

/-- The tags of a part's document in their order. -/
def Part.tags (part : Part) : List Tag := (events part.content.source).events.filterMap tag?

/-- A relationship as its tag tells it. -/
structure Link where
  id : String
  type : String
  target : String
deriving DecidableEq

/-- The relationships that a part holds. -/
def Part.links (part : Part) : List Link :=
  (part.tags.filter (·.name == "Relationship")).map fun tag =>
    ⟨(tag.attribute? "Id").getD "", (tag.attribute? "Type").getD "",
      (tag.attribute? "Target").getD ""⟩

/-- The part that an id leads to from another: the part has one relationship of the id, it is of
the kind, and its target is in the package.
-/
def follow? (p : Package) (source : String) (kind : RelationshipKind) (id : String)
    : Option Part := do
  let part ← p.part? (relationshipsName source)
  match part.links.filter (·.id == id) with
  | [link] => if link.type = kind.url then p.part? (resolve source link.target) else none
  | _ => none

theorem tags_ofRoot (name : String) {root : Node} (formed : root.EachTag IsTag)
    : (Part.ofRoot name root).tags = root.events.filterMap tag? := by
  have read : events (Part.ofRoot name root).content.source = ⟨joinTexts "\n" root.events, false⟩ :=
    events_document formed
  rw [Part.tags, read, filterMap_joinTexts]

-----------------------------------------------------------------------------------------
-- Numbered relationships
-----------------------------------------------------------------------------------------

theorem legal_url (kind : RelationshipKind) : Legal kind.url := by
  cases kind <;> decide +kernel

/-- The relationships with some targets as their part tells them. -/
def linksTo (targets : List (RelationshipKind × String)) : List Link :=
  targets.zipIdx.map fun (target, i) => ⟨relationshipId (i + 1), target.1.url, target.2⟩

variable {targets : List (RelationshipKind × String)}

theorem links_relationshipsNode (name : String) (legal : ∀ target ∈ targets, Legal target.2)
    : (Part.ofRoot name (relationshipsNode (numberedRelationships targets))).links
      = linksTo targets := by
  obtain ⟨root, tags⟩ := filterMap_events_relationshipsNode targets
  have each : (targets.zipIdx.map fun entry =>
        (⟨"Relationship", readAttributes (relationshipAttributes entry)⟩ : Tag)).filter
          (·.name == "Relationship")
      = targets.zipIdx.map fun entry =>
          ⟨"Relationship", readAttributes (relationshipAttributes entry)⟩ := by
    rw [List.filter_eq_self]
    intro tag member
    obtain ⟨entry, -, rfl⟩ := List.mem_map.mp member
    rfl
  rw [Part.links, tags_ofRoot name (relationshipsNode_eachTag _), tags,
    List.filter_cons_of_neg (by simp), each, List.map_map, linksTo]
  refine List.map_congr_left fun entry member => ?_
  have target := legalPart_eq_self (legal entry.1 (List.fst_mem_of_mem_zipIdx member))
  have id := legalPart_eq_self (legal_relationshipId (entry.2 + 1))
  have type := legalPart_eq_self (legal_url entry.1.1)
  simp only [Function.comp_apply, attribute?_readAttributes]
  change Link.mk (legalPart _) (legalPart _) (legalPart _) = _
  rw [id, type, target]

theorem nodup_ids_linksTo (targets : List (RelationshipKind × String))
    : ((linksTo targets).map (·.id)).Nodup := by
  have numbers : (targets.zipIdx.map (·.2)).Nodup := by
    rw [List.zipIdx_map_snd]
    exact List.nodup_range'
  have ids := numbers.map fun m n (same : relationshipId (m + 1) = relationshipId (n + 1)) =>
    Nat.succ.inj (relationshipId_injective same)
  rw [List.map_map] at ids
  rw [linksTo, List.map_map]
  exact ids

/-- The id with a number leads to the target at its place. -/
theorem follow?_numbered {p : Package} {source name : String} {i : Nat} {kind : RelationshipKind}
    {target : String} (legal : ∀ target ∈ targets, Legal target.2)
    (found : p.part? (relationshipsName source)
      = some (.ofRoot name (relationshipsNode (numberedRelationships targets))))
    (place : targets[i]? = some (kind, target))
    : p.follow? source kind (relationshipId (i + 1)) = p.part? (resolve source target) := by
  have member : (⟨relationshipId (i + 1), kind.url, target⟩ : Link) ∈ linksTo targets :=
    List.mem_map.mpr ⟨((kind, target), i), List.mem_zipIdx_iff_getElem?.mpr place, rfl⟩
  have single := filter_eq_singleton (nodup_ids_linksTo targets) member
  dsimp only at single
  rw [follow?, found]
  dsimp only [Option.bind_eq_bind, Option.bind_some]
  rw [links_relationshipsNode name legal, single]
  exact if_pos rfl

end Spreadsheet.Package
