import TypedClient.Proofs.Document.Written
import TypedClient.Proofs.Json.Outline

/-!
What a text says of a schema, and the schemas that it says something of inside: the items of a list,
and the properties of an object, as long as no reference takes their place. Main statement: what was
read of a schema is what its text says of it, part by part.
-/

namespace TypedClient

open Json

/-! ### What is written -/

namespace Json.Outline

/-- The members of an object; none if it is no object. -/
def members : Outline → List (String × Outline)
  | .object ms => ms
  | _ => []

/-- The member of a schema that has this name, also if it is null. -/
def keyword? (o : Outline) (name : String) : Option Outline :=
  o.field? ["$ref", "type", "items", "properties", "required"] name

/-- The member of a schema that has this name, unless it is null. -/
def part? (o : Outline) (name : String) : Option Outline :=
  (o.keyword? name).bind nonNull?

/-- Whether a schema is of that type and not a reference. -/
def isOfType (o : Outline) (type : String) : Bool :=
  (o.part? "$ref").isNone && (o.part? "type").bind text? == some type

/-- The schema of the items of a list. -/
def items? (o : Outline) : Option Outline :=
  if o.isOfType "array" then o.part? "items" else none

/-- The properties of an object: each name where it first occurs, with the last schema under it. -/
def properties? (o : Outline) : Option (List (String × Outline)) :=
  if o.isOfType "object" then (o.part? "properties").map (Keyed.lastAtFirst ·.members) else none

theorem nodup_of_properties? {o : Outline} {written : List (String × Outline)}
    (h : o.properties? = some written) : (written.map (·.1)).Nodup := by
  obtain ⟨-, hPart⟩ := Option.ite_none_right_eq_some.mp h
  obtain ⟨part, -, rfl⟩ := Option.map_eq_some_iff.mp hPart
  rw [Keyed.lastAtFirst_keys]
  exact Keyed.nodup_eraseDups _

/-- The texts in the list of required names; none if it is no list. -/
def required (o : Outline) : List String :=
  ((o.keyword? "required").map texts).getD []

end Json.Outline

/-- A step from a schema to one inside it. -/
inductive Schema.Step where
  | items
  | property (name : String)

/-- What is written of the schema that a step leads to. -/
def Json.Outline.step? (o : Outline) : Schema.Step → Option Outline
  | .items => o.items?
  | .property name => o.properties?.bind (Keyed.get? · name)

/-- What is written of the schema that some steps lead to. -/
def Json.Outline.at? : List Schema.Step → Outline → Option Outline
  | [], o => some o
  | step :: path, o => (o.step? step).bind (at? path)

/-! ### What is read -/

/-- The schema was read where this is written. -/
def Schema.IsReadAs (o : Outline) (s : Schema) : Prop :=
  ∃ t : Tree, t.outline = o ∧ Schema.IsReadOf t s

namespace Schema

theorem keyword_of_readKeyword {room : Nat} {t : Tree} {k : TypeKeyword}
    (h : (readKeyword room t).result = .ok k) :
    k = (t.outline.text?.map TypeKeyword.named).getD .other := by
  unfold readKeyword at h
  split at h
  · next name hRead =>
      cases h
      rw [t.outline_of_readValue hRead]
      rfl
  · next v hText hRead =>
      cases h
      rw [t.outline_of_readValue hRead]
      cases v with
      | text name => exact (hText name rfl).elim
      | null | flag | number | list | object => rfl
  · exact absurd h (by simp)

theorem required_of_readRequired {room : Nat} {t : Tree} {names : List String}
    (h : (readRequired room t).result = .ok names) : names = t.outline.texts := by
  unfold readRequired at h
  split at h
  · next v hRead =>
      cases h
      rw [t.outline_of_readValue hRead, Value.texts_outline]
  · exact absurd h (by simp)

/-- Each part of a schema is read where it is written. -/
structure ReadByParts (o : Outline) (s : Schema) : Prop where
  reference : Option.Rel (fun o r => o = .text r) (o.part? "$ref") s.reference
  keyword : Option.Rel (fun o k => k = (o.text?.map TypeKeyword.named).getD .other)
    (o.part? "type") s.keyword
  items : Option.Rel IsReadAs (o.part? "items") s.items
  properties : Option.Rel
    (fun o ps => List.Forall₂ (fun x y => x.1 = y.1 ∧ y.2.IsReadAs x.2)
      (Keyed.lastAtFirst o.members) ps)
    (o.part? "properties") s.properties
  required : s.required = o.required

theorem part?_outline (t : Tree) (name : String) :
    t.outline.part? name = ((t.field? ["$ref", "type", "items", "properties", "required"]
      name).bind Tree.nonNull?).map Tree.outline := by
  rw [Outline.part?, Outline.keyword?, Tree.field?_outline, Option.bind_map, Option.map_bind]
  congr 1
  funext t
  exact t.nonNull?_outline

/-- What agrees with the parts of a tree agrees with what they say. -/
theorem rel_part? {α : Type} {P : Tree → α → Prop} {R : Outline → α → Prop} {t : Tree}
    {name : String} {slot? : Option (Option α)}
    (h : Option.Rel (fun value a? => Option.Rel P value.nonNull? a?)
      (t.field? ["$ref", "type", "items", "properties", "required"] name) slot?)
    (hImp : ∀ value a, P value a → R value.outline a) :
    Option.Rel R (t.outline.part? name) slot?.join := by
  have hPart := rel_bind h fun _ _ hRel => hRel
  change Option.Rel P _ slot?.join at hPart
  rw [part?_outline]
  generalize (t.field? _ name).bind Tree.nonNull? = value? at hPart ⊢
  generalize slot?.join = a? at hPart ⊢
  cases hPart with
  | none => exact Option.Rel.none
  | some hRel => exact Option.Rel.some (hImp _ _ hRel)

theorem members_outline (t : Tree) :
    t.outline.members = t.entries.map (Prod.map id Tree.outline) := by
  cases t with
  | object start members => exact members.outlines_eq_map
  | absent fault => rfl
  | list start items => rfl
  | word start value stop => rcases value with _ | _ | _ <;> rfl
  | number start value skipped stop => cases value <;> rfl
  | text start value skipped stop => cases value <;> rfl

/-- The schema of a property is read where there is room for it. -/
theorem isReadAs_of_readProperty {room : Nat} {t : Tree} {s : Schema}
    (h : (readProperty room t).result = .ok s) : s.IsReadAs t.outline := by
  cases room with
  | zero => exact absurd h (by simp [readProperty, refuse])
  | succ room => exact ⟨t, rfl, room, h⟩

theorem properties_of_readKeyed {room left : Nat} {t : Tree} {ps : List (String × Schema)}
    (h : (readKeyed (readProperty left) room t).result = .ok ps) :
    List.Forall₂ (fun x y => x.1 = y.1 ∧ y.2.IsReadAs x.2)
      (Keyed.lastAtFirst t.outline.members) ps := by
  rw [members_outline, Keyed.lastAtFirst_map, List.forall₂_map_left_iff]
  refine (forall₂_of_readKeyed h).imp ?_
  rintro x y ⟨hName, hRead⟩
  exact ⟨hName, isReadAs_of_readProperty hRead⟩

theorem required_of_rel {room : Nat} {t : Tree} {names? : Option (List String)}
    (h : Option.Rel (fun value names => (readRequired room value).result = .ok names)
      (t.field? ["$ref", "type", "items", "properties", "required"] "required") names?) :
    names?.getD [] = t.outline.required := by
  rw [Outline.required, Outline.keyword?, Tree.field?_outline]
  generalize t.field? _ "required" = value? at h ⊢
  cases h with
  | none => rfl
  | some hRead => exact required_of_readRequired hRead

/-- What was read of a schema is what is written of it, part by part. -/
theorem IsReadAs.byParts {o : Outline} {s : Schema} (h : s.IsReadAs o) : s.ReadByParts o := by
  obtain ⟨t, rfl, room, hRead⟩ := h
  cases room with
  | zero => exact absurd hRead (by simp [read, refuse])
  | succ room =>
      rw [read_succ] at hRead
      have hLaid := laid room (read room) (readProperty room)
      constructor
      case reference =>
        obtain ⟨p, hp, hRel⟩ := (hLaid.slot (List.mem_of_getElem? (i := 0) rfl)).of_readInside hRead
        cases hp
        exact rel_part? (rel_imp hRel fun _ _ => Tree.rel_of_readOptional)
          fun _ _ => Tree.outline_of_readText
      case keyword =>
        obtain ⟨p, hp, hRel⟩ := (hLaid.slot (List.mem_of_getElem? (i := 1) rfl)).of_readInside hRead
        cases hp
        exact rel_part? (rel_imp hRel fun _ _ => Tree.rel_of_readOptional)
          fun _ _ => keyword_of_readKeyword
      case items =>
        obtain ⟨p, hp, hRel⟩ := (hLaid.slot (List.mem_of_getElem? (i := 2) rfl)).of_readInside hRead
        cases hp
        exact rel_part? (rel_imp hRel fun _ _ => Tree.rel_of_readOptional)
          fun value _ hItems => ⟨value, rfl, room, hItems⟩
      case properties =>
        obtain ⟨p, hp, hRel⟩ := (hLaid.slot (List.mem_of_getElem? (i := 3) rfl)).of_readInside hRead
        cases hp
        exact rel_part? (rel_imp hRel fun _ _ => Tree.rel_of_readOptional)
          fun _ _ => properties_of_readKeyed
      case required =>
        obtain ⟨p, hp, hRel⟩ := (hLaid.slot (List.mem_of_getElem? (i := 4) rfl)).of_readInside hRead
        cases hp
        exact required_of_rel hRel

end Schema

end TypedClient
