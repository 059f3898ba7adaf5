import Mathlib.Data.List.Forall2
import Mathlib.Data.Option.Basic
import TypedClient.Client.Basic
import TypedClient.Proofs.Keyed

/-!
Schemas that differ only in what no type shows: what stands beside a reference, and required names
that no property has. Main statements: such schemas have the same type, and the same members in an
interface.
-/

namespace TypedClient

open Script

mutual

/-- Two schemas with the same reference, whatever stands beside it, or two without one whose parts
are alike and require the same of their properties. -/
inductive Schema.Alike : Schema → Schema → Prop
  | reference {r : String} {keyword keyword' : Option TypeKeyword} {items items' : Option Schema}
      {properties properties' : Option (List (String × Schema))}
      {required required' : List String} :
      Schema.Alike ⟨some r, keyword, items, properties, required⟩
        ⟨some r, keyword', items', properties', required'⟩
  | bare {keyword : Option TypeKeyword} {items items' : Option Schema}
      {required required' : List String} (hItems : ItemsAlike items items') :
      Schema.Alike ⟨none, keyword, items, none, required⟩ ⟨none, keyword, items', none, required'⟩
  | object {keyword : Option TypeKeyword} {items items' : Option Schema}
      {properties properties' : List (String × Schema)} {required required' : List String}
      (hItems : ItemsAlike items items') (hProperties : PropertiesAlike properties properties')
      (hRequired : ∀ p ∈ properties, required.contains p.1 = required'.contains p.1) :
      Schema.Alike ⟨none, keyword, items, some properties, required⟩
        ⟨none, keyword, items', some properties', required'⟩

/-- The schemas of items are alike, if there are any. -/
inductive ItemsAlike : Option Schema → Option Schema → Prop
  | none : ItemsAlike none none
  | some {s s' : Schema} (hAlike : Schema.Alike s s') : ItemsAlike (some s) (some s')

/-- The same properties in the same order, with alike schemas. -/
inductive PropertiesAlike : List (String × Schema) → List (String × Schema) → Prop
  | nil : PropertiesAlike [] []
  | cons {name : String} {s s' : Schema} {rest rest' : List (String × Schema)}
      (hAlike : Schema.Alike s s') (hRest : PropertiesAlike rest rest') :
      PropertiesAlike ((name, s) :: rest) ((name, s') :: rest')

end

theorem itemsAlike_iff {items items' : Option Schema} :
    ItemsAlike items items' ↔ Option.Rel Schema.Alike items items' := by
  constructor
  · rintro (_ | hAlike)
    · exact Option.Rel.none
    · exact Option.Rel.some hAlike
  · rintro (hAlike | _)
    · exact ItemsAlike.some hAlike
    · exact ItemsAlike.none

theorem propertiesAlike_iff {properties properties' : List (String × Schema)} :
    PropertiesAlike properties properties' ↔
      List.Forall₂ (fun x y => x.1 = y.1 ∧ Schema.Alike x.2 y.2) properties properties' := by
  constructor
  · intro h
    induction properties generalizing properties' with
    | nil =>
        cases h
        exact List.Forall₂.nil
    | cons p rest ih =>
        cases h with
        | cons hAlike hRest => exact List.Forall₂.cons ⟨rfl, hAlike⟩ (ih hRest)
  · intro h
    induction h with
    | nil => exact PropertiesAlike.nil
    | @cons x y _ _ hHead _ ih =>
        rcases x with ⟨name, s⟩
        rcases y with ⟨_, s'⟩
        obtain ⟨rfl, hAlike⟩ := hHead
        exact PropertiesAlike.cons hAlike ih

mutual

/-- Every schema is alike to itself. -/
theorem Schema.Alike.refl : (s : Schema) → s.Alike s
  | ⟨some _, _, _, _, _⟩ => .reference
  | ⟨none, _, items, none, _⟩ => .bare (ItemsAlike.refl items)
  | ⟨none, _, items, some properties, _⟩ =>
    .object (ItemsAlike.refl items) (PropertiesAlike.refl properties) fun _ _ => rfl

theorem ItemsAlike.refl : (items : Option Schema) → ItemsAlike items items
  | none => .none
  | some s => .some (Schema.Alike.refl s)

theorem PropertiesAlike.refl : (properties : List (String × Schema)) →
    PropertiesAlike properties properties
  | [] => .nil
  | (_, s) :: rest => .cons (Schema.Alike.refl s) (PropertiesAlike.refl rest)

end

/-! ### Types -/

mutual

/-- Alike schemas have the same type. The induction follows the first of them. -/
theorem Schema.typeExpr_of_alike : (s s' : Schema) → s.Alike s' → s.typeExpr = s'.typeExpr
  | _, _, .reference => by rw [Schema.typeExpr, Schema.typeExpr]
  | ⟨none, keyword, _, none, _⟩, _, .bare hItems => by
      have hItem := itemType_of_alike _ _ hItems
      cases keyword <;> simp only [Schema.typeExpr, hItem]
  | ⟨none, keyword, _, some _, _⟩, _, .object hItems hProperties hRequired => by
      have hItem := itemType_of_alike _ _ hItems
      have hFields := fieldTypes_of_alike _ _ hProperties hRequired
      cases keyword <;> simp only [Schema.typeExpr, hItem, hFields]

theorem itemType_of_alike : (items items' : Option Schema) → ItemsAlike items items' →
    itemType items = itemType items'
  | none, _, .none => rfl
  | some s, _, .some hAlike => Schema.typeExpr_of_alike s _ hAlike

theorem fieldTypes_of_alike {required required' : List String} :
    (properties properties' : List (String × Schema)) → PropertiesAlike properties properties' →
    (∀ p ∈ properties, required.contains p.1 = required'.contains p.1) →
    fieldTypes required properties = fieldTypes required' properties'
  | [], _, .nil, _ => rfl
  | (name, s) :: rest, _, .cons hAlike hRest, hRequired => by
      have hType := Schema.typeExpr_of_alike s _ hAlike
      have hName := hRequired _ (List.mem_cons_self ..)
      have hFields := fieldTypes_of_alike rest _ hRest fun p hp =>
        hRequired p (List.mem_cons_of_mem _ hp)
      rw [fieldTypes, fieldTypes, hType, hFields, hName]

end

namespace Schema

/-- The members of an interface in terms of the types of the parts. -/
theorem members_eq_match (s : Schema) :
    s.members = if s.reference.isSome then [s.anyKey]
      else match s.kind, s.properties.map (fieldTypes s.required), s.items.map typeExpr with
      | .object, some fields, _ => fields.map fun f => .field f.1 f.2
      | .list, _, some item => [.index "index" .number item]
      | _, _, _ => if s.keyword.isSome then [s.anyKey] else [] := by
  rw [members]
  congr 1
  generalize s.kind = k
  cases k <;> cases s.properties <;> cases s.items <;> rfl

namespace Alike

variable {s s' : Schema}

theorem typeExpr_eq (h : s.Alike s') : s.typeExpr = s'.typeExpr :=
  typeExpr_of_alike s s' h

/-- Alike schemas have the same members in an interface. -/
theorem members_eq (h : s.Alike s') : s.members = s'.members := by
  have hAny : s.anyKey = s'.anyKey := by rw [anyKey, anyKey, h.typeExpr_eq]
  have hItem : ∀ {items items'}, ItemsAlike items items' →
      items.map typeExpr = items'.map typeExpr := by
    rintro _ _ (_ | hAlike)
    · rfl
    · rw [Option.map_some, Option.map_some, hAlike.typeExpr_eq]
  rw [members_eq_match, members_eq_match, hAny]
  cases h with
  | reference => rfl
  | bare hItems =>
      rw [hItem hItems]
      rfl
  | object hItems hProperties hRequired =>
      rw [hItem hItems, Option.map_some, Option.map_some,
        fieldTypes_of_alike _ _ hProperties hRequired]
      rfl

end Alike

end Schema

end TypedClient
