import TypedClient.Client.Basic
import TypedClient.Proofs.Keyed
import TypedClient.Proofs.Script.TypeNames
import TypedClient.Schema.TypeExpr

/-!
The references in a schema, also those beside or below a reference that decides alone. Types and
members mention no name that is not the name of one of them.
-/

namespace TypedClient

open Script

mutual

/-- All references in a schema, at any depth. -/
def Schema.references : Schema → List String
  | ⟨reference, _, items, properties, _⟩ =>
    reference.toList ++ itemReferences items ++ optionalReferences properties

/-- All references in the schema of items. -/
def itemReferences : Option Schema → List String
  | none => []
  | some s => s.references

/-- All references in the properties of a schema, if it has any. -/
def optionalReferences : Option (List (String × Schema)) → List String
  | none => []
  | some properties => propertyReferences properties

/-- All references in properties. -/
def propertyReferences : List (String × Schema) → List String
  | [] => []
  | (_, s) :: rest => s.references ++ propertyReferences rest

end

mutual

/-- A type mentions only names of references. The induction follows the schema; what a reference
hides is not looked at. -/
theorem Schema.names_typeExpr :
    (s : Schema) → s.typeExpr.names ⊆ s.references.map referenceName
  | ⟨some reference, _, _, _, _⟩ => by
      intro name hName
      rw [Schema.typeExpr, TypeExpr.names] at hName
      rw [Schema.references, List.mem_map]
      exact ⟨reference, by simp, (List.mem_singleton.mp hName).symm⟩
  | ⟨none, none, _, _, _⟩ => by
      intro name hName
      rw [Schema.typeExpr, TypeExpr.names] at hName
      exact absurd hName List.not_mem_nil
  | ⟨none, some keyword, items, none, _⟩ => by
      intro name hName
      rw [Schema.references, List.map_append, List.map_append]
      rw [Schema.typeExpr] at hName
      cases hKind : keyword.kind with
      | list =>
          rw [hKind] at hName
          exact List.mem_append_left _ (List.mem_append_right _ (names_itemType items hName))
      | text | number | flag | object | unknown =>
          rw [hKind] at hName
          exact absurd hName List.not_mem_nil
  | ⟨none, some keyword, items, some properties, required⟩ => by
      intro name hName
      rw [Schema.references, List.map_append, List.map_append]
      rw [Schema.typeExpr] at hName
      cases hKind : keyword.kind with
      | list =>
          rw [hKind] at hName
          exact List.mem_append_left _ (List.mem_append_right _ (names_itemType items hName))
      | object =>
          rw [hKind] at hName
          exact List.mem_append_right _ (names_fieldTypes required properties hName)
      | text | number | flag | unknown =>
          rw [hKind] at hName
          exact absurd hName List.not_mem_nil

theorem names_itemType :
    (items : Option Schema) → (itemType items).names ⊆ (itemReferences items).map referenceName
  | none => List.nil_subset _
  | some s => s.names_typeExpr

theorem names_fieldTypes (required : List String) :
    (properties : List (String × Schema)) →
      fieldNames (fieldTypes required properties) ⊆
        (propertyReferences properties).map referenceName
  | [] => List.nil_subset _
  | (name, s) :: rest => by
      rw [fieldTypes, fieldNames, propertyReferences, List.map_append]
      exact List.append_subset.mpr
        ⟨List.Subset.trans s.names_typeExpr (List.subset_append_left _ _),
          List.Subset.trans (names_fieldTypes required rest) (List.subset_append_right _ _)⟩

end

theorem propertyReferences_of_mem {properties : List (String × Schema)} {name : String}
    {s : Schema} (h : (name, s) ∈ properties) :
    s.references ⊆ propertyReferences properties := by
  induction properties with
  | nil => exact absurd h List.not_mem_nil
  | cons p properties ih =>
      rcases p with ⟨other, t⟩
      rw [propertyReferences]
      rcases List.mem_cons.mp h with hEq | hRest
      · cases hEq
        exact List.subset_append_left _ _
      · exact List.Subset.trans (ih hRest) (List.subset_append_right _ _)

/-! ### Members of an interface -/

theorem fields_names (fields : List (Label × TypeExpr)) :
    (fields.map fun f => Member.field f.1 f.2).flatMap (·.type.names) = fieldNames fields := by
  induction fields with
  | nil => rfl
  | cons f fields ih =>
      rw [List.map_cons, List.flatMap_cons, ih]
      rfl

/-- The interface of a schema mentions only names of references. -/
theorem Schema.names_members (s : Schema) :
    (DeclarationBody.interface s.members).names ⊆ s.references.map referenceName := by
  have hAny : [s.anyKey].flatMap (·.type.names) ⊆ s.references.map referenceName := by
    intro name hName
    have hType : name ∈ s.typeExpr.names := by simpa [Schema.anyKey, Member.type] using hName
    exact s.names_typeExpr hType
  rw [DeclarationBody.names, Schema.members]
  split
  · exact hAny
  · rcases s with ⟨reference, keyword, items, properties, required⟩
    split
    · next fields _ hProperties =>
        rw [fields_names]
        cases hProperties
        rw [Schema.references, List.map_append]
        exact List.Subset.trans (names_fieldTypes required _) (List.subset_append_right _ _)
    · next item _ hItem =>
        cases hItem
        have hItemNames := item.names_typeExpr
        rw [Schema.references, List.map_append, List.map_append]
        intro name hName
        have hType : name ∈ item.typeExpr.names := by simpa [Member.type] using hName
        exact List.mem_append_left _ (List.mem_append_right _ (hItemNames hType))
    · split
      · exact hAny
      · exact List.nil_subset _

/-- The schema of a property refers to nothing that the whole does not refer to. -/
theorem references_of_property? {s property : Schema} {name : String}
    (h : s.property? name = some property) : property.references ⊆ s.references := by
  rcases s with ⟨reference, keyword, items, properties, required⟩
  cases properties with
  | none => exact absurd h (by simp [Schema.property?])
  | some properties =>
      have hMem : (name, property) ∈ properties := Keyed.mem_of_get? h
      rw [Schema.references]
      exact List.Subset.trans (propertyReferences_of_mem hMem) (List.subset_append_right _ _)

/-! ### A whole description -/

/-- All references in what may be sent or answered. -/
def Body.references (b : Body) : List String :=
  b.content.flatMap fun entry => itemReferences entry.2.schema

/-- All references in an operation, whatever the media type or the status. -/
def Operation.references (op : Operation) : List String :=
  op.requestBody.toList.flatMap Body.references
    ++ op.responses.flatMap fun entry => entry.2.references

/-- All references in the schemas of a description. -/
def Document.references (d : Document) : List String :=
  d.routes.flatMap (·.operation.references) ++ propertyReferences (d.schemas.getD [])

/-- The names of the schemas that operations share. -/
def Document.schemaNames (d : Document) : List String :=
  (d.schemas.getD []).map (·.1)

theorem Body.references_of_jsonSchema? {b : Body} {s : Schema} (h : b.jsonSchema? = some s) :
    s.references ⊆ b.references := by
  obtain ⟨media, hMedia, hSchema⟩ := Option.bind_eq_some_iff.mp h
  intro reference hReference
  rw [references, List.mem_flatMap]
  refine ⟨_, Keyed.mem_of_get? hMedia, ?_⟩
  rw [hSchema]
  exact hReference

theorem Operation.references_of_requestSchema? {op : Operation} {s : Schema}
    (h : op.requestSchema? = some s) : s.references ⊆ op.references := by
  obtain ⟨b, hBody, hSchema⟩ := Option.bind_eq_some_iff.mp h
  intro reference hReference
  apply List.mem_append_left
  rw [hBody]
  simpa using Body.references_of_jsonSchema? hSchema hReference

theorem Operation.references_of_responseSchema? {op : Operation} {s : Schema}
    (h : op.responseSchema? = some s) : s.references ⊆ op.references := by
  obtain ⟨b, hBody, hSchema⟩ := Option.bind_eq_some_iff.mp h
  have hEntry : ∃ status, (status, b) ∈ op.responses := by
    rcases Option.or_eq_some_iff.mp hBody with hFirst | ⟨-, hSecond⟩
    · exact ⟨_, Keyed.mem_of_get? hFirst⟩
    · exact ⟨_, Keyed.mem_of_get? hSecond⟩
  obtain ⟨status, hMem⟩ := hEntry
  intro reference hReference
  apply List.mem_append_right
  rw [List.mem_flatMap]
  exact ⟨_, hMem, Body.references_of_jsonSchema? hSchema hReference⟩

/-- The data inside an envelope refers to nothing that the envelope does not refer to. -/
theorem references_of_envelopeData? {s data : Schema} (h : s.envelopeData? = some data) :
    data.references ⊆ s.references := by
  unfold Schema.envelopeData? at h
  split at h
  · exact references_of_property? h
  · exact absurd h (by simp)

end TypedClient
