import Mathlib.Data.List.Basic
import TypedClient.Document.Basic
import TypedClient.Proofs.Json.Outline

/-!
What counts in the text of a description: the members that its records name, the methods of a path,
the answer on success, JSON among the media types, and required names that a property has. All else
can be left out of an outline.
-/

namespace TypedClient

open Json

/-! ### Leaving out what does not count -/

/-- The names of the properties, in the outline of a schema. -/
def Json.Outline.propertyNames (o : Outline) : List String :=
  match o.field? ["$ref", "type", "items", "properties", "required"] "properties" with
  | some properties => properties.names
  | none => []

/-- The outline of a list without what is not one of some texts. -/
def Json.Outline.keepTexts (own : List String) : Outline → Outline
  | .list items => .list (items.filter fun o => o.text?.any own.contains)
  | o => o

theorem Json.Outline.texts_keepTexts (own : List String) (o : Outline) :
    (o.keepTexts own).texts = o.texts.filter own.contains := by
  cases o with
  | list items =>
      change (items.filter _).filterMap Outline.text? = (items.filterMap Outline.text?).filter _
      rw [List.filterMap_filter, List.filter_filterMap]
      apply List.filterMap_congr
      intro o _
      cases o.text? with
      | none => rfl
      | some s => simp [Option.filter]
  | unreadable | null | flag | number | text | object => rfl

/-- What a part of a description is read as. -/
inductive Part where
  /-- All of it counts. -/
  | whole
  | document
  | info
  | paths
  | pathItem
  | operation
  | responses
  | body
  | content
  | mediaType
  | components
  | schemas
  | schema
  /-- The required names of a schema that has some properties. -/
  | required (own : List String)

namespace Part

/-- The members of a record in order; `own` are the names of the properties of a schema. -/
def fields (own : List String) : Part → List (String × Part)
  | document => [("info", info), ("paths", paths), ("components", components)]
  | info => [("title", whole), ("version", whole)]
  | operation => [("summary", whole), ("requestBody", body), ("responses", responses)]
  | body => [("content", content)]
  | mediaType => [("schema", schema)]
  | components => [("schemas", schemas)]
  | schema => [("$ref", whole), ("type", whole), ("items", schema), ("properties", schemas),
      ("required", required own)]
  | _ => []

/-- What a member of an object is read as, if it counts. -/
def member? (own : List String) (p : Part) (name : String) : Option Part :=
  match p with
  | paths => some pathItem
  | pathItem => (Method.ofKey? name).map fun _ => operation
  | responses => some body
  | content => if name = jsonMediaType then some mediaType else none
  | schemas => some schema
  | p => Keyed.get? (p.fields own) name

/-- The last member of a name, if there is one. -/
def only (name : String) (ms : List (String × Outline)) : Option (String × Outline) :=
  (Keyed.last? ms name).map (name, ·)

/-- Of the answers only that on success counts. -/
def select (p : Part) (ms : List (String × Outline)) : List (String × Outline) :=
  match p with
  | responses => ((only "200" ms).or (only "201" ms)).toList
  | _ => ms

mutual

/-- What counts in a part. -/
def keep : Part → Outline → Outline
  | whole, o => o
  | required own, o => o.keepTexts own
  | p, .object ms => .object (p.select (p.keepMembers (Outline.object ms).propertyNames ms))
  | p, .list os => .list (keepItems (p.fields (Outline.list os).propertyNames) os)
  | _, o => o

/-- The members of an object that count. -/
def keepMembers (p : Part) (own : List String) :
    List (String × Outline) → List (String × Outline)
  | [] => []
  | (name, o) :: rest =>
    match p.member? own name with
    | some q => (name, q.keep o) :: p.keepMembers own rest
    | none => p.keepMembers own rest

/-- What counts in the values of a record that is written as a list. -/
def keepItems : List (String × Part) → List Outline → List Outline
  | (_, q) :: fields, o :: rest => q.keep o :: keepItems fields rest
  | _, os => os

end

/-! ### What is left -/

@[simp] theorem keep_whole (o : Outline) : whole.keep o = o := by
  cases o <;> rfl

@[simp] theorem keep_required (own : List String) (o : Outline) :
    (required own).keep o = o.keepTexts own := by
  cases o <;> rfl

theorem nonNull?_keep (p : Part) (o : Outline) :
    (p.keep o).nonNull? = o.nonNull?.map p.keep := by
  cases o with
  | list os => cases p <;> rfl
  | object ms => cases p <;> rfl
  | unreadable | null | flag | number | text => cases p <;> rfl

theorem keepMembers_eq_filterMap (p : Part) (own : List String) (ms : List (String × Outline)) :
    p.keepMembers own ms =
      ms.filterMap fun e => (p.member? own e.1).map fun q => (e.1, q.keep e.2) := by
  induction ms with
  | nil => rfl
  | cons e rest ih =>
      rcases e with ⟨name, o⟩
      rw [keepMembers, List.filterMap_cons]
      cases p.member? own name with
      | none => simp [ih]
      | some q => simp [ih]

theorem keepMembers_eq_map {p q : Part} {own : List String}
    (h : ∀ name, p.member? own name = some q) (ms : List (String × Outline)) :
    p.keepMembers own ms = ms.map (Prod.map id q.keep) := by
  rw [keepMembers_eq_filterMap, ← List.filterMap_eq_map]
  apply List.filterMap_congr
  intro e _
  rw [h]
  rfl

theorem get?_keepMembers {p q : Part} {own : List String} {name : String}
    (h : p.member? own name = some q) (ms : List (String × Outline)) :
    Keyed.get? (p.keepMembers own ms) name = (Keyed.get? ms name).map q.keep := by
  induction ms with
  | nil => rfl
  | cons e rest ih =>
      rcases e with ⟨other, o⟩
      rw [keepMembers, Keyed.get?]
      by_cases hName : other = name
      · subst hName
        rw [h, if_pos rfl]
        simp [Keyed.get?]
      · rw [if_neg hName, ← ih]
        cases p.member? own other with
        | none => rfl
        | some r => simp [Keyed.get?, hName]

theorem last?_keepMembers {p q : Part} {own : List String} {name : String}
    (h : p.member? own name = some q) (ms : List (String × Outline)) :
    Keyed.last? (p.keepMembers own ms) name = (Keyed.last? ms name).map q.keep := by
  induction ms using List.reverseRecOn with
  | nil => rfl
  | append_singleton ms e ih =>
      rw [keepMembers_eq_filterMap, List.filterMap_append, ← keepMembers_eq_filterMap,
        Keyed.last?_append_single]
      by_cases hName : e.1 = name
      · simp [hName, h, Keyed.last?_append_single]
      · rw [if_neg hName, ← ih]
        cases hMember : p.member? own e.1 with
        | none => simp [hMember]
        | some r => simp [hMember, Keyed.last?_append_single, hName]

theorem get?_keepItems {fields : List (String × Part)} {q : Part} {name : String}
    (h : Keyed.get? fields name = some q) (os : List Outline) :
    Keyed.get? ((fields.map (·.1)).zip (keepItems fields os)) name =
      (Keyed.get? ((fields.map (·.1)).zip os) name).map q.keep := by
  induction fields generalizing os with
  | nil => exact absurd h (by simp [Keyed.get?])
  | cons f fields ih =>
      rcases f with ⟨other, r⟩
      cases os with
      | nil => rfl
      | cons o os =>
          rw [keepItems, List.map_cons, List.zip_cons_cons, List.zip_cons_cons, Keyed.get?,
            Keyed.get?]
          rw [Keyed.get?] at h
          by_cases hName : other = name
          · rw [if_pos hName] at h ⊢
            cases h
            rw [if_pos hName]
            rfl
          · rw [if_neg hName] at h ⊢
            rw [if_neg hName]
            exact ih h os

theorem member?_content (own : List String) :
    content.member? own jsonMediaType = some mediaType := by
  rw [member?, if_pos rfl]

/-- The selected answer is the last of status 200, or else the last of 201. -/
theorem last?_of_select {ms ms' : List (String × Outline)}
    (h : responses.select ms = responses.select ms') :
    (Keyed.last? ms "200").or (Keyed.last? ms "201") =
      (Keyed.last? ms' "200").or (Keyed.last? ms' "201") := by
  have hSelected : ∀ ms, (responses.select ms).head?.map (·.2) =
      (Keyed.last? ms "200").or (Keyed.last? ms "201") := by
    intro ms
    rw [select, only, only]
    cases Keyed.last? ms "200" with
    | none => cases Keyed.last? ms "201" <;> rfl
    | some o => rfl
  rw [← hSelected, h, hSelected]

/-- Records are those parts that have fields. -/
theorem member?_of_fields {p q : Part} {own : List String} {name : String}
    (h : Keyed.get? (p.fields own) name = some q) : p.member? own name = some q := by
  cases p with
  | document | info | operation | body | mediaType | components | schema => exact h
  | whole | paths | pathItem | responses | content | schemas | required =>
      exact absurd h (by simp [fields, Keyed.get?])

/-- Of a member of a record counts what counts in what the member is read as. -/
theorem field?_keep {p q : Part} {o : Outline} {name : String}
    (h : Keyed.get? (p.fields o.propertyNames) name = some q) :
    (p.keep o).field? ((p.fields o.propertyNames).map (·.1)) name =
      (o.field? ((p.fields o.propertyNames).map (·.1)) name).map q.keep := by
  have hMember := member?_of_fields h
  cases o with
  | object ms =>
      cases p with
      | document | info | operation | body | mediaType | components | schema =>
          exact get?_keepMembers hMember ms
      | whole | paths | pathItem | responses | content | schemas | required =>
          exact absurd h (by simp [fields, Keyed.get?])
  | list os =>
      cases p with
      | document | info | operation | body | mediaType | components | schema =>
          exact get?_keepItems h os
      | whole | paths | pathItem | responses | content | schemas | required =>
          exact absurd h (by simp [fields, Keyed.get?])
  | unreadable | null | flag | number | text => cases p <;> rfl

theorem keep_paths (ms : List (String × Outline)) :
    paths.keep (.object ms) = .object (ms.map (Prod.map id pathItem.keep)) :=
  congrArg Outline.object (keepMembers_eq_map (p := paths) (fun _ => rfl) ms)

theorem keep_schemas (ms : List (String × Outline)) :
    schemas.keep (.object ms) = .object (ms.map (Prod.map id schema.keep)) :=
  congrArg Outline.object (keepMembers_eq_map (p := schemas) (fun _ => rfl) ms)

/-- All properties of a schema count. -/
theorem propertyNames_keep (o : Outline) : (schema.keep o).propertyNames = o.propertyNames := by
  have hField : (schema.keep o).field? ["$ref", "type", "items", "properties", "required"]
      "properties" = (o.field? ["$ref", "type", "items", "properties", "required"]
        "properties").map schemas.keep :=
    field?_keep (p := schema) rfl
  have hNames : ∀ o, (schemas.keep o).names = o.names := by
    intro o
    cases o with
    | object ms =>
        rw [keep_schemas, Outline.names, Outline.names, List.map_map]
        rfl
    | unreadable | null | flag | number | text | list => rfl
  rw [Outline.propertyNames, Outline.propertyNames, hField]
  cases o.field? ["$ref", "type", "items", "properties", "required"] "properties" with
  | none => rfl
  | some properties => exact hNames properties

end Part

/-- What counts in the text of a description. -/
def Document.essence (text : String) : Outline :=
  Part.document.keep (Outline.ofString text)

end TypedClient
