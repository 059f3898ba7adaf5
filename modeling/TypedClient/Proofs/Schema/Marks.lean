import TypedClient.Proofs.Json.Denoted
import TypedClient.Proofs.Schema.Written
import TypedClient.Proofs.Text.Pieces
import TypedClient.Schema.TypeExpr

/-!
Which properties are marked as optional. A type follows its schema step by step, so that what is
written inside a type is the type of the schema inside. Main statement: at every depth, an object
marks its properties by its own list of required names and by nothing else, and the lines of an
interface are the members of the type within another one.
-/

namespace TypedClient

open Json Script

/-! ### Steps into a type -/

namespace Script

theorem renderFields_eq_map (fields : List (Label × TypeExpr)) :
    renderFields fields = fields.map fun f => f.1.render ++ ": " ++ f.2.render := by
  induction fields with
  | nil => rfl
  | cons f fields ih =>
      rw [renderFields, ih]
      rfl

namespace TypeExpr

variable {t u : TypeExpr}

/-- The type that a step leads to. -/
def step? : TypeExpr → Schema.Step → Option TypeExpr
  | .list item, .items => some item
  | .record fields, .property name => Keyed.get? (fields.map fun f => (f.1.name, f.2)) name
  | _, _ => none

/-- The type that some steps lead to. -/
def at? : List Schema.Step → TypeExpr → Option TypeExpr
  | [], t => some t
  | step :: path, t => (t.step? step).bind (at? path)

/-- What a step leads to is written inside. -/
theorem standsIn_of_step? {step : Schema.Step} (h : t.step? step = some u) :
    Text.StandsIn u.render t.render := by
  cases step with
  | items =>
      cases t with
      | list item =>
          cases h
          rw [render]
          exact (Text.StandsIn.refl _).before "[]"
      | primitive | record | named => exact absurd h (by simp [step?])
  | property name =>
      cases t with
      | record fields =>
          obtain ⟨⟨label, type⟩, hMem, hEntry⟩ := List.mem_map.mp (Keyed.mem_of_get? h)
          cases hEntry
          have hText : label.render ++ ": " ++ type.render ∈ renderFields fields := by
            rw [renderFields_eq_map]
            exact List.mem_map.mpr ⟨_, hMem, rfl⟩
          have hField := (Text.StandsIn.refl type.render).behind (label.render ++ ": ")
          rw [render]
          exact ((hField.trans (Text.standsIn_joined ", " hText)).behind "\x7b ").before " \x7d"
      | primitive | list | named => exact absurd h (by simp [step?])

theorem standsIn_of_at? {path : List Schema.Step} (h : t.at? path = some u) :
    Text.StandsIn u.render t.render := by
  induction path generalizing t with
  | nil =>
      cases h
      exact .refl _
  | cons step path ih =>
      obtain ⟨v, hStep, hRest⟩ := Option.bind_eq_some_iff.mp h
      exact (ih hRest).trans (standsIn_of_step? hStep)

end TypeExpr

end Script

/-! ### Types of written schemas -/

namespace Schema

theorem fieldTypes_eq_map (required : List String) (ps : List (String × Schema)) :
    fieldTypes required ps = ps.map fun p => (⟨p.1, !required.contains p.1⟩, p.2.typeExpr) := by
  induction ps with
  | nil => rfl
  | cons p ps ih =>
      rw [fieldTypes, ih]
      rfl

theorem typeExpr_of_properties {items : Option Schema} {ps : List (String × Schema)}
    {required : List String} :
    typeExpr ⟨none, some (.named "object"), items, some ps, required⟩ =
      .record (ps.map fun p => (⟨p.1, !required.contains p.1⟩, p.2.typeExpr)) := by
  rw [← fieldTypes_eq_map]
  simp [typeExpr, TypeKeyword.kind]

namespace ReadByParts

variable {o : Outline} {s : Schema} {type : String}

theorem reference_eq_none (h : s.ReadByParts o) (hType : o.isOfType type = true) :
    s.reference = none := by
  have hNone := (Bool.and_eq_true_iff.mp hType).1
  rw [← Option.isNone_iff_eq_none, ← Option.not_isSome, rel_isSome h.reference, Option.not_isSome]
  exact hNone

theorem keyword_eq (h : s.ReadByParts o) (hType : o.isOfType type = true) :
    s.keyword = some (.named type) := by
  have hText := eq_of_beq (Bool.and_eq_true_iff.mp hType).2
  obtain ⟨written, hWritten, hName⟩ := Option.bind_eq_some_iff.mp hText
  have hKeyword := h.keyword
  rw [hWritten] at hKeyword
  generalize s.keyword = k? at hKeyword ⊢
  cases hKeyword with
  | some hRead => rw [hRead, hName, Option.map_some, Option.getD_some]

/-- Where the items of a list are written, the type is that of a list of what they are. -/
theorem typeExpr_of_items {item : Outline} (h : s.ReadByParts o) (hItem : o.items? = some item) :
    ∃ inner : Schema, inner.IsReadAs item ∧ s.typeExpr = .list inner.typeExpr := by
  obtain ⟨hType, hPart⟩ := Option.ite_none_right_eq_some.mp hItem
  have hReference := h.reference_eq_none hType
  have hKeyword := h.keyword_eq hType
  have hItems := h.items
  rw [hPart] at hItems
  rcases s with ⟨reference, keyword, items, properties, required⟩
  cases hReference
  cases hKeyword
  cases hItems with
  | @some _ inner hInner =>
      exact ⟨inner, hInner, by simp [typeExpr, TypeKeyword.kind, itemType]⟩

/-- Where the properties of an object are written, these are read, with the names that it requires
itself. -/
theorem exists_properties {written : List (String × Outline)} (h : s.ReadByParts o)
    (hWritten : o.properties? = some written) :
    ∃ items ps, s = ⟨none, some (.named "object"), items, some ps, o.required⟩ ∧
      List.Forall₂ (fun x y => x.1 = y.1 ∧ y.2.IsReadAs x.2) written ps := by
  obtain ⟨hType, hPart⟩ := Option.ite_none_right_eq_some.mp hWritten
  obtain ⟨part, hPart, hLast⟩ := Option.map_eq_some_iff.mp hPart
  have hReference := h.reference_eq_none hType
  have hKeyword := h.keyword_eq hType
  have hRequired := h.required
  have hProperties := h.properties
  rw [hPart] at hProperties
  rcases s with ⟨reference, keyword, items, properties, required⟩
  cases hReference
  cases hKeyword
  cases hRequired
  cases hProperties with
  | @some _ ps hAll => exact ⟨items, ps, rfl, hLast ▸ hAll⟩

end ReadByParts

/-- The type of a schema goes along with each step into what is written. -/
theorem IsReadAs.step {o o' : Outline} {s : Schema} {step : Step} (h : s.IsReadAs o)
    (hStep : o.step? step = some o') :
    ∃ inner : Schema, inner.IsReadAs o' ∧ s.typeExpr.step? step = some inner.typeExpr := by
  cases step with
  | items =>
      obtain ⟨inner, hInner, hType⟩ := h.byParts.typeExpr_of_items hStep
      exact ⟨inner, hInner, by rw [hType]; rfl⟩
  | property name =>
      obtain ⟨written, hWritten, hGet⟩ := Option.bind_eq_some_iff.mp hStep
      obtain ⟨items, ps, rfl, hAll⟩ := h.byParts.exists_properties hWritten
      have hRel := Keyed.rel_get? (R := fun o s => IsReadAs o s) hAll name
      rw [hGet] at hRel
      generalize hInner : Keyed.get? ps name = inner? at hRel
      cases hRel with
      | @some _ inner hRead =>
          refine ⟨inner, hRead, ?_⟩
          rw [typeExpr_of_properties, TypeExpr.step?, List.map_map]
          change Keyed.get? (ps.map (Prod.map id typeExpr)) name = _
          rw [Keyed.get?_map, hInner, Option.map_some]

theorem IsReadAs.at {o o' : Outline} {s : Schema} {path : List Step} (h : s.IsReadAs o)
    (hAt : o.at? path = some o') :
    ∃ inner : Schema, inner.IsReadAs o' ∧ s.typeExpr.at? path = some inner.typeExpr := by
  induction path generalizing o s with
  | nil =>
      cases hAt
      exact ⟨s, h, rfl⟩
  | cons step path ih =>
      obtain ⟨next, hStep, hRest⟩ := Option.bind_eq_some_iff.mp hAt
      obtain ⟨inner, hInner, hType⟩ := h.step hStep
      obtain ⟨last, hLast, hEnd⟩ := ih hInner hRest
      exact ⟨last, hLast, by rw [TypeExpr.at?, hType]; exact hEnd⟩

/-! ### Marks -/

/-- How an object is rendered that has these properties in this order and requires these names. Each
property is a member, which is marked unless its name is required; the type within another one and
the interface consist of the same members. -/
structure RendersAs (s : Schema) (written : List (String × Outline)) (required : List String)
    (texts : List String) : Prop where
  members : List.Forall₂
    (fun p text => ∃ inner : Schema, inner.IsReadAs p.2 ∧
      s.typeExpr.step? (.property p.1) = some inner.typeExpr ∧
      text = memberKey p.1 ++ (if p.1 ∈ required then "" else "?") ++ ": " ++
        inner.typeExpr.render)
    written texts
  inline : s.typeExpr.render = "\x7b " ++ Text.joined ", " texts ++ " \x7d"
  lines : s.members.map Member.render = texts.map (· ++ ";")
  declared : ∀ name, (s.shared name).render = "export interface " ++ name ++ " \x7b\n" ++
    Text.concat (texts.map fun text => "  " ++ text ++ ";\n") ++ "\x7d\n"

/-- The text of a property as a member of its object. -/
def memberText (required : List String) (p : String × Schema) : String :=
  memberKey p.1 ++ (if p.1 ∈ required then "" else "?") ++ ": " ++ p.2.typeExpr.render

theorem render_label (required : List String) (p : String × Schema) :
    (Label.mk p.1 (!required.contains p.1)).render ++ ": " ++ p.2.typeExpr.render =
      memberText required p := by
  rw [memberText, Label.render]
  by_cases hMem : p.1 ∈ required <;> simp [hMem]

section Object

variable {items : Option Schema} {ps : List (String × Schema)} {required : List String}

theorem render_object :
    (typeExpr ⟨none, some (.named "object"), items, some ps, required⟩).render =
      "\x7b " ++ Text.joined ", " (ps.map (memberText required)) ++ " \x7d" := by
  rw [typeExpr_of_properties, TypeExpr.render, renderFields_eq_map, List.map_map]
  congr 3
  exact List.map_congr_left fun p _ => render_label required p

theorem members_object :
    members ⟨none, some (.named "object"), items, some ps, required⟩ =
      ps.map fun p => .field ⟨p.1, !required.contains p.1⟩ p.2.typeExpr := by
  simp [members, kind, TypeKeyword.kind, fieldTypes_eq_map]

theorem render_members_object :
    (members ⟨none, some (.named "object"), items, some ps, required⟩).map Member.render =
      (ps.map (memberText required)).map (· ++ ";") := by
  rw [members_object, List.map_map, List.map_map]
  apply List.map_congr_left
  intro p _
  exact congrArg (· ++ ";") (render_label required p)

theorem render_shared_object (name : String) :
    (shared name ⟨none, some (.named "object"), items, some ps, required⟩).render =
      "export interface " ++ name ++ " \x7b\n" ++ Text.concat
        ((ps.map (memberText required)).map fun text => "  " ++ text ++ ";\n") ++ "\x7d\n" := by
  have hLines : ((members ⟨none, some (.named "object"), items, some ps, required⟩).map
      fun m => "  " ++ m.render ++ "\n") =
        (ps.map (memberText required)).map fun text => "  " ++ text ++ ";\n" := by
    have hRendered := congrArg (List.map fun line => "  " ++ line ++ "\n")
      (@render_members_object items ps required)
    rw [List.map_map, List.map_map] at hRendered
    refine hRendered.trans (List.map_congr_left fun text _ => ?_)
    simp only [Function.comp_apply, String.append_assoc]
    rfl
  have hShared : shared name ⟨none, some (.named "object"), items, some ps, required⟩ =
      ⟨name, [], .interface (members ⟨none, some (.named "object"), items, some ps, required⟩),
        true⟩ := by
    simp [shared, kind, TypeKeyword.kind]
  rw [hShared, ← hLines]
  simp [Declaration.render, Declaration.renderParameters, String.append_assoc]

theorem step?_object (hNodup : (ps.map (·.1)).Nodup) {p : String × Schema} (hp : p ∈ ps) :
    (typeExpr ⟨none, some (.named "object"), items, some ps, required⟩).step? (.property p.1) =
      some p.2.typeExpr := by
  rw [typeExpr_of_properties, TypeExpr.step?, List.map_map]
  change Keyed.get? (ps.map (Prod.map id typeExpr)) p.1 = _
  rw [Keyed.get?_map, Keyed.get?_of_mem hNodup hp, Option.map_some]

end Object

theorem IsReadAs.rendersAs {o : Outline} {s : Schema} {written : List (String × Outline)}
    (h : s.IsReadAs o) (hWritten : o.properties? = some written) :
    ∃ texts, s.RendersAs written o.required texts := by
  obtain ⟨items, ps, rfl, hAll⟩ := h.byParts.exists_properties hWritten
  have hNames : written.map (·.1) = ps.map (·.1) :=
    map_eq_map_of_forall₂ (hAll.imp fun _ _ hEntry => hEntry.1)
  have hNodup : (ps.map (·.1)).Nodup := hNames ▸ Outline.nodup_of_properties? hWritten
  refine ⟨ps.map (memberText o.required), ?_, render_object, render_members_object,
    render_shared_object⟩
  -- a step looks a property up by its name, and finds this one since no name occurs twice
  rw [List.forall₂_map_right_iff]
  have hMem := (List.forall₂_and_left _ _).mpr ⟨fun p hp =>
    @step?_object items ps o.required hNodup p hp, hAll.flip⟩
  refine List.Forall₂.flip (hMem.imp ?_)
  rintro ⟨name, inner⟩ ⟨_, o'⟩ ⟨hStep, rfl, hRead⟩
  exact ⟨inner, hRead, hStep, rfl⟩

/-- A schema that is read of every tree of a value is read of its text. -/
theorem ofString_render {layout : Layout} (hLayout : layout.Blank) {v : Value} (hv : v.NumberFree)
    {s : Schema} (hRead : ∀ t : Tree, t.Denotes v → (read fullRoom t).result = .ok s) :
    ofString (v.render layout) = .ok s :=
  readString_render hLayout hv hRead

theorem isReadAs_of_ofString {text : String} {s : Schema} (h : ofString text = .ok s) :
    s.IsReadAs (Outline.ofString text) :=
  ⟨_, rfl, fullRoom, (readString_result_eq_ok.mp h).1⟩

/-- Wherever an object with properties is written inside a schema, and no reference takes the place
of what is around it, there its type is written inside the type of the whole; and its properties are
marked by the names that it requires itself. -/
theorem marks_of_required {whole : Outline} {s : Schema} (h : s.IsReadAs whole)
    {path : List Step} {o : Outline} {written : List (String × Outline)}
    (hAt : whole.at? path = some o) (hWritten : o.properties? = some written) :
    ∃ inner : Schema, inner.IsReadAs o ∧ s.typeExpr.at? path = some inner.typeExpr ∧
      (∃ front back, s.typeExpr.render = front ++ inner.typeExpr.render ++ back) ∧
      ∃ texts, inner.RendersAs written o.required texts := by
  obtain ⟨inner, hInner, hType⟩ := h.at hAt
  exact ⟨inner, hInner, hType, TypeExpr.standsIn_of_at? hType, hInner.rendersAs hWritten⟩

/-- An object that requires a name of its own and one of the object around it. -/
def innerOrder : Value :=
  .object [("type", .text "object"),
    ("properties", .object [("b", .object []), ("c", .object [("type", .text "string")])]),
    ("required", .list [.text "c", .null, .text "a"])]

/-- A list of objects that require a name of their own and one of the object inside. -/
def orders : Value :=
  .object [("type", .text "array"),
    ("items", .object [("type", .text "object"),
      ("properties", .object [("a", innerOrder), ("b", .object [])]),
      ("required", .list [.text "b", .text "c"])])]

/-- What is read of the inner object. -/
def innerOrderSchema : Schema :=
  ⟨none, some (.named "object"), none,
    some [("b", ⟨none, none, none, none, []⟩), ("c", ⟨none, some (.named "string"), none, none, []⟩)],
    ["c", "a"]⟩

/-- What is read of the list. -/
def ordersSchema : Schema :=
  ⟨none, some (.named "array"),
    some ⟨none, some (.named "object"), none,
      some [("a", innerOrderSchema), ("b", ⟨none, none, none, none, []⟩)], ["b", "c"]⟩,
    none, []⟩

theorem ofString_orders (hFree : orders.NumberFree) :
    ofString (orders.render .compact) = .ok ordersSchema := by
  refine ofString_render Layout.compact_blank hFree fun t ht => ?_
  unfold orders innerOrder at ht
  repeat' first
    | cases ‹Tree.Denotes _ _›
    | cases ‹Members.Denote _ _›
    | cases ‹Items.Denote _ _›
  rfl

theorem orders_marks_of_required :
    ∃ s : Schema, ofString (orders.render .compact) = .ok s ∧
      s.typeExpr.render = "\x7b a?: \x7b b?: any, c: string \x7d, b: any \x7d[]" ∧
      s.IsReadAs orders.outline ∧
      orders.outline.at? [.items, .property "a"] = some innerOrder.outline ∧
      innerOrder.outline.properties? =
        some [("b", .object []), ("c", .object [("type", .text "string")])] ∧
      ∃ inner : Schema, inner.IsReadAs innerOrder.outline ∧
        s.typeExpr.at? [.items, .property "a"] = some inner.typeExpr ∧
        (∃ front back, s.typeExpr.render = front ++ inner.typeExpr.render ++ back) ∧
        ∃ texts, inner.RendersAs
          [("b", .object []), ("c", .object [("type", .text "string")])]
          innerOrder.outline.required texts := by
  have hFree : orders.NumberFree := by
    simp [orders, innerOrder, Value.NumberFree, Value.NumberFreeMembers, Value.NumberFreeItems]
  have hRead := ofString_orders hFree
  have hOutline := Outline.ofString_render Layout.compact_blank hFree
  have hWhole : ordersSchema.IsReadAs orders.outline := hOutline ▸ isReadAs_of_ofString hRead
  have hAt : orders.outline.at? [.items, .property "a"] = some innerOrder.outline := rfl
  have hWritten : innerOrder.outline.properties? =
      some [("b", .object []), ("c", .object [("type", .text "string")])] := rfl
  exact ⟨ordersSchema, hRead, by decide, hWhole, hAt, hWritten,
    marks_of_required hWhole hAt hWritten⟩

end Schema

end TypedClient
