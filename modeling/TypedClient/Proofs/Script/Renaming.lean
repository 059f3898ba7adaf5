import Mathlib.Data.List.Forall2
import TypedClient.Script.TypeExpr

/-!
Types and declarations that differ in the names they mention and in nothing else. The relation says
constructor by constructor what stays; replacing names gives the one partner that it allows.
-/

namespace TypedClient.Script

variable {f : String → String}

mutual

/-- Two types of the same shape, with the same labels in the same order: where the one mentions a
name, the other mentions its image. -/
inductive TypeExpr.RenamedTo (f : String → String) : TypeExpr → TypeExpr → Prop
  | primitive (p : Primitive) : TypeExpr.RenamedTo f (.primitive p) (.primitive p)
  | list {t t' : TypeExpr} (hItem : TypeExpr.RenamedTo f t t') :
      TypeExpr.RenamedTo f (.list t) (.list t')
  | record {fields fields' : List (Label × TypeExpr)} (hFields : FieldsRenamedTo f fields fields') :
      TypeExpr.RenamedTo f (.record fields) (.record fields')
  | named (name : String) : TypeExpr.RenamedTo f (.named name) (.named (f name))

/-- The same labels in the same order, with types that differ in the names they mention. -/
inductive FieldsRenamedTo (f : String → String) :
    List (Label × TypeExpr) → List (Label × TypeExpr) → Prop
  | nil : FieldsRenamedTo f [] []
  | cons (label : Label) {t t' : TypeExpr} {rest rest' : List (Label × TypeExpr)}
      (hType : TypeExpr.RenamedTo f t t') (hRest : FieldsRenamedTo f rest rest') :
      FieldsRenamedTo f ((label, t) :: rest) ((label, t') :: rest')

end

/-- Two members with the same label or the same index, whose types differ in the names they
mention. -/
inductive Member.RenamedTo (f : String → String) : Member → Member → Prop
  | field (label : Label) {t t' : TypeExpr} (hType : t.RenamedTo f t') :
      Member.RenamedTo f (.field label t) (.field label t')
  | index (key : String) (keyType : Primitive) {t t' : TypeExpr} (hType : t.RenamedTo f t') :
      Member.RenamedTo f (.index key keyType t) (.index key keyType t')

/-- Two bodies of the same kind, member for member. -/
inductive DeclarationBody.RenamedTo (f : String → String) :
    DeclarationBody → DeclarationBody → Prop
  | interface {members members' : List Member}
      (hMembers : List.Forall₂ (Member.RenamedTo f) members members') :
      DeclarationBody.RenamedTo f (.interface members) (.interface members')
  | synonym {t t' : TypeExpr} (hType : t.RenamedTo f t') :
      DeclarationBody.RenamedTo f (.synonym t) (.synonym t')

/-- Two declarations that differ in their own names and in the names that their types mention. -/
structure Declaration.RenamedTo (f : String → String) (d d' : Declaration) : Prop where
  parameters : d.parameters = d'.parameters
  exported : d.exported = d'.exported
  body : d.body.RenamedTo f d'.body

/-! ### Replacing names -/

mutual

theorem TypeExpr.renamedTo_mapNames (f : String → String) :
    (t : TypeExpr) → t.RenamedTo f (t.mapNames f)
  | .primitive p => .primitive p
  | .list item => .list (item.renamedTo_mapNames f)
  | .record fields => .record (fieldsRenamedTo_mapFieldNames f fields)
  | .named name => .named name

theorem fieldsRenamedTo_mapFieldNames (f : String → String) :
    (fields : List (Label × TypeExpr)) → FieldsRenamedTo f fields (mapFieldNames f fields)
  | [] => .nil
  | (label, type) :: rest =>
    .cons label (type.renamedTo_mapNames f) (fieldsRenamedTo_mapFieldNames f rest)

end

mutual

/-- There is no other partner. The induction follows the first of the types. -/
theorem TypeExpr.eq_mapNames_of_renamedTo :
    (t t' : TypeExpr) → t.RenamedTo f t' → t' = t.mapNames f
  | _, _, .primitive _ => rfl
  | .list item, _, .list hItem => by
      rw [TypeExpr.mapNames, TypeExpr.eq_mapNames_of_renamedTo item _ hItem]
  | .record fields, _, .record hFields => by
      rw [TypeExpr.mapNames, eq_mapFieldNames_of_renamedTo fields _ hFields]
  | _, _, .named _ => rfl

theorem eq_mapFieldNames_of_renamedTo :
    (fields fields' : List (Label × TypeExpr)) → FieldsRenamedTo f fields fields' →
      fields' = mapFieldNames f fields
  | _, _, .nil => rfl
  | (label, type) :: rest, _, .cons _ hType hRest => by
      rw [mapFieldNames, TypeExpr.eq_mapNames_of_renamedTo type _ hType,
        eq_mapFieldNames_of_renamedTo rest _ hRest]

end

theorem TypeExpr.renamedTo_iff {t t' : TypeExpr} : t.RenamedTo f t' ↔ t' = t.mapNames f :=
  ⟨t.eq_mapNames_of_renamedTo t', fun h => h ▸ t.renamedTo_mapNames f⟩

theorem Member.renamedTo_iff {m m' : Member} : m.RenamedTo f m' ↔ m' = m.mapNames f := by
  constructor
  · rintro (⟨label, hType⟩ | ⟨key, keyType, hType⟩)
    · rw [TypeExpr.renamedTo_iff.mp hType, mapNames]
    · rw [TypeExpr.renamedTo_iff.mp hType, mapNames]
  · rintro rfl
    cases m with
    | field label type => exact .field label (type.renamedTo_mapNames f)
    | index key keyType value => exact .index key keyType (value.renamedTo_mapNames f)

/-- Lists go with one another element by element just when the one is made of the other. -/
theorem forall₂_iff_eq_map {α β : Type} {R : α → β → Prop} {g : α → β}
    (h : ∀ a b, R a b ↔ b = g a) {as : List α} {bs : List β} :
    List.Forall₂ R as bs ↔ bs = as.map g := by
  constructor
  · intro hAll
    induction hAll with
    | nil => rfl
    | cons hHead _ ih => rw [List.map_cons, (h _ _).mp hHead, ih]
  · rintro rfl
    rw [List.forall₂_map_right_iff, List.forall₂_same]
    exact fun a _ => (h a _).mpr rfl

/-- A body has exactly one partner: itself with the names in its types replaced. -/
theorem DeclarationBody.renamedTo_iff {b b' : DeclarationBody} :
    b.RenamedTo f b' ↔ b' = b.mapNames f := by
  have hMembers := @forall₂_iff_eq_map _ _ (Member.RenamedTo f) (Member.mapNames f)
    fun _ _ => Member.renamedTo_iff
  constructor
  · rintro (hAll | hType)
    · rw [mapNames, hMembers.mp hAll]
    · rw [mapNames, TypeExpr.renamedTo_iff.mp hType]
  · rintro rfl
    cases b with
    | interface members => exact .interface (hMembers.mpr rfl)
    | synonym type => exact .synonym (type.renamedTo_mapNames f)

end TypedClient.Script
