import TypedClient.Script.Expr
import TypedClient.Script.TypeExpr

/-!
The type names that a script mentions, at any depth, and what replacing names does to them.
Verbatim lines are text and no syntax, so they mention none.
-/

namespace TypedClient.Script

/-- The names that the types in a body mention. -/
def DeclarationBody.names : DeclarationBody → List String
  | .interface members => members.flatMap (·.type.names)
  | .synonym type => type.names

mutual

/-- The names in the type arguments of an expression. -/
def Expr.typeNames : Expr → List String
  | .name _ => []
  | .text _ => []
  | .call callee typeArguments arguments =>
    callee.typeNames ++ typeArguments.flatMap TypeExpr.names ++ argumentTypeNames arguments
  | .member object _ => object.typeNames
  | .object properties => propertyTypeNames properties
  | .await value => value.typeNames

/-- The names in the type arguments of the arguments of a call. -/
def argumentTypeNames : List Expr → List String
  | [] => []
  | e :: es => e.typeNames ++ argumentTypeNames es

/-- The names in the type arguments of the properties of an object. -/
def propertyTypeNames : List (String × Expr) → List String
  | [] => []
  | (_, e) :: rest => e.typeNames ++ propertyTypeNames rest

end

mutual

/-- The type names in a statement. -/
def Statement.typeNames : Statement → List String
  | .const _ value => value.typeNames
  | .eval value => value.typeNames
  | .return value => value.typeNames
  | .throw value => value.typeNames
  | .attempt body _ handler => blockTypeNames body ++ blockTypeNames handler
  | .verbatim _ => []

/-- The type names in a block. -/
def blockTypeNames : List Statement → List String
  | [] => []
  | s :: ss => s.typeNames ++ blockTypeNames ss

end

/-- The built-in type of what is still to come. -/
def promiseName : String := "Promise"

/-- The type names in a result. -/
def Result.typeNames : Result → List String
  | .untyped => []
  | .value type => type.names
  | .promise type => promiseName :: type.names

/-- The type names in a function: in its parameters, its result and its body. -/
def Function.typeNames (f : Function) : List String :=
  f.parameters.flatMap (·.type.names) ++ f.result.typeNames ++ blockTypeNames f.body

mutual

/-- Replacing names replaces each mention at its place and adds none. -/
theorem TypeExpr.names_mapNames (f : String → String) :
    (t : TypeExpr) → (t.mapNames f).names = t.names.map f
  | .primitive _ => rfl
  | .list item => item.names_mapNames f
  | .record fields => fieldNames_mapFieldNames f fields
  | .named _ => rfl

theorem fieldNames_mapFieldNames (f : String → String) :
    (fields : List (Label × TypeExpr)) →
      fieldNames (mapFieldNames f fields) = (fieldNames fields).map f
  | [] => rfl
  | (_, type) :: rest => by
      rw [mapFieldNames, fieldNames, fieldNames, List.map_append, type.names_mapNames f,
        fieldNames_mapFieldNames f rest]

end

theorem Member.names_mapNames (f : String → String) (m : Member) :
    (m.mapNames f).type.names = m.type.names.map f := by
  cases m with
  | field label type => exact type.names_mapNames f
  | index key keyType value => exact value.names_mapNames f

theorem DeclarationBody.names_mapNames (f : String → String) (b : DeclarationBody) :
    (b.mapNames f).names = b.names.map f := by
  cases b with
  | synonym type => exact type.names_mapNames f
  | interface members =>
      rw [mapNames, names, names, List.map_flatMap, List.flatMap_map]
      simp only [Member.names_mapNames]

/-! ### Names that stay as they are -/

variable {f : String → String}

mutual

/-- Replacing names changes a type only where it mentions a name that is changed. -/
theorem TypeExpr.mapNames_eq_self :
    (t : TypeExpr) → (∀ name ∈ t.names, f name = name) → t.mapNames f = t
  | .primitive _, _ => rfl
  | .list item, h => by rw [TypeExpr.mapNames, item.mapNames_eq_self h]
  | .record fields, h => by rw [TypeExpr.mapNames, mapFieldNames_eq_self fields h]
  | .named name, h => by rw [TypeExpr.mapNames, h name (List.mem_singleton.mpr rfl)]

theorem mapFieldNames_eq_self :
    (fields : List (Label × TypeExpr)) → (∀ name ∈ fieldNames fields, f name = name) →
      mapFieldNames f fields = fields
  | [], _ => rfl
  | (_, type) :: rest, h => by
      have hType := type.mapNames_eq_self fun name hName =>
        h name (List.mem_append_left _ hName)
      have hRest := mapFieldNames_eq_self rest fun name hName =>
        h name (List.mem_append_right _ hName)
      rw [mapFieldNames, hType, hRest]

end

theorem Member.mapNames_eq_self (m : Member) (h : ∀ name ∈ m.type.names, f name = name) :
    m.mapNames f = m := by
  cases m with
  | field label type => rw [mapNames, type.mapNames_eq_self h]
  | index key keyType value => rw [mapNames, value.mapNames_eq_self h]

theorem DeclarationBody.mapNames_eq_self (b : DeclarationBody)
    (h : ∀ name ∈ b.names, f name = name) : b.mapNames f = b := by
  cases b with
  | synonym type => rw [mapNames, type.mapNames_eq_self h]
  | interface members =>
      have hMembers : members.map (·.mapNames f) = members := by
        refine (List.map_congr_left fun m hm => ?_).trans (List.map_id members)
        exact m.mapNames_eq_self fun name hName => h name (List.mem_flatMap.mpr ⟨m, hm, hName⟩)
      rw [mapNames, hMembers]

theorem DeclarationBody.mapNames_id (b : DeclarationBody) : b.mapNames id = b :=
  b.mapNames_eq_self fun _ _ => rfl

end TypedClient.Script
