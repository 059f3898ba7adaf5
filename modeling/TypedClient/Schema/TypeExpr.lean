import TypedClient.Schema.Basic
import TypedClient.Script.TypeExpr
import TypedClient.Text.Pieces

/-!
The type of the values that a schema allows. A reference decides alone; what no rule covers is
`any`.
-/

namespace TypedClient

open Script

/-- The name that a reference points to: what follows its last slash. -/
def referenceName (reference : String) : String :=
  Text.afterLast '/' reference

mutual

/-- The type of the values that a schema allows. -/
def Schema.typeExpr : Schema → TypeExpr
  | ⟨some reference, _, _, _, _⟩ => .named (referenceName reference)
  | ⟨none, none, _, _, _⟩ => .primitive .any
  | ⟨none, some keyword, items, properties, required⟩ =>
    match keyword.kind with
    | .text => .primitive .text
    | .number => .primitive .number
    | .flag => .primitive .flag
    | .list => .list (itemType items)
    | .object =>
      match properties with
      | some properties => .record (fieldTypes required properties)
      | none => .primitive .object
    | .unknown => .primitive .any

/-- The type of the items of a list. -/
def itemType : Option Schema → TypeExpr
  | some s => s.typeExpr
  | none => .primitive .any

/-- The members of an object type. A property that is not required is optional. -/
def fieldTypes (required : List String) : List (String × Schema) → List (Label × TypeExpr)
  | [] => []
  | (name, s) :: rest =>
    (⟨name, !required.contains name⟩, s.typeExpr) :: fieldTypes required rest

end

namespace Schema

/-- The member that allows any key and gives it the type of the whole schema. -/
def anyKey (s : Schema) : Member :=
  .index "key" .text s.typeExpr

/-- The members of the interface that declares a schema. -/
def members (s : Schema) : List Member :=
  if s.reference.isSome then [s.anyKey]
  else match s.kind, s.properties, s.items with
    | .object, some properties, _ =>
      (fieldTypes s.required properties).map fun f => .field f.1 f.2
    | .list, _, some item => [.index "index" .number item.typeExpr]
    | _, _, _ => if s.keyword.isSome then [s.anyKey] else []

/-- The declaration of a shared schema under a name: an interface if it is an object with known
properties, else a synonym. -/
def shared (name : String) (s : Schema) : Declaration :=
  match s.kind, s.properties with
  | .object, some _ => ⟨name, [], .interface s.members, true⟩
  | _, _ => ⟨name, [], .synonym s.typeExpr, true⟩

end Schema

end TypedClient
