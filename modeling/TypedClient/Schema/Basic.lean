import TypedClient.Keyed

/-!
The part of a JSON Schema that decides the type of a value.
-/

namespace TypedClient

/-- The `type` keyword of a schema: a name, or anything else. -/
inductive TypeKeyword where
  | named (name : String)
  | other
  deriving DecidableEq, Repr

/-- The types that a schema can name. -/
inductive SchemaKind where
  | text
  | number
  | flag
  | list
  | object
  | unknown
  deriving DecidableEq, Repr

/-- The type that the keyword names. -/
def TypeKeyword.kind : TypeKeyword → SchemaKind
  | .other => .unknown
  | .named name =>
    if name = "string" then .text
    else if name = "number" ∨ name = "integer" then .number
    else if name = "boolean" then .flag
    else if name = "array" then .list
    else if name = "object" then .object
    else .unknown

/-- A schema. The properties are in the order of the text, each name once. -/
structure Schema where
  reference : Option String
  keyword : Option TypeKeyword
  items : Option Schema
  properties : Option (List (String × Schema))
  required : List String
  deriving Inhabited

namespace Schema

/-- The type that the schema names. -/
def kind (s : Schema) : SchemaKind :=
  match s.keyword with
  | some k => k.kind
  | none => .unknown

/-- Whether the name is listed as required. -/
def requires (s : Schema) (name : String) : Bool :=
  s.required.contains name

/-- The schema of a property. -/
def property? (s : Schema) (name : String) : Option Schema :=
  s.properties.bind (Keyed.get? · name)

/-- Whether there is a property of that name. -/
def hasProperty (s : Schema) (name : String) : Bool :=
  (s.property? name).isSome

end Schema

end TypedClient
