import TypedClient.Document.Method
import TypedClient.Schema.Basic

/-!
A description of an HTTP interface: its title, its operations path by path, and the schemas they
share. Everything keeps the order of the text.
-/

namespace TypedClient

/-- What may be sent or answered in one media type. -/
structure MediaType where
  schema : Option Schema
  deriving Inhabited

/-- A body to send or an answer, by media type. -/
structure Body where
  content : Keyed String MediaType
  deriving Inhabited

/-- An operation: one method on one path. -/
structure Operation where
  summary : Option String
  requestBody : Option Body
  responses : Keyed String Body
  deriving Inhabited

/-- The operations on a path. A method may occur more than once. -/
abbrev PathItem : Type :=
  List (Method × Operation)

/-- Title and version of an interface. -/
structure Info where
  title : String
  version : String
  deriving DecidableEq, Repr, Inhabited

/-- A description of an HTTP interface. -/
structure Document where
  info : Info
  paths : Keyed String PathItem
  /-- The schemas that operations share, if the description has a place for them. -/
  schemas : Option (Keyed String Schema)
  deriving Inhabited

/-- The media type whose schemas count. -/
def jsonMediaType : String := "application/json"

/-- The schema of JSON in a body. -/
def Body.jsonSchema? (b : Body) : Option Schema :=
  (b.content.get? jsonMediaType).bind (·.schema)

namespace Operation

/-- The schema of the JSON that is sent. -/
def requestSchema? (op : Operation) : Option Schema :=
  op.requestBody.bind Body.jsonSchema?

/-- The answer on success: that of status 200, or else that of 201. -/
def success? (op : Operation) : Option Body :=
  (op.responses.get? "200").or (op.responses.get? "201")

/-- The schema of the JSON that answers on success. -/
def responseSchema? (op : Operation) : Option Schema :=
  op.success?.bind Body.jsonSchema?

end Operation

/-- An operation together with where it is. -/
structure Route where
  path : String
  method : Method
  operation : Operation

namespace Document

/-- All operations in order. -/
def routes (d : Document) : List Route :=
  d.paths.flatMap fun (path, item) => item.map fun (method, op) => ⟨path, method, op⟩

/-- How many operations there are. -/
def operationCount (d : Document) : Nat :=
  d.routes.length

end Document

end TypedClient
