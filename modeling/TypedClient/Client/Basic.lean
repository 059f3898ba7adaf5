import TypedClient.Client.Options
import TypedClient.Document.Basic
import TypedClient.Schema.TypeExpr

/-!
A client as it is planned from a description: one call for each operation, with the types it
takes and gives, and the declarations they share.
-/

namespace TypedClient

open Script

/-- How the answer on success is typed. -/
inductive Answer where
  /-- No schema for it. -/
  | untyped
  /-- Mere text, for which there is nothing to declare. -/
  | text
  /-- A declaration of the whole answer. -/
  | whole (declaration : Declaration)
  /-- A declaration of the data inside the usual envelope. -/
  | enveloped (declaration : Declaration)

namespace Answer

/-- The declaration that an answer needs. -/
def declaration? : Answer → Option Declaration
  | .whole d => some d
  | .enveloped d => some d
  | _ => none

/-- The type of an answer. -/
def type? : Answer → Option TypeExpr
  | .untyped => none
  | .text => some (.primitive .text)
  | .whole d => some (.named d.name)
  | .enveloped d => some (.named d.name)

/-- The word for the kind of an answer. -/
def kind : Answer → String
  | .untyped => "none"
  | .text => "text"
  | .whole _ => "raw"
  | .enveloped _ => "enveloped"

/-- The answer with every name in the types of its declaration replaced. -/
def mapNames (f : String → String) : Answer → Answer
  | .whole d => .whole { d with body := d.body.mapNames f }
  | .enveloped d => .enveloped { d with body := d.body.mapNames f }
  | a => a

end Answer

/-- A call that a client offers. -/
structure Call where
  path : String
  method : Method
  summary : Option String
  name : String
  /-- The declaration of what it takes. -/
  request : Option Declaration
  answer : Answer

namespace Call

/-- The declarations that a call needs. -/
def declarations (c : Call) : List Declaration :=
  c.request.toList ++ c.answer.declaration?.toList

/-- The call with every name in the types of its declarations replaced. -/
def mapNames (f : String → String) (c : Call) : Call :=
  { c with
    request := c.request.map fun d => { d with body := d.body.mapNames f }
    answer := c.answer.mapNames f }

/-- Whether a path has a place for a parameter: an opening brace and a closing one behind it. -/
def hasParameters (path : String) : Bool :=
  (path.toList.dropWhile (· ≠ '{')).contains '}'

/-- Whether parameters are put into the path. -/
def fillsPath (c : Call) : Bool :=
  c.request.isSome && hasParameters c.path

end Call

/-- The properties of the usual envelope. -/
def envelopeNames : List String := ["success", "code", "data"]

/-- The schema of the data inside the usual envelope, if a schema is one. -/
def Schema.envelopeData? (s : Schema) : Option Schema :=
  if envelopeNames.all s.hasProperty then s.property? "data" else none

/-- The shared declarations of a client. -/
inductive Shared where
  | declared (declarations : List Declaration)
  | verbatim (text : String)

namespace Shared

/-- The text of the shared declarations. -/
def render : Shared → String
  | .declared ds => Text.joined "\n" (ds.map Declaration.render)
  | .verbatim text => text

/-- The shared declarations with every name replaced, their own included. -/
def mapNames (f : String → String) : Shared → Shared
  | .declared ds =>
    .declared (ds.map fun d => { d with name := f d.name, body := d.body.mapNames f })
  | .verbatim text => .verbatim text

end Shared

/-- A planned client. -/
structure Client where
  title : String
  version : String
  calls : List Call
  shared : Shared

namespace Route

/-- The name of something that belongs to an operation. -/
def nameFor (r : Route) (style : NamingStyle) (role : NameRole) : String :=
  Naming.derive role r.method r.path style

/-- The declaration of a type that belongs to an operation. -/
def declare (r : Route) (style : NamingStyle) (role : TypeRole) (s : Schema) : Declaration :=
  .interface (r.nameFor style (.type role)) s.members

/-- How the answer of an operation is typed. -/
def answer (r : Route) (style : NamingStyle) : Answer :=
  match r.operation.responseSchema? with
  | none => .untyped
  | some s =>
    match s.envelopeData? with
    | some data => .enveloped (r.declare style .responseData data)
    | none => if s.kind = .text then .text else .whole (r.declare style .response s)

/-- The call for an operation. -/
def call (r : Route) (style : NamingStyle) : Call where
  path := r.path
  method := r.method
  summary := r.operation.summary
  name := r.nameFor style .function
  request := r.operation.requestSchema?.map (r.declare style .request)
  answer := r.answer style

end Route

namespace Client

/-- The client with every name of a shared schema replaced, where it is declared and where it is
used. -/
def mapNames (f : String → String) (c : Client) : Client :=
  { c with calls := c.calls.map (·.mapNames f), shared := c.shared.mapNames f }

/-- The client for a description with the names of shared schemas as they are. -/
def plain (d : Document) (o : Options) : Client where
  title := d.info.title
  version := d.info.version
  calls := d.routes.map (·.call o.naming)
  shared := match o.shared with
    | .verbatim text => .verbatim text
    | .declared => .declared ((d.schemas.getD []).map fun (name, s) => s.shared name)

/-- The client for a description. -/
def ofDocument (d : Document) (o : Options) : Client :=
  match o.naming with
  | .preserve => plain d o
  | .sanitized => (plain d o).mapNames Naming.typeName

end Client

end TypedClient
