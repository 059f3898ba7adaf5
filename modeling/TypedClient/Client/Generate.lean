import TypedClient.Client.Module
import TypedClient.Document.Read
import TypedClient.Log.Event

/-!
From the text of a description to the text of a client, with the events reported on the way.
-/

namespace TypedClient

namespace Event

/-- A member of a path item was skipped. -/
def skippedKey (key : String) : Event :=
  ⟨.debug, "a2i_core::openapi::spec", "Skipping non-operation path item key.",
    [("key", .shown key)]⟩

/-- A call was planned. -/
def plannedCall (c : Call) : Event :=
  ⟨.debug, "a2i_core::openapi::ir::normalize", "Normalized operation.",
    [("method", .quoted c.method.wire), ("path", .shown c.path), ("fn_name", .shown c.name),
     ("has_request", .ofBool c.request.isSome), ("response", .quoted c.answer.kind)]⟩

/-- A client was planned. -/
def plannedClient (c : Client) : Event :=
  ⟨.debug, "a2i_core::openapi::emitter", "Normalized OpenAPI document.",
    [("title", .shown c.title), ("operations", .ofNat c.calls.length)]⟩

end Event

/-- What is wrong with a description: it is no JSON text of the right structure. -/
structure InvalidDocument where
  fault : Json.Fault
  deriving DecidableEq, Repr

/-- What is wrong with a description, in words. -/
def InvalidDocument.message (e : InvalidDocument) : String :=
  "Failed to parse OpenAPI document: " ++ e.fault.message

/-- A generated client: its text, and for how many operations. -/
structure Generated where
  code : String
  operations : Nat
  deriving DecidableEq, Repr

namespace Client

/-- The events of planning a client. -/
def events (c : Client) : List Event :=
  c.calls.map Event.plannedCall ++ [Event.plannedClient c]

end Client

namespace Document

/-- The client for a description. -/
def generate (d : Document) (o : Options) : Generated :=
  ⟨(Client.ofDocument d o).render o, d.operationCount⟩

/-- The description in a text. -/
def parse (text : String) : Except InvalidDocument Document :=
  match (Document.ofString text).result with
  | .ok d => .ok d
  | .error fault => .error ⟨fault⟩

/-- The events of reading a text and of planning the client for it. -/
def events (text : String) (o : Options) : List Event :=
  (Document.ofString text).remarks.map Event.skippedKey
    ++ match parse text with
      | .ok d => (Client.ofDocument d o).events
      | .error _ => []

end Document

/-- The client for the description in a text. -/
def generate (text : String) (o : Options) : Except InvalidDocument Generated :=
  match Document.parse text with
  | .ok d => .ok (d.generate o)
  | .error e => .error e

end TypedClient
