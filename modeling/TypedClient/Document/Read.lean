import TypedClient.Document.Basic
import TypedClient.Schema.Read

/-!
Reading a description of an interface. Members that have no place in it are skipped; those of a
path item are remarked upon.
-/

namespace TypedClient

open Json

/-- Reads an object whose members are all of one kind. -/
def readKeyed {α : Type} (read : Tree → Reading α) (room : Nat) (t : Tree) :
    Reading (Keyed String α) := do
  let entries ← t.readObject "a map" (fun name value => do return (name, ← read value)) room
  return Keyed.ofEntries entries

namespace MediaType

/-- The members of a media type. -/
def record (room : Nat) : Record (Option (Option Schema)) MediaType where
  name := "MediaType"
  members := [
    { name := "schema", given := Option.isSome, mayLack := false
      read := fun t _ => do return some (← t.readOptional (Schema.read room)) }]
  empty := none
  finish := fun s => .ok ⟨s.join⟩

/-- Reads a media type. -/
def read : Nat → Tree → Reading MediaType :=
  Tree.readRecord record

end MediaType

namespace Body

/-- The members of a body; a complaint calls it by the given name. -/
def record (name : String) (room : Nat) : Record (Option (Keyed String MediaType)) Body where
  name := name
  members := [
    { name := "content", given := Option.isSome, mayLack := true
      read := fun t _ => do return some (← readKeyed (MediaType.read (room - 1)) room t) }]
  empty := none
  finish := fun s => .ok ⟨s.getD []⟩

/-- Reads a body to send. -/
def readRequest : Nat → Tree → Reading Body :=
  Tree.readRecord (record "RequestBody")

/-- Reads an answer. -/
def readResponse : Nat → Tree → Reading Body :=
  Tree.readRecord (record "Response")

end Body

namespace Operation

/-- What was read of an operation. -/
structure Partial where
  summary : Option (Option String)
  requestBody : Option (Option Body)
  responses : Option (Keyed String Body)

/-- The members of an operation. -/
def record (room : Nat) : Record Partial Operation where
  name := "Operation"
  members := [
    { name := "summary", given := (·.summary.isSome), mayLack := false
      read := fun t s => do return { s with summary := some (← t.readOptional Tree.readText) } },
    { name := "requestBody", given := (·.requestBody.isSome), mayLack := false
      read := fun t s => do
        return { s with requestBody := some (← t.readOptional (Body.readRequest room)) } },
    { name := "responses", given := (·.responses.isSome), mayLack := true
      read := fun t s => do
        return { s with
          responses := some (← readKeyed (Body.readResponse (room - 1)) room t) } }]
  empty := ⟨none, none, none⟩
  finish := fun s => .ok ⟨s.summary.join, s.requestBody.join, s.responses.getD []⟩

/-- Reads an operation. -/
def read : Nat → Tree → Reading Operation :=
  Tree.readRecord record

end Operation

namespace PathItem

/-- Reads a member of a path item: an operation if its name is that of a method. Any other is
skipped, and its name remarked. -/
def readMember (room : Nat) (name : String) (value : Tree) :
    Reading (Option (Method × Operation)) :=
  match Method.ofKey? name with
  | some method => do return some (method, ← Operation.read room value)
  | none => do
    Reading.remark name
    Reading.of value.skip
    return none

/-- Reads a path item. -/
def read (room : Nat) (t : Tree) : Reading PathItem := do
  let entries ← t.readObject "an OpenAPI path item object" (readMember (room - 1)) room
  return entries.filterMap id

end PathItem

namespace Info

/-- The members of a title. -/
def record (_room : Nat) : Record (Option String × Option String) Info where
  name := "Info"
  members := [
    { name := "title", given := (·.1.isSome), mayLack := true
      read := fun t s => do return (some (← t.readText), s.2) },
    { name := "version", given := (·.2.isSome), mayLack := true
      read := fun t s => do return (s.1, some (← t.readText)) }]
  empty := (none, none)
  finish := fun s => .ok ⟨s.1.getD "", s.2.getD ""⟩

/-- Reads title and version. -/
def read : Nat → Tree → Reading Info :=
  Tree.readRecord record

end Info

namespace Document

/-- The members of the place for shared schemas. -/
def componentsRecord (room : Nat) : Record (Option (Keyed String Schema)) (Keyed String Schema) where
  name := "Components"
  members := [
    { name := "schemas", given := Option.isSome, mayLack := true
      read := fun t _ => do return some (← readKeyed (Schema.read (room - 1)) room t) }]
  empty := none
  finish := fun s => .ok (s.getD [])

/-- What was read of a description. -/
structure Partial where
  info : Option Info
  paths : Option (Keyed String PathItem)
  schemas : Option (Option (Keyed String Schema))

/-- The members of a description. -/
def record (room : Nat) : Record Partial Document where
  name := "OpenApiDocument"
  members := [
    { name := "info", given := (·.info.isSome), mayLack := true
      read := fun t s => do return { s with info := some (← Info.read room t) } },
    { name := "paths", given := (·.paths.isSome), mayLack := true
      read := fun t s => do
        return { s with paths := some (← readKeyed (PathItem.read (room - 1)) room t) } },
    { name := "components", given := (·.schemas.isSome), mayLack := false
      read := fun t s => do
        return { s with
          schemas := some (← t.readOptional (Tree.readRecord componentsRecord room)) } }]
  empty := ⟨none, none, none⟩
  finish := fun s => .ok ⟨s.info.getD ⟨"", ""⟩, s.paths.getD [], s.schemas.join⟩

/-- Reads a description; the remarks are the names of skipped members of path items. -/
def read : Nat → Tree → Reading Document :=
  Tree.readRecord record

/-- Reads a description from its text. -/
def ofString (s : String) : Reading Document :=
  readString read s

end Document

end TypedClient
