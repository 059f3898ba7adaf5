import TypedClient.Document.Read
import TypedClient.Proofs.Json.Fields

/-!
The records of a description, field by field.
-/

namespace TypedClient

open Json

/-- The fields of a schema, given the readers for the schema of items and for that of a
property. -/
def Schema.fields (room : Nat) (readItems readProperty : Tree → Reading Schema) :
    List (Json.Field Schema.Partial) := [
  ⟨"$ref", _, Tree.readOptional Tree.readText, (·.reference),
    fun s a => { s with reference := some a }, false⟩,
  ⟨"type", _, Tree.readOptional (Schema.readKeyword room), (·.keyword),
    fun s a => { s with keyword := some a }, false⟩,
  ⟨"items", _, Tree.readOptional readItems, (·.items),
    fun s a => { s with items := some a }, false⟩,
  ⟨"properties", _, Tree.readOptional (readKeyed readProperty room), (·.properties),
    fun s a => { s with properties := some a }, false⟩,
  ⟨"required", _, Schema.readRequired room, (·.required),
    fun s a => { s with required := some a }, true⟩]

theorem Schema.laid (room : Nat) (readItems readProperty : Tree → Reading Schema) :
    (Schema.record room readItems readProperty).Laid (fields room readItems readProperty) where
  members := rfl
  nodup := by
    change ["$ref", "type", "items", "properties", "required"].Nodup
    decide
  empty := by simp [fields, record]
  own := by simp [fields]
  apart := by simp [fields, Json.Field.Apart]

/-- Reads the schema of a property, which lies in an object of its own. -/
def Schema.readProperty (room : Nat) (t : Tree) : Reading Schema :=
  match room with
  | 0 => refuse t
  | room + 1 => read room t

theorem Schema.read_succ (room : Nat) (t : Tree) :
    read (room + 1) t = (record room (read room) (readProperty room)).readInside t := by
  cases room <;> rfl

/-- The field of a media type. -/
def MediaType.fields (room : Nat) : List (Json.Field (Option (Option Schema))) :=
  [⟨"schema", _, Tree.readOptional (Schema.read room), id, fun _ a => some a, false⟩]

theorem MediaType.laid (room : Nat) : (MediaType.record room).Laid (fields room) where
  members := rfl
  nodup := List.nodup_singleton _
  empty := by simp [fields, record]
  own := by simp [fields]
  apart := List.pairwise_singleton ..

/-- The field of a body. -/
def Body.fields (room : Nat) : List (Json.Field (Option (Keyed String MediaType))) :=
  [⟨"content", _, readKeyed (MediaType.read (room - 1)) room, id, fun _ a => some a, true⟩]

theorem Body.laid (name : String) (room : Nat) : (Body.record name room).Laid (fields room) where
  members := rfl
  nodup := List.nodup_singleton _
  empty := by simp [fields, record]
  own := by simp [fields]
  apart := List.pairwise_singleton ..

/-- The fields of an operation. -/
def Operation.fields (room : Nat) : List (Json.Field Operation.Partial) := [
  ⟨"summary", _, Tree.readOptional Tree.readText, (·.summary),
    fun s a => { s with summary := some a }, false⟩,
  ⟨"requestBody", _, Tree.readOptional (Body.readRequest room), (·.requestBody),
    fun s a => { s with requestBody := some a }, false⟩,
  ⟨"responses", _, readKeyed (Body.readResponse (room - 1)) room, (·.responses),
    fun s a => { s with responses := some a }, true⟩]

theorem Operation.laid (room : Nat) : (Operation.record room).Laid (fields room) where
  members := rfl
  nodup := by
    change ["summary", "requestBody", "responses"].Nodup
    decide
  empty := by simp [fields, record]
  own := by simp [fields]
  apart := by simp [fields, Json.Field.Apart]

/-- The fields of a title. -/
def Info.fields : List (Json.Field (Option String × Option String)) := [
  ⟨"title", _, Tree.readText, (·.1), fun s a => (some a, s.2), true⟩,
  ⟨"version", _, Tree.readText, (·.2), fun s a => (s.1, some a), true⟩]

theorem Info.laid (room : Nat) : (Info.record room).Laid fields where
  members := rfl
  nodup := by
    change ["title", "version"].Nodup
    decide
  empty := by simp [fields, record]
  own := by simp [fields]
  apart := by simp [fields, Json.Field.Apart]

namespace Document

/-- The field of the place for shared schemas. -/
def componentsFields (room : Nat) : List (Json.Field (Option (Keyed String Schema))) :=
  [⟨"schemas", _, readKeyed (Schema.read (room - 1)) room, id, fun _ a => some a, true⟩]

theorem componentsLaid (room : Nat) :
    (componentsRecord room).Laid (componentsFields room) where
  members := rfl
  nodup := List.nodup_singleton _
  empty := by simp [componentsFields, componentsRecord]
  own := by simp [componentsFields]
  apart := List.pairwise_singleton ..

/-- The fields of a description. -/
def fields (room : Nat) : List (Json.Field Document.Partial) := [
  ⟨"info", _, Info.read room, (·.info), fun s a => { s with info := some a }, true⟩,
  ⟨"paths", _, readKeyed (PathItem.read (room - 1)) room, (·.paths),
    fun s a => { s with paths := some a }, true⟩,
  ⟨"components", _, Tree.readOptional (Tree.readRecord componentsRecord room), (·.schemas),
    fun s a => { s with schemas := some a }, false⟩]

theorem laid (room : Nat) : (Document.record room).Laid (fields room) where
  members := rfl
  nodup := by
    change ["info", "paths", "components"].Nodup
    decide
  empty := by simp [fields, record]
  own := by simp [fields]
  apart := by simp [fields, Json.Field.Apart]

end Document

end TypedClient
