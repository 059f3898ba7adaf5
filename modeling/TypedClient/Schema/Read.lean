import TypedClient.Schema.Basic
import TypedClient.Json.Read

/-!
Reading a schema. Its structure is read strictly; of `type` and `required` any value will do, and
of those only texts count.
-/

namespace TypedClient.Schema

open Json

/-- What was read of a schema. -/
structure Partial where
  reference : Option (Option String)
  keyword : Option (Option TypeKeyword)
  items : Option (Option Schema)
  properties : Option (Option (List (String × Schema)))
  required : Option (List String)

/-- Reads the `type` keyword. -/
def readKeyword (room : Nat) (t : Tree) : Reading TypeKeyword :=
  match t.readValue room with
  | .ok (.text name) => .ok (.named name)
  | .ok _ => .ok .other
  | .error fault => .fail fault

/-- Reads the names of required properties; what is not a text among them is left out. -/
def readRequired (room : Nat) (t : Tree) : Reading (List String) :=
  match t.readValue room with
  | .ok v => .ok v.texts
  | .error fault => .fail fault

/-- Reads properties; `read` takes the schema of one. -/
def readProperties (read : Tree → Reading Schema) (room : Nat) (t : Tree) :
    Reading (List (String × Schema)) := do
  let entries ← t.readObject "a map" (fun name value => do return (name, ← read value)) room
  return Keyed.ofEntries entries

/-- The members of a schema, given the readers for the schema of items and for that of a
property. -/
def record (room : Nat) (readItems readProperty : Tree → Reading Schema) :
    Record Partial Schema where
  name := "Schema"
  members := [
    { name := "$ref", given := (·.reference.isSome), mayLack := false
      read := fun t s => do return { s with reference := some (← t.readOptional Tree.readText) } },
    { name := "type", given := (·.keyword.isSome), mayLack := false
      read := fun t s => do
        return { s with keyword := some (← t.readOptional (readKeyword room)) } },
    { name := "items", given := (·.items.isSome), mayLack := false
      read := fun t s => do return { s with items := some (← t.readOptional readItems) } },
    { name := "properties", given := (·.properties.isSome), mayLack := false
      read := fun t s => do
        return { s with
          properties := some (← t.readOptional (readProperties readProperty room)) } },
    { name := "required", given := (·.required.isSome), mayLack := true
      read := fun t s => do return { s with required := some (← readRequired room t) } }]
  empty := ⟨none, none, none, none, none⟩
  finish := fun s => .ok ⟨s.reference.join, s.keyword.join, s.items.join, s.properties.join,
    s.required.getD []⟩

/-- What is said of a value where there is no room for a schema. -/
def refuse (t : Tree) : Reading Schema :=
  .fail (t.refuse true true "struct Schema")

/-- Reads a schema. -/
def read (room : Nat) (t : Tree) : Reading Schema :=
  match room with
  | 0 => refuse t
  | room + 1 =>
    (record room (fun t => read room t) (fun t => match room with
      | 0 => refuse t
      | room + 1 => read room t)).readInside t

/-- Reads a schema from its text. -/
def ofString (s : String) : Except Fault Schema :=
  (readString read s).result

end TypedClient.Schema
