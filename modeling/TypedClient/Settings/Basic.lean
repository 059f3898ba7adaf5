import TypedClient.Json.Write
import TypedClient.Settings.Export
import TypedClient.Text.Blank

/-!
The settings of a project: where its description is exported from, with which rights, and what is
asked for. A draft of settings may still lack parts.
-/

namespace TypedClient

open Json

/-- The settings of a project. -/
structure Settings where
  host : String
  projectId : String
  token : String
  apiVersion : String
  request : Export.Request
  deriving DecidableEq, Repr

/-- Settings that may lack parts. -/
structure Draft where
  host : Option String
  projectId : Option String
  token : Option String
  apiVersion : Option String
  request : Option Export.Request
  deriving DecidableEq, Repr

/-- The parts of settings that have no standard choice. -/
inductive RequiredPart where
  | host
  | projectId
  | token
  | apiVersion
  deriving DecidableEq, Repr

namespace RequiredPart

/-- The parts in the order in which they are written. -/
def all : List RequiredPart := [.host, .projectId, .token, .apiVersion]

/-- The name under which a part is written. -/
def name : RequiredPart → String
  | .host => "apifoxHost"
  | .projectId => "projectId"
  | .token => "accessToken"
  | .apiVersion => "version"

end RequiredPart

/-- The host where none is given. -/
def defaultHost : String := "https://api.apifox.com"

/-- The version of the service where none is given. -/
def defaultApiVersion : String := "2024-03-28"

/-- The name of the file that holds settings. -/
def settingsFile : String := "a2i.config.json"

namespace Draft

/-- Nothing given yet. -/
def blank : Draft :=
  ⟨none, none, none, none, none⟩

/-- What a draft gives for a part. -/
def part (d : Draft) : RequiredPart → Option String
  | .host => d.host
  | .projectId => d.projectId
  | .token => d.token
  | .apiVersion => d.apiVersion

/-- The parts that are not given, or blank. -/
def missing (d : Draft) : List RequiredPart :=
  RequiredPart.all.filter fun p => Text.isBlankText ((d.part p).getD "")

/-- What is said of a draft that lacks parts. -/
def incompleteMessage (missing : List RequiredPart) : String :=
  "Config is missing required fields: " ++ Text.joined ", " (missing.map RequiredPart.name)

/-- The settings that a draft gives, without white space around the parts. -/
def complete (d : Draft) : Except (List RequiredPart) Settings :=
  if d.missing = [] then
    .ok ⟨Text.trim (d.host.getD ""), Text.trim (d.projectId.getD ""),
      Text.trim (d.token.getD ""), Text.trim (d.apiVersion.getD ""),
      d.request.getD .standard⟩
  else .error d.missing

end Draft

namespace Settings

/-- Settings as a JSON value. -/
def toJson (s : Settings) : Value :=
  .object [
    (RequiredPart.host.name, .text s.host),
    (RequiredPart.projectId.name, .text s.projectId),
    (RequiredPart.token.name, .text s.token),
    (RequiredPart.apiVersion.name, .text s.apiVersion),
    ("requestBody", s.request.toJson)]

/-- Settings as they are saved. -/
def text (s : Settings) : String :=
  s.toJson.render .indented

/-- What is asked for, as it is sent. -/
def requestText (s : Settings) : String :=
  s.request.toJson.render .compact

/-- Settings as a diagnostic shows them. The token is kept back. -/
def describe (s : Settings) : String :=
  Export.described "A2iConfig" [
    ("apifox_host", Text.quoted s.host),
    ("project_id", Text.quoted s.projectId),
    ("access_token", Text.quoted "<redacted>"),
    ("version", Text.quoted s.apiVersion),
    ("request_body", s.request.describe)]

/-- What was read of settings. -/
structure Partial where
  host : Option String
  projectId : Option String
  token : Option String
  apiVersion : Option String
  request : Option Export.Request

/-- The members of settings. -/
def record (room : Nat) : Record Partial Settings where
  name := "A2iConfig"
  members := [
    { name := RequiredPart.host.name, given := (·.host.isSome), mayLack := false
      read := fun t s => do return { s with host := some (← t.readText) } },
    { name := RequiredPart.projectId.name, given := (·.projectId.isSome), mayLack := false
      read := fun t s => do return { s with projectId := some (← t.readText) } },
    { name := RequiredPart.token.name, given := (·.token.isSome), mayLack := false
      read := fun t s => do return { s with token := some (← t.readText) } },
    { name := RequiredPart.apiVersion.name, given := (·.apiVersion.isSome), mayLack := false
      read := fun t s => do return { s with apiVersion := some (← t.readText) } },
    { name := "requestBody", given := (·.request.isSome), mayLack := true
      read := fun t s => do
        return { s with request := some (← Export.Request.read room t) } }]
  empty := ⟨none, none, none, none, none⟩
  finish := fun s =>
    match s.host, s.projectId, s.token, s.apiVersion with
    | none, _, _, _ => .error RequiredPart.host.name
    | _, none, _, _ => .error RequiredPart.projectId.name
    | _, _, none, _ => .error RequiredPart.token.name
    | _, _, _, none => .error RequiredPart.apiVersion.name
    | some h, some p, some t, some v => .ok ⟨h, p, t, v, s.request.getD .standard⟩

/-- Reads settings of which every required part must be there. -/
def ofString (s : String) : Except Fault Settings :=
  (readString (Tree.readRecord record) s).result

end Settings

namespace Draft

/-- What was read of a draft: for each part whether it was there, and what it was. -/
structure Partial where
  host : Option (Option String)
  projectId : Option (Option String)
  token : Option (Option String)
  apiVersion : Option (Option String)
  request : Option (Option Export.Request)

/-- The members of a draft. -/
def record (room : Nat) : Record Partial Draft where
  name := "ConfigDraft"
  members := [
    { name := RequiredPart.host.name, given := (·.host.isSome), mayLack := false
      read := fun t s => do return { s with host := some (← t.readOptional Tree.readText) } },
    { name := RequiredPart.projectId.name, given := (·.projectId.isSome), mayLack := false
      read := fun t s => do return { s with projectId := some (← t.readOptional Tree.readText) } },
    { name := RequiredPart.token.name, given := (·.token.isSome), mayLack := false
      read := fun t s => do return { s with token := some (← t.readOptional Tree.readText) } },
    { name := RequiredPart.apiVersion.name, given := (·.apiVersion.isSome), mayLack := false
      read := fun t s => do return { s with apiVersion := some (← t.readOptional Tree.readText) } },
    { name := "requestBody", given := (·.request.isSome), mayLack := true
      read := fun t s => do
        return { s with request := some (← t.readOptional (Export.Request.read room)) } }]
  empty := ⟨none, none, none, none, none⟩
  finish := fun s => .ok ⟨s.host.join, s.projectId.join, s.token.join, s.apiVersion.join,
    s.request.join⟩

/-- Reads a draft. -/
def ofString (s : String) : Except Fault Draft :=
  (readString (Tree.readRecord record) s).result

end Draft

end TypedClient
