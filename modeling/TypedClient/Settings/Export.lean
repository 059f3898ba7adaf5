import TypedClient.Json.Read
import TypedClient.Text.Pieces
import TypedClient.Text.Quoted

/-!
What a service is asked to export: which part of a project, with what in it, in which version and
format. Everything has a standard choice.
-/

namespace TypedClient.Export

open Json

/-- Which part of a project is exported. -/
inductive ScopeKind where
  | all
  | endpoints
  | tags
  | folders
  deriving DecidableEq, Repr

/-- The part that is exported, less what has one of the tags. -/
structure Scope where
  kind : ScopeKind
  excludedTags : List String
  deriving DecidableEq, Repr

/-- What is put into the export besides. -/
structure Extras where
  extensionProperties : Bool
  foldersAsTags : Bool
  deriving DecidableEq, Repr

/-- The version of the description. -/
inductive Version where
  | v31
  | v30
  | v20
  deriving DecidableEq, Repr

/-- The format of the description. -/
inductive Format where
  | json
  | yaml
  deriving DecidableEq, Repr

/-- What a service is asked to export. -/
structure Request where
  scope : Scope
  extras : Extras
  version : Version
  format : Format
  deriving DecidableEq, Repr

/-- The standard choices. -/
def Request.standard : Request :=
  ⟨⟨.all, []⟩, ⟨false, false⟩, .v31, .json⟩

/-! ### Names -/

/-- The written names of the parts. -/
def ScopeKind.names : List (String × ScopeKind) :=
  [("ALL", .all), ("SELECTED_ENDPOINTS", .endpoints), ("SELECTED_TAGS", .tags),
    ("SELECTED_FOLDERS", .folders)]

/-- The written name of a part. -/
def ScopeKind.name : ScopeKind → String
  | .all => "ALL"
  | .endpoints => "SELECTED_ENDPOINTS"
  | .tags => "SELECTED_TAGS"
  | .folders => "SELECTED_FOLDERS"

/-- The written names of the versions. -/
def Version.names : List (String × Version) :=
  [("3.1", .v31), ("3.0", .v30), ("2.0", .v20)]

/-- The written name of a version. -/
def Version.name : Version → String
  | .v31 => "3.1"
  | .v30 => "3.0"
  | .v20 => "2.0"

/-- The written names of the formats. -/
def Format.names : List (String × Format) :=
  [("JSON", .json), ("YAML", .yaml)]

/-- The written name of a format. -/
def Format.name : Format → String
  | .json => "JSON"
  | .yaml => "YAML"

theorem ScopeKind.lookup_name (k : ScopeKind) : names.lookup k.name = some k := by
  cases k <;> decide

theorem Version.lookup_name (v : Version) : names.lookup v.name = some v := by
  cases v <;> decide

theorem Format.lookup_name (f : Format) : names.lookup f.name = some f := by
  cases f <;> decide

/-! ### Writing -/

namespace Request

/-- The request as a JSON value. -/
def toJson (r : Request) : Value :=
  .object [
    ("scope", .object [
      ("type", .text r.scope.kind.name),
      ("excludedByTags", .list (r.scope.excludedTags.map .text))]),
    ("options", .object [
      ("includeApifoxExtensionProperties", .flag r.extras.extensionProperties),
      ("addFoldersToTags", .flag r.extras.foldersAsTags)]),
    ("oasVersion", .text r.version.name),
    ("exportFormat", .text r.format.name)]

end Request

/-! ### Reading -/

/-- The members of a scope. -/
def Scope.record (room : Nat) : Record (Option ScopeKind × Option (List String)) Scope where
  name := "ExportScope"
  members := [
    { name := "type", given := (·.1.isSome), mayLack := true
      read := fun t s => do return (some (← t.readName ScopeKind.names room), s.2) },
    { name := "excludedByTags", given := (·.2.isSome), mayLack := true
      read := fun t s => do return (s.1, some (← t.readList Tree.readText room)) }]
  empty := (none, none)
  finish := fun s => .ok ⟨s.1.getD .all, s.2.getD []⟩

/-- The members of the extras. -/
def Extras.record (_room : Nat) : Record (Option Bool × Option Bool) Extras where
  name := "ExportOptions"
  members := [
    { name := "includeApifoxExtensionProperties", given := (·.1.isSome), mayLack := true
      read := fun t s => do return (some (← t.readFlag), s.2) },
    { name := "addFoldersToTags", given := (·.2.isSome), mayLack := true
      read := fun t s => do return (s.1, some (← t.readFlag)) }]
  empty := (none, none)
  finish := fun s => .ok ⟨s.1.getD false, s.2.getD false⟩

namespace Request

/-- What was read of a request. -/
structure Partial where
  scope : Option Scope
  extras : Option Extras
  version : Option Version
  format : Option Format

/-- The members of a request. -/
def record (room : Nat) : Record Partial Request where
  name := "ExportRequest"
  members := [
    { name := "scope", given := (·.scope.isSome), mayLack := true
      read := fun t s => do
        return { s with scope := some (← t.readRecord Scope.record room) } },
    { name := "options", given := (·.extras.isSome), mayLack := true
      read := fun t s => do
        return { s with extras := some (← t.readRecord Extras.record room) } },
    { name := "oasVersion", given := (·.version.isSome), mayLack := true
      read := fun t s => do
        return { s with version := some (← t.readName Version.names room) } },
    { name := "exportFormat", given := (·.format.isSome), mayLack := true
      read := fun t s => do
        return { s with format := some (← t.readName Format.names room) } }]
  empty := ⟨none, none, none, none⟩
  finish := fun s => .ok ⟨s.scope.getD standard.scope, s.extras.getD standard.extras,
    s.version.getD standard.version, s.format.getD standard.format⟩

/-- Reads a request. -/
def read : Nat → Tree → Reading Request :=
  Tree.readRecord record

end Request

/-! ### Describing -/

/-- A value with named parts, as a diagnostic shows it. -/
def described (name : String) (parts : List (String × String)) : String :=
  name ++ " \x7b " ++ Text.joined ", " (parts.map fun (n, v) => n ++ ": " ++ v) ++ " \x7d"

/-- A truth value as a diagnostic shows it. -/
def describedFlag (b : Bool) : String :=
  if b then "true" else "false"

/-- A part as a diagnostic shows it. -/
def ScopeKind.describe : ScopeKind → String
  | .all => "All"
  | .endpoints => "SelectedEndpoints"
  | .tags => "SelectedTags"
  | .folders => "SelectedFolders"

/-- A version as a diagnostic shows it. -/
def Version.describe : Version → String
  | .v31 => "V3_1"
  | .v30 => "V3_0"
  | .v20 => "V2_0"

/-- A format as a diagnostic shows it. -/
def Format.describe : Format → String
  | .json => "Json"
  | .yaml => "Yaml"

/-- A request as a diagnostic shows it. -/
def Request.describe (r : Request) : String :=
  described "ExportRequest" [
    ("scope", described "ExportScope" [
      ("scope_type", r.scope.kind.describe),
      ("excluded_by_tags",
        "[" ++ Text.joined ", " (r.scope.excludedTags.map Text.quoted) ++ "]")]),
    ("options", described "ExportOptions" [
      ("include_apifox_extension_properties", describedFlag r.extras.extensionProperties),
      ("add_folders_to_tags", describedFlag r.extras.foldersAsTags)]),
    ("oas_version", r.version.describe),
    ("export_format", r.format.describe)]

end TypedClient.Export
