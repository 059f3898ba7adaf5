import TypedClient.Run.Basic
import TypedClient.Settings.Basic

/-!
Settings in a file: looking a draft up, reading settings, and saving them.
-/

namespace TypedClient

/-- What can be wrong with settings in a file. -/
inductive SettingsFault where
  | unreadable (path : Path) (fault : DiskFault)
  | malformed (path : Path) (fault : Json.Fault)
  | incomplete (missing : List RequiredPart)
  | unwritable (path : Path) (fault : DiskFault)
  deriving DecidableEq, Repr

/-- What is wrong with settings in a file, in words. -/
def SettingsFault.message : SettingsFault → String
  | .unreadable path e => "Failed to read config file " ++ path.text ++ ": " ++ e.message
  | .malformed path e => "Failed to parse config file " ++ path.text ++ ": " ++ e.message
  | .incomplete missing => Draft.incompleteMessage missing
  | .unwritable path e => "Failed to write config file " ++ path.text ++ ": " ++ e.message

namespace Event

/-- The module that reports on settings. -/
def settingsTarget : String := "a2i_common::config"

/-- There is no file with settings. -/
def settingsMissing (path : Path) : Event :=
  ⟨.debug, settingsTarget, "Config file not found.", [("path", .shown path.text)]⟩

/-- Settings were saved. -/
def settingsSaved (path : Path) : Event :=
  ⟨.debug, settingsTarget, "Config file written.", [("path", .shown path.text)]⟩

end Event

/-- The draft in a file; none if there is no such file. -/
def Draft.load (path : Path) : Run SettingsFault (Option Draft) := do
  if (← Run.disk).isThere path then
    let text ← (Run.readText path).blaming (.unreadable path)
    match Draft.ofString text with
    | .ok draft => return some draft
    | .error e => Run.fail (.malformed path e)
  else
    Run.log (Event.settingsMissing path)
    return none

/-- The settings that a draft gives, if it lacks nothing. -/
def Draft.demand (draft : Draft) : Run SettingsFault Settings :=
  match draft.complete with
  | .ok settings => Run.done settings
  | .error missing => Run.fail (.incomplete missing)

/-- The settings in a file; none if there is no such file. -/
def Settings.load (path : Path) : Run SettingsFault (Option Settings) := do
  match ← Draft.load path with
  | none => return none
  | some draft => return some (← draft.demand)

/-- Saves settings in a file, whatever was in it. The folder of the file is made if it is not
there. -/
def Settings.save (settings : Settings) (path : Path) : Run SettingsFault Unit := do
  match path.folder? with
  | none => pure ()
  | some folder => (Run.makeFolders folder).blaming (.unwritable folder)
  (Run.writeText path settings.text).blaming (.unwritable path)
  Run.log (Event.settingsSaved path)

end TypedClient
