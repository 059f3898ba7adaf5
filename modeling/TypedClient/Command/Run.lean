import TypedClient.Client.Output
import TypedClient.Command.Arguments
import TypedClient.Settings.Interview

/-!
What the commands do. A run of a command leaves a disk, a journal and an exit code; what is seen on
standard output and at the terminal is read off the journal.
-/

namespace TypedClient

/-- What a command finds around it: the network, and the lines that are typed at the terminal, if
there is one. -/
structure Surroundings where
  network : Network
  typed : Option (List String)
  deriving DecidableEq, Repr

/-- Why a command failed. -/
inductive CommandFault where
  | settings (fault : SettingsFault)
  | setup (fault : SetupFault)
  | input (path : Path) (fault : DiskFault)
  | generation (fault : GenerationFault)
  deriving DecidableEq, Repr

/-- Why a command failed, in words. -/
def CommandFault.message : CommandFault → String
  | .settings e => e.message
  | .setup e => e.message
  | .input path e => "Failed to read " ++ path.text ++ ": " ++ e.message
  | .generation e => e.message

namespace Event

/-- A description is about to be read. -/
def readingDocument (path : Path) : Event :=
  ⟨.debug, "a2i_cli::commands::generate", "Reading OpenAPI document.",
    [("input", .shown path.text)]⟩

/-- Settings were made. -/
def settingsMade (s : Settings) : Event :=
  ⟨.debug, "a2i_cli::commands::config", "Config saved.",
    [("host", .shown s.host), ("project_id", .shown s.projectId)]⟩

end Event

/-- Where a client is written if nothing is said. -/
def defaultOutput : Path := Path.ofString "services/api.ts"

/-- Where settings are if nothing is said. -/
def defaultSettingsPath : Path := Path.ofString settingsFile

namespace Command

/-- Where the client for a target is written. -/
def outputPath (d : Disk) (t : Target) : Path :=
  d.absolute (t.output.getD defaultOutput)

/-- Where settings are. -/
def settingsPath (d : Disk) (given : Option Path) : Path :=
  d.absolute (given.getD defaultSettingsPath)

/-- What is shown if there is no file with settings. -/
def createNotice (path : Path) : String :=
  "! No config found at " ++ path.text ++ ". Let's create one.\n"

/-- What is shown if settings lack parts. -/
def completeNotice (missing : List RequiredPart) : String :=
  "! Config is missing " ++ Text.joined ", " (missing.map RequiredPart.name)
    ++ ". Let's fill it in.\n"

/-- What is shown if stored settings cannot be used. -/
def restartNotice (e : SettingsFault) : String :=
  "! " ++ e.message ++ ". Starting from a blank config.\n"

/-- The settings in a file. If there are none, or parts of them are missing, the person at the
terminal is asked. -/
def obtain (s : Surroundings) (path : Path) : Run CommandFault Settings := do
  match ← (Draft.load path).blaming .settings with
  | none =>
    Run.notify (createNotice path)
    (setUp .blank .blank path s.typed).blaming .setup
  | some draft =>
    if draft.missing = [] then draft.demand.blaming .settings
    else
      Run.notify (completeNotice draft.missing)
      (setUp draft draft path s.typed).blaming .setup

/-- The draft in a file to start from; a blank one if there is none, or none that can be read. -/
def startingDraft (path : Path) : Run CommandFault Draft :=
  fun d =>
    let o := (Draft.load path).on d
    match o.result with
    | .ok draft => ⟨o.disk, o.deeds, .ok (draft.getD .blank)⟩
    | .error e => ⟨o.disk, o.deeds ++ [.showed (restartNotice e)], .ok .blank⟩

/-- What a command does. -/
def body (s : Surroundings) : Command → Run CommandFault Unit
  | .fetch settings target => do
    let d ← Run.disk
    let found ← obtain s (settingsPath d settings)
    let report ← (fetchInto s.network found (outputPath d target) target.options).blaming
      .generation
    Run.say (.generated report.operations report.output)
  | .configure settings given => do
    let d ← Run.disk
    let path := settingsPath d settings
    let stored ← startingDraft path
    let made ← (setUp given stored path s.typed).blaming .setup
    Run.log (Event.settingsMade made)
  | .generate input target => do
    let d ← Run.disk
    let path := d.absolute input
    Run.log (Event.readingDocument path)
    let text ← (Run.readText path).blaming (.input path)
    let report ← (generateInto (outputPath d target) target.options text).blaming .generation
    Run.say (.generated report.operations report.output)

end Command

/-- What is left in the end: the disk, the journal and the exit code. -/
structure Ending where
  disk : Disk
  deeds : List Deed
  code : Nat

/-- What is shown of a fault. -/
def faultLine (message : String) : String :=
  "error: " ++ message ++ "\n"

/-- Runs a command to its end. A fault is shown, and gives the code 1. -/
def Command.run (s : Surroundings) (c : Command) (d : Disk) : Ending :=
  let o := (c.body s).on d
  match o.result with
  | .ok () => ⟨o.disk, o.deeds, 0⟩
  | .error e => ⟨o.disk, o.deeds ++ [.showed (faultLine e.message)], 1⟩

/-- What is shown if arguments cannot be understood. -/
def usageText : String :=
  "error: unexpected or missing argument\n\nFor more information, try '--help'.\n"

/-- Runs what arguments ask for. Arguments that cannot be understood give the code 2. -/
def runArguments (s : Surroundings) (args : List String) (d : Disk) : Ending :=
  match Arguments.read args with
  | .ok command => command.run s d
  | .error .help => ⟨d, [.said .help], 0⟩
  | .error .version => ⟨d, [.said .version], 0⟩
  | .error .usage => ⟨d, [.showed usageText], 2⟩

end TypedClient
