import TypedClient.Command.Run
import TypedClient.Log.Filter

/-!
The program as a whole: it sets up its log, starts, and runs what its arguments ask for. What is
seen of it is read off the journal.
-/

namespace TypedClient

open Text

/-- What a program finds when it starts. -/
structure Start where
  /-- What is set for the log. -/
  logSetting : Option String
  /-- Whether a log is set up already, which is then used. -/
  logReady : Bool
  /-- Whether no more files can be opened, which leaves nothing to start with. -/
  outOfFiles : Bool
  deriving DecidableEq, Repr

/-- What is shown while a log is set up: complaints about its setting, and about one before. -/
def Start.logNotice (s : Start) : String :=
  let complaints := (Filter.ofSetting s.logSetting).2
  if s.logReady then complaints ++ complaints ++ "Warning: tracing subscriber already initialized\n"
  else complaints

/-- What is shown if nothing can be started. -/
def startFault : String :=
  "Failed to start async runtime: Too many open files (os error 24)\n"

/-- Runs a program from its start to its end. -/
def runProgram (start : Start) (s : Surroundings) (args : List String) (d : Disk) : Ending :=
  let notices := if start.logNotice = "" then [] else [Deed.showed start.logNotice]
  if start.outOfFiles then ⟨d, notices ++ [.showed startFault], 1⟩
  else
    let e := runArguments s args d
    { e with deeds := notices ++ e.deeds }

/-- The version of the program. -/
def programVersion : String := "0.1.0"

/-- The help on the program. -/
def helpText : String :=
  "Generate a typed TypeScript API client from an Apifox project\n\n" ++
  "Usage: a2i [OPTIONS]\n" ++
  "       a2i config [OPTIONS]\n" ++
  "       a2i generate [OPTIONS] --input <FILE>\n\n" ++
  "Options:\n" ++
  "      --config <PATH>       Config file [default: ./a2i.config.json]\n" ++
  "  -o, --output <FILE>       Output file [default: services/api.ts]\n" ++
  "      --sanitize-names      Make derived names and schema names valid identifiers\n" ++
  "      --json-string-params  Send GET/DELETE params as a JSON string\n" ++
  "      --base-path <PATH>    Prefix for every request URL [default: /api]\n" ++
  "  -h, --help                Print help\n" ++
  "  -V, --version             Print version\n\n" ++
  "Options of config:\n" ++
  "      --host, --project-id, --token, --api-version <TEXT>\n\n" ++
  "Options of generate:\n" ++
  "  -i, --input <FILE>        OpenAPI JSON document to read\n"

/-- A time in milliseconds, as it is shown. -/
def elapsedText (ms : Nat) : String :=
  if ms < 1000 then toString ms ++ "ms"
  else toString (ms / 1000) ++ "s " ++ toString (ms % 1000) ++ "ms"

/-- A line as it is shown, with the time that the work behind it took. -/
def Line.render (elapsed : String) : Line → String
  | .saved path => "✓ Saved " ++ path.text ++ "\n"
  | .generated operations output =>
    "✓ Generated " ++ toString operations ++ " operation(s) into " ++ output.text ++ " ("
      ++ elapsed ++ ")\n"
  | .version => "a2i " ++ programVersion ++ "\n"
  | .help => helpText

namespace Deed

/-- The line that was said. -/
def line? : Deed → Option Line
  | .said l => some l
  | _ => none

/-- The text that was shown. -/
def shown? : Deed → Option String
  | .showed s => some s
  | _ => none

/-- The event that was reported. -/
def event? : Deed → Option Event
  | .logged e => some e
  | _ => none

/-- The request that arrived. -/
def call? : Deed → Option ExportCall
  | .asked c => some c
  | _ => none

end Deed

namespace Ending

/-- What was said on standard output, with the time that the work took. -/
def stdout (e : Ending) (elapsed : String) : String :=
  concat ((e.deeds.filterMap Deed.line?).map (Line.render elapsed))

/-- What was shown on standard error. -/
def stderr (e : Ending) : String :=
  concat (e.deeds.filterMap Deed.shown?)

/-- What was shown, in lines that are not empty. -/
def screen (e : Ending) : List String :=
  (words (fun c => c = '\n' || c = '\r') e.stderr.toList).map String.ofList

/-- The events reported. -/
def events (e : Ending) : List Event :=
  e.deeds.filterMap Deed.event?

/-- The request that arrived. -/
def call? (e : Ending) : Option ExportCall :=
  (e.deeds.filterMap Deed.call?).head?

/-- The time that the work took if a service takes the given time for an answer, and nothing else
takes any. -/
def elapsed (e : Ending) (delay : Nat) : Nat :=
  if e.call?.isSome then delay else 0

end Ending

end TypedClient
