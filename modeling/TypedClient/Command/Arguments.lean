import TypedClient.Client.Options
import TypedClient.Disk.Path
import TypedClient.Settings.Basic

/-!
The command line: which commands there are, which options each of them takes, and what a list of
arguments asks for. Arguments are read from left to right, and the first one that cannot be
understood, or asks for help, decides.
-/

namespace TypedClient

/-- What a command does with the client that it generates. -/
structure Target where
  output : Option Path
  sanitize : Bool
  jsonParams : Bool
  basePath : String
  deriving DecidableEq, Repr

/-- How a client is generated for a target. -/
def Target.options (t : Target) : Options where
  naming := if t.sanitize then .sanitized else .preserve
  params := if t.jsonParams then .jsonText else .structured
  basePath := t.basePath
  shared := .declared

/-- A command. -/
inductive Command where
  /-- Fetches a description and generates the client for it. -/
  | fetch (settings : Option Path) (target : Target)
  /-- Makes settings. -/
  | configure (settings : Option Path) (given : Draft)
  /-- Generates the client for a description in a file. -/
  | generate (input : Path) (target : Target)
  deriving DecidableEq, Repr

/-- What arguments ask for in place of a command. -/
inductive Refusal where
  | usage
  | help
  | version
  deriving DecidableEq, Repr

/-- What an option takes. -/
inductive Operand where
  | nothing
  | text
  /-- A text that is not empty. -/
  | path
  deriving DecidableEq, Repr

/-- An option: its name, its letter if it has one, and what it takes. -/
structure Switch where
  name : String
  letter : Option Char
  operand : Operand
  deriving DecidableEq, Repr

/-- The options found, with what they take. -/
abbrev Found : Type := List (String × String)

namespace Switch

/-- The options of all commands that generate a client. -/
def generation : List Switch := [
  ⟨"output", some 'o', .path⟩, ⟨"sanitize-names", none, .nothing⟩,
  ⟨"json-string-params", none, .nothing⟩, ⟨"base-path", none, .text⟩]

/-- The options where no command is named. -/
def root : List Switch :=
  ⟨"config", none, .path⟩ :: generation

/-- The options of the command that makes settings. -/
def configure : List Switch := [
  ⟨"config", none, .path⟩, ⟨"host", none, .text⟩, ⟨"project-id", none, .text⟩,
  ⟨"token", none, .text⟩, ⟨"api-version", none, .text⟩]

/-- The options of the command that generates from a file. -/
def generate : List Switch :=
  ⟨"input", some 'i', .path⟩ :: generation

end Switch

namespace Arguments

/-- Takes note of an option. None may be given twice, and a path may not be empty. -/
def note (s : Switch) (value : String) (found : Found) : Except Refusal Found :=
  if (found.lookup s.name).isSome ∨ (s.operand = .path ∧ value = "") then .error .usage
  else .ok (found ++ [(s.name, value)])

/-- Whether an argument can be what an option takes: a dash starts an option, unless it stands
alone. -/
def isValue (arg : String) : Bool :=
  match arg.toList with
  | '-' :: _ :: _ => false
  | _ => true

/-- An argument: a word, an option by its name with what is attached by an equals sign, options by
their letters, or the mark that no options follow. -/
inductive Shape where
  | word
  | named (name : String) (attached : Option String)
  | lettered (letter : Char) (rest : List Char)
  | mark
  deriving DecidableEq, Repr

/-- What an argument looks like. -/
def shape (arg : String) : Shape :=
  match arg.toList with
  | ['-', '-'] => .mark
  | '-' :: '-' :: cs =>
    .named (String.ofList (cs.takeWhile (· ≠ '=')))
      (match cs.dropWhile (· ≠ '=') with
        | [] => none
        | _ :: value => some (String.ofList value))
  | '-' :: c :: cs => .lettered c cs
  | _ => .word

/-- What follows a letter as what its option takes, without an equals sign in front. -/
def attachedTo : List Char → Option String
  | [] => none
  | '=' :: cs => some (String.ofList cs)
  | cs => some (String.ofList cs)

/-- Takes note of an option with what is attached to it. If nothing is, but the option takes
something, the option is left waiting for it. -/
def begin (s : Switch) (attached : Option String) (found : Found) :
    Except Refusal (Found × Option Switch) :=
  match s.operand, attached with
  | .nothing, none => do return (← note s "" found, none)
  | .nothing, some _ => .error .usage
  | _, some value => do return (← note s value found, none)
  | _, none => .ok (found, some s)

/-- Reads an option by its name. -/
def readNamed (switches : List Switch) (hasVersion : Bool) (name : String)
    (attached : Option String) (found : Found) : Except Refusal (Found × Option Switch) :=
  if name = "help" ∧ attached = none then .error .help
  else if name = "version" ∧ hasVersion ∧ attached = none then .error .version
  else match switches.find? (·.name = name) with
    | none => .error .usage
    | some s => begin s attached found

/-- Reads an option by its letter. -/
def readLettered (switches : List Switch) (hasVersion : Bool) (letter : Char) (rest : List Char)
    (found : Found) : Except Refusal (Found × Option Switch) :=
  if letter = 'h' then .error .help
  else if letter = 'V' ∧ hasVersion then .error .version
  else match switches.find? (·.letter = some letter) with
    | none => .error .usage
    | some s => begin s (attachedTo rest) found

/-- Reads an argument where an option may stand. Nothing may follow the mark that no options
follow: no command takes words. -/
def readOption (switches : List Switch) (hasVersion : Bool) (arg : String) (isLast : Bool)
    (found : Found) : Except Refusal (Found × Option Switch) :=
  match shape arg with
  | .word => .error .usage
  | .mark => if isLast then .ok (found, none) else .error .usage
  | .named name attached => readNamed switches hasVersion name attached found
  | .lettered letter rest => readLettered switches hasVersion letter rest found

/-- Reads the options of a command, of which one may be for its version. An option may wait for
what it takes: that is the next argument. -/
def scan (switches : List Switch) (hasVersion : Bool) (found : Found) :
    Option Switch → List String → Except Refusal Found
  | none, [] => .ok found
  | some _, [] => .error .usage
  | some waiting, arg :: args =>
    if isValue arg then
      match note waiting arg found with
      | .ok found => scan switches hasVersion found none args
      | .error e => .error e
    else .error .usage
  | none, arg :: args =>
    match readOption switches hasVersion arg args.isEmpty found with
    | .ok (found, waiting) => scan switches hasVersion found waiting args
    | .error e => .error e

/-- The target that options describe. -/
def target (found : Found) : Target where
  output := (found.lookup "output").map Path.ofString
  sanitize := (found.lookup "sanitize-names").isSome
  jsonParams := (found.lookup "json-string-params").isSome
  basePath := (found.lookup "base-path").getD defaultBasePath

/-- The file with settings that options name. -/
def settingsPath (found : Found) : Option Path :=
  (found.lookup "config").map Path.ofString

/-- The draft of settings that options describe. -/
def given (found : Found) : Draft :=
  ⟨found.lookup "host", found.lookup "project-id", found.lookup "token",
    found.lookup "api-version", none⟩

/-- The names of the commands. -/
def commandNames : List String := ["config", "generate", "help"]

/-- What arguments ask for. A command can be named only at the front. -/
def read : List String → Except Refusal Command
  | "config" :: args => do
    let found ← scan Switch.configure false [] none args
    return .configure (settingsPath found) (given found)
  | "generate" :: args => do
    let found ← scan Switch.generate false [] none args
    match found.lookup "input" with
    | some input => return .generate (Path.ofString input) (target found)
    | none => .error .usage
  | "help" :: topics =>
    match topics with
    | [] => .error .help
    | [topic] => .error (if commandNames.contains topic then .help else .usage)
    | _ => .error .usage
  | args => do
    let found ← scan Switch.root true [] none args
    return .fetch (settingsPath found) (target found)

end Arguments

end TypedClient
