import TypedClient.Settings.File
import TypedClient.Text.Blank
import TypedClient.Text.Pieces

/-!
Asking a person for settings. What is already given is not asked for; what was stored before is
offered as the answer to take.
-/

namespace TypedClient

open Text

/-- Why a question got no answer. -/
inductive PromptFault where
  /-- Nobody is there to ask. -/
  | noTerminal
  /-- The input ended in place of an answer. -/
  | endOfInput
  deriving DecidableEq, Repr

/-- Why a question got no answer, in words. -/
def PromptFault.message : PromptFault → String
  | .noTerminal => "IO error: not a terminal"
  | .endOfInput => "IO error: Reached end of file"

/-- A question. -/
structure Prompt where
  label : String
  /-- What an empty answer stands for; it is shown with the question. -/
  usual : Option String
  deriving DecidableEq, Repr

/-- A question whose answer is not shown. -/
structure SecretPrompt where
  label : String
  /-- What a blank answer stands for; without it there must be an answer. -/
  kept : Option String
  deriving DecidableEq, Repr

/-- What came of a question: what was shown meanwhile, what is still to be typed, and the answer. -/
structure Answered where
  shown : String
  rest : List String
  result : Except PromptFault String

/-- The same with something shown before. -/
def Answered.after (shown : String) (a : Answered) : Answered :=
  { a with shown := shown ++ a.shown }

/-- What is shown if an answer will not do. -/
def rejection : String := "error: A value is required\n"

/-- What arrives of a typed line: control characters are not text. -/
def typedText (line : String) : String :=
  String.ofList (line.toList.filter fun c => 0x20 ≤ c.toNat && c.toNat ≠ 0x7F)

namespace Prompt

/-- The question as it is put. -/
def question (p : Prompt) : String :=
  p.label ++ (match p.usual with
    | some value => " [" ++ value ++ "]: "
    | none => ": ")

/-- The question with its answer, as it is shown in the end. -/
def settled (p : Prompt) (answer : String) : String :=
  p.label ++ ": " ++ answer ++ "\n"

/-- Puts a question until an answer will do, or the input ends. -/
def ask (p : Prompt) : List String → Answered
  | [] => ⟨p.question, [], .error .endOfInput⟩
  | line :: lines =>
    let typed := typedText line
    let shown := p.question ++ typed ++ "\n"
    match if typed = "" then p.usual else some typed with
    | none => (p.ask lines).after shown
    | some answer =>
      if isBlankText answer then (p.ask lines).after (shown ++ rejection)
      else ⟨shown ++ p.settled answer, lines, .ok answer⟩

end Prompt

namespace SecretPrompt

/-- The question as it is put, the line ended by the answer. -/
def question (p : SecretPrompt) : String :=
  p.label ++ ": \n"

/-- The question with its answer, as it is shown in the end. -/
def settled (p : SecretPrompt) : String :=
  p.label ++ ": [hidden]\n"

/-- Puts a question until an answer will do, or the input ends. -/
def ask (p : SecretPrompt) : List String → Answered
  | [] =>
    match p.kept with
    | some kept => ⟨p.question ++ p.settled, [], .ok kept⟩
    | none => ⟨p.label ++ ": ", [], .error .endOfInput⟩
  | line :: lines =>
    match p.kept with
    | some kept =>
      ⟨p.question ++ p.settled, lines, .ok (if isBlankText line then kept else line)⟩
    | none =>
      if line = "" then (p.ask lines).after p.question
      else if isBlankText line then (p.ask lines).after (p.question ++ rejection)
      else ⟨p.question ++ p.settled, lines, .ok line⟩

end SecretPrompt

namespace RequiredPart

/-- What a part is called in a question. -/
def label : RequiredPart → String
  | .host => "Apifox host"
  | .projectId => "Apifox project id"
  | .token => "Apifox access token"
  | .apiVersion => "Apifox API version"

/-- What a part is called if it cannot be asked for. -/
def lowerLabel : RequiredPart → String
  | .host => "apifox host"
  | .projectId => "apifox project id"
  | .token => "access token"
  | .apiVersion => "apifox api version"

/-- The usual choice for a part. -/
def standard? : RequiredPart → Option String
  | .host => some defaultHost
  | .projectId => none
  | .token => none
  | .apiVersion => some defaultApiVersion

end RequiredPart

namespace Draft

/-- What a draft gives for a part, unless it is blank. -/
def present (d : Draft) (part : RequiredPart) : Option String :=
  (d.part part).filter fun s => !isBlankText s

/-- The draft with a part. -/
def set (d : Draft) (part : RequiredPart) (value : String) : Draft :=
  match part with
  | .host => { d with host := some value }
  | .projectId => { d with projectId := some value }
  | .token => { d with token := some value }
  | .apiVersion => { d with apiVersion := some value }

/-- What is added to the question for a token if there is one already. -/
def keepHint : String := " (leave empty to keep the current one)"

/-- Asks for a part that a draft may already have. -/
def ask (stored : Draft) (part : RequiredPart) (lines : List String) : Answered :=
  match part with
  | .token =>
    let kept := stored.present .token
    SecretPrompt.ask ⟨part.label ++ (if kept.isSome then keepHint else ""), kept⟩ lines
  | _ => Prompt.ask ⟨part.label, (stored.present part).or part.standard?⟩ lines

end Draft

/-- What came of asking for parts: what was shown meanwhile, and the draft; or which part got no
answer, and why. -/
structure Interviewed where
  shown : String
  result : Except (RequiredPart × PromptFault) Draft

/-- The same with something shown before. -/
def Interviewed.after (shown : String) (i : Interviewed) : Interviewed :=
  { i with shown := shown ++ i.shown }

/-- Fills parts into a draft, one after the other: what is given counts, without white space around
it; what is not given, or blank, is asked for. Without lines that could be typed there is no
terminal. -/
def interview (given stored : Draft) :
    List RequiredPart → Option (List String) → Draft → Interviewed
  | [], _, draft => ⟨"", .ok draft⟩
  | part :: parts, typed, draft =>
    match given.present part with
    | some value => interview given stored parts typed (draft.set part (trim value))
    | none =>
      match typed with
      | none => ⟨"", .error (part, .noTerminal)⟩
      | some lines =>
        let answered := stored.ask part lines
        match answered.result with
        | .error e => ⟨answered.shown, .error (part, e)⟩
        | .ok value =>
          (interview given stored parts (some answered.rest) (draft.set part value)).after
            answered.shown

/-- Why settings could not be made. -/
inductive SetupFault where
  | prompt (part : RequiredPart) (fault : PromptFault)
  | settings (fault : SettingsFault)
  deriving DecidableEq, Repr

/-- Why settings could not be made, in words. -/
def SetupFault.message : SetupFault → String
  | .prompt part e => "Failed to read " ++ part.lowerLabel ++ ": " ++ e.message
  | .settings e => e.message

/-- Makes settings from what is given, what was stored and what is typed, and saves them. The rest
of what was stored is kept. -/
def setUp (given stored : Draft) (path : Path) (typed : Option (List String)) :
    Run SetupFault Settings := do
  let interviewed := interview given stored RequiredPart.all typed stored
  Run.notify interviewed.shown
  match interviewed.result with
  | .error (part, e) => Run.fail (.prompt part e)
  | .ok draft =>
    let settings ← draft.demand.blaming .settings
    (settings.save path).blaming .settings
    Run.say (.saved path)
    return settings

end TypedClient
