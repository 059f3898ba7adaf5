import TypedClient.Text.Pieces
import TypedClient.Text.Quoted

/-!
Events that a run reports about itself.
-/

namespace TypedClient

/-- How much an event matters, from the least to the most. -/
inductive Level where
  | trace
  | debug
  | info
  | warn
  | error
  deriving DecidableEq, Repr

namespace Level

/-- The name of a level. -/
def name : Level → String
  | .trace => "TRACE"
  | .debug => "DEBUG"
  | .info => "INFO"
  | .warn => "WARN"
  | .error => "ERROR"

/-- The place of a level in their order. -/
def rank : Level → Nat
  | .trace => 0
  | .debug => 1
  | .info => 2
  | .warn => 3
  | .error => 4

end Level

/-- A value in an event: shown as it is, or between quotes. -/
inductive FieldValue where
  | shown (text : String)
  | quoted (text : String)
  deriving DecidableEq, Repr

namespace FieldValue

/-- A number as it is shown. -/
def ofNat (n : Nat) : FieldValue :=
  .shown (toString n)

/-- A truth value as it is shown. -/
def ofBool (b : Bool) : FieldValue :=
  .shown (if b then "true" else "false")

/-- The bare text of a value. -/
def text : FieldValue → String
  | .shown s => s
  | .quoted s => s

/-- The value as a log line shows it. -/
def render : FieldValue → String
  | .shown s => s
  | .quoted s => Text.quoted s

end FieldValue

/-- An event: where it arose, what happened, and with which values. -/
structure Event where
  level : Level
  target : String
  message : String
  fields : List (String × FieldValue)
  deriving DecidableEq, Repr

/-- The message of an event with its values behind it. -/
def Event.text (e : Event) : String :=
  e.message ++ Text.concat (e.fields.map fun (name, value) => " " ++ name ++ "=" ++ value.render)

end TypedClient
