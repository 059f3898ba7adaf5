import TypedClient.Json.Position
import TypedClient.Json.Number
import TypedClient.Text.Quoted

/-!
What can be wrong with a JSON text, where it is, and how that is said.
-/

namespace TypedClient.Json

open TypedClient.Text

/-- A value as a complaint about its kind shows it. -/
inductive Found where
  | null
  | flag (value : Bool)
  | number (value : Number)
  | text (value : String)
  | list
  | object
  deriving DecidableEq, Repr

/-- What is wrong. -/
inductive Cause where
  /-- The text ends where a value is due, or inside one that has no end of its own. -/
  | endInValue
  | endInObject
  | endInList
  | endInText
  | expectedValue
  | expectedWord
  | expectedColon
  | expectedCommaOrBrace
  | expectedCommaOrBracket
  | keyNotText
  | trailingComma
  | trailingCharacters
  | invalidNumber
  | numberOutOfRange
  | invalidEscape
  /-- No second escape follows the first half of a surrogate pair. -/
  | unfinishedPair
  | loneSurrogate
  | controlCharacter
  | tooDeep
  | wrongKind (found : Found) (expected : String)
  | missingMember (name : String)
  | repeatedMember (name : String)
  | unknownName (given : String) (known : List String)
  | wrongLength (length : Nat) (expected : String)
  deriving DecidableEq, Repr

/-- Something wrong at a place. -/
structure Fault where
  cause : Cause
  position : Position
  deriving DecidableEq, Repr

/-- A name between the marks that set it off in a message. -/
def ticked (s : String) : String :=
  "`" ++ s ++ "`"

/-- What was found, in words. -/
def Found.message : Found → String
  | .null => "null"
  | .flag value => "boolean " ++ ticked (if value then "true" else "false")
  | .number (.whole value) => "integer " ++ ticked (toString value)
  | .number value => "floating point " ++ ticked value.text
  | .text value => "string " ++ quoted value
  | .list => "sequence"
  | .object => "map"

/-- The names that would have done. -/
def choices : List String → String
  | [] => "there are no variants"
  | [a] => "expected " ++ ticked a
  | [a, b] => "expected " ++ ticked a ++ " or " ++ ticked b
  | names => "expected one of " ++ ", ".intercalate (names.map ticked)

/-- What is wrong, in words. -/
def Cause.message : Cause → String
  | .endInValue => "EOF while parsing a value"
  | .endInObject => "EOF while parsing an object"
  | .endInList => "EOF while parsing a list"
  | .endInText => "EOF while parsing a string"
  | .expectedValue => "expected value"
  | .expectedWord => "expected ident"
  | .expectedColon => "expected `:`"
  | .expectedCommaOrBrace => "expected `,` or `\x7d`"
  | .expectedCommaOrBracket => "expected `,` or `]`"
  | .keyNotText => "key must be a string"
  | .trailingComma => "trailing comma"
  | .trailingCharacters => "trailing characters"
  | .invalidNumber => "invalid number"
  | .numberOutOfRange => "number out of range"
  | .invalidEscape => "invalid escape"
  | .unfinishedPair => "unexpected end of hex escape"
  | .loneSurrogate => "lone leading surrogate in hex escape"
  | .controlCharacter => "control character (\\u0000-\\u001F) found while parsing a string"
  | .tooDeep => "recursion limit exceeded"
  | .wrongKind found expected => "invalid type: " ++ found.message ++ ", expected " ++ expected
  | .missingMember name => "missing field " ++ ticked name
  | .repeatedMember name => "duplicate field " ++ ticked name
  | .unknownName given known => "unknown variant " ++ ticked given ++ ", " ++ choices known
  | .wrongLength length expected =>
    "invalid length " ++ toString length ++ ", expected " ++ expected

/-- What is wrong and where, in words. -/
def Fault.message (f : Fault) : String :=
  f.cause.message ++ " at line " ++ toString f.position.line
    ++ " column " ++ toString f.position.column

end TypedClient.Json
