import TypedClient.Document.Method
import TypedClient.Text.Alphanumeric
import TypedClient.Text.Pieces
import TypedClient.Text.Uppercase

/-!
The names of functions and types. All names of an operation come from its method and its path by
one rule, so they agree with each other.
-/

namespace TypedClient

open Text

/-- What a type says of an operation. -/
inductive TypeRole where
  | request
  | response
  | responseData
  deriving DecidableEq, Repr

/-- The end of the name of a type. -/
def TypeRole.suffix : TypeRole → String
  | .request => "Request"
  | .response => "Response"
  | .responseData => "ResponseData"

/-- What a name is for. -/
inductive NameRole where
  | function
  | type (role : TypeRole)
  deriving DecidableEq, Repr

/-- How the segments of a path go into a name. -/
inductive NamingStyle where
  /-- As they are, with a capital in front. -/
  | preserve
  /-- Their words, each with a capital in front. -/
  | sanitized
  deriving DecidableEq, Repr

namespace Naming

/-- The nonempty segments of a path. -/
def segments (path : String) : List (List Char) :=
  words (· = '/') path.toList

/-- Whether a character separates words of a segment. -/
def separatesWords (c : Char) : Bool :=
  c = '{' || c = '}' || c = '-' || c = '.' || c = '_'

/-- A segment with a capital in front, behind a brace if it begins with one. -/
def preserveSegment : List Char → List Char
  | '{' :: cs => '{' :: capitalizeList cs
  | cs => capitalizeList cs

/-- The words of a segment, each with a capital in front. -/
def sanitizeSegment (cs : List Char) : List Char :=
  (words separatesWords cs).flatMap capitalizeList

/-- A segment as it goes into a name. -/
def segmentName : NamingStyle → List Char → List Char
  | .preserve => preserveSegment
  | .sanitized => sanitizeSegment

/-- What a name begins with. -/
def front : NameRole → Method → String
  | .function, m => m.lower
  | .type _, m => m.capital

/-- What a name ends with. -/
def back : NameRole → String
  | .function => ""
  | .type role => role.suffix

/-- The part of a name that comes from the path. -/
def pathName (style : NamingStyle) (path : String) : List Char :=
  (segments path).flatMap (segmentName style)

/-- The name of something that belongs to an operation. -/
def derive (role : NameRole) (method : Method) (path : String) (style : NamingStyle) : String :=
  front role method ++ String.ofList (pathName style path) ++ back role

/-- A character that a type name can hold, or an underscore in its place. -/
def typeChar (c : Char) : Char :=
  if isAlphanumeric c || c = '_' || c = '$' then c else '_'

/-- The name of a shared schema made fit for a declaration: no character that could not stand in
a name, and no digit in front. -/
def typeName (raw : String) : String :=
  let cs := raw.toList.map typeChar
  match cs with
  | c :: _ => if isNumeral c then String.ofList ('_' :: cs) else String.ofList cs
  | [] => ""

end Naming

end TypedClient
