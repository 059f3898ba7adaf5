/-!
Names and string literals of a script: what can stand bare, and how the rest is quoted.
-/

namespace TypedClient.Script

/-- Whether a character may begin a bare name. -/
def isNameStart (c : Char) : Bool :=
  c.isAlpha || c = '_' || c = '$'

/-- Whether a character may stand in a bare name behind its first. -/
def isNamePart (c : Char) : Bool :=
  c.isAlphanum || c = '_' || c = '$'

/-- Whether a name can be written without quotes. -/
def isBare (s : String) : Bool :=
  match s.toList with
  | [] => false
  | c :: cs => isNameStart c && cs.all isNamePart

/-- A character inside a literal: backslashes, the delimiter and line breaks are escaped. -/
def escapeChar (quote c : Char) : List Char :=
  if c = '\\' then ['\\', '\\']
  else if c = '\n' then ['\\', 'n']
  else if c = '\r' then ['\\', 'r']
  else if c = quote then ['\\', c]
  else [c]

/-- A string literal between the given quotes. -/
def literal (quote : Char) (s : String) : String :=
  String.ofList (quote :: s.toList.flatMap (escapeChar quote) ++ [quote])

/-- The key of a member of a type: bare if that is possible. -/
def memberKey (s : String) : String :=
  if isBare s then s else literal '"' s

/-- The key of a property of an object: bare if that is possible. -/
def propertyKey (s : String) : String :=
  if isBare s then s else literal '\'' s

end TypedClient.Script
