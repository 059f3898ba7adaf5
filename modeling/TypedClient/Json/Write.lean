import TypedClient.Json.Value

/-!
Writing a value as JSON text. A layout says which blanks go between the tokens.
-/

namespace TypedClient.Json

/-- The blanks between tokens: in front of what stands a number of levels deep on a line of its
own, and behind the colon of a member. -/
structure Layout where
  line : Nat → List Char
  colon : List Char

namespace Layout

/-- No blanks. -/
def compact : Layout := ⟨fun _ => [], []⟩

/-- Every item and member on a line of its own, two spaces further in for each level. -/
def indented : Layout := ⟨fun level => '\n' :: List.replicate (2 * level) ' ', [' ']⟩

end Layout

/-- A hexadecimal digit. -/
def hexDigit (n : Nat) : Char :=
  if n < 10 then Char.ofNat ('0'.toNat + n) else Char.ofNat ('a'.toNat + (n - 10))

/-- A character inside a quoted text: quotes, backslashes and controls are escaped. -/
def writeChar (c : Char) : List Char :=
  if c = '"' then ['\\', '"']
  else if c = '\\' then ['\\', '\\']
  else if c = '\x08' then ['\\', 'b']
  else if c = '\x0c' then ['\\', 'f']
  else if c = '\n' then ['\\', 'n']
  else if c = '\r' then ['\\', 'r']
  else if c = '\t' then ['\\', 't']
  else if c.toNat < 0x20 then
    ['\\', 'u', '0', '0', hexDigit (c.toNat / 16), hexDigit (c.toNat % 16)]
  else [c]

/-- A quoted text. -/
def writeText (s : String) : List Char :=
  '"' :: s.toList.flatMap writeChar ++ ['"']

namespace Value

mutual

/-- The characters of a value that stands at a level. -/
def write (layout : Layout) (level : Nat) : Value → List Char
  | .null => ['n', 'u', 'l', 'l']
  | .flag true => ['t', 'r', 'u', 'e']
  | .flag false => ['f', 'a', 'l', 's', 'e']
  | .number n => n.text.toList
  | .text s => writeText s
  | .list [] => ['[', ']']
  | .list (v :: vs) =>
    '[' :: layout.line (level + 1) ++ v.write layout (level + 1)
      ++ writeItems layout (level + 1) vs ++ layout.line level ++ [']']
  | .object [] => ['{', '}']
  | .object ((name, v) :: ms) =>
    '{' :: layout.line (level + 1) ++ writeText name ++ ':' :: layout.colon
      ++ v.write layout (level + 1) ++ writeMembers layout (level + 1) ms
      ++ layout.line level ++ ['}']

/-- The characters of further items, each with a comma in front. -/
def writeItems (layout : Layout) (level : Nat) : List Value → List Char
  | [] => []
  | v :: vs => ',' :: layout.line level ++ v.write layout level ++ writeItems layout level vs

/-- The characters of further members, each with a comma in front. -/
def writeMembers (layout : Layout) (level : Nat) : List (String × Value) → List Char
  | [] => []
  | (name, v) :: ms =>
    ',' :: layout.line level ++ writeText name ++ ':' :: layout.colon ++ v.write layout level
      ++ writeMembers layout level ms

end

/-- The text of a value. -/
def render (layout : Layout) (v : Value) : String :=
  String.ofList (v.write layout 0)

end Value

end TypedClient.Json
