/-!
Cutting a text at separators, and putting pieces together.
-/

namespace TypedClient.Text

/-- The runs of characters between separators, empty ones included: one more than there are
separators. -/
def pieces (isSeparator : Char → Bool) : List Char → List (List Char)
  | [] => [[]]
  | c :: cs =>
    if isSeparator c then [] :: pieces isSeparator cs
    else match pieces isSeparator cs with
      | [] => [[c]]
      | p :: ps => (c :: p) :: ps

/-- The nonempty runs of characters between separators. -/
def words (isSeparator : Char → Bool) (cs : List Char) : List (List Char) :=
  (pieces isSeparator cs).filter (· ≠ [])

/-- Drops a carriage return at the end. -/
def dropReturn (line : List Char) : List Char :=
  if line.getLast? = some '\r' then line.dropLast else line

/-- The lines of a text. A line ends with a line feed or with a carriage return and a line feed;
the last one may lack its end. -/
def lineList (cs : List Char) : List (List Char) :=
  let ps := pieces (· = '\n') cs
  match ps.getLast? with
  | none => []
  | some [] => ps.dropLast.map dropReturn
  | some unfinished => ps.dropLast.map dropReturn ++ [unfinished]

/-- The lines of a text. -/
def lines (s : String) : List String :=
  (lineList s.toList).map String.ofList

/-- The texts one after the other, with a separator between them. -/
def joined (separator : String) : List String → String
  | [] => ""
  | [s] => s
  | s :: ss => s ++ separator ++ joined separator ss

/-- The texts one after the other. -/
def concat : List String → String
  | [] => ""
  | s :: ss => s ++ concat ss

/-- What follows the last separator; the whole text if there is none. -/
def afterLast (separator : Char) (s : String) : String :=
  String.ofList (s.toList.reverse.takeWhile (· ≠ separator)).reverse

/-- The text without any of the given characters at its end. -/
def dropEnd (c : Char) (s : String) : String :=
  String.ofList (s.toList.reverse.dropWhile (· = c)).reverse

end TypedClient.Text
