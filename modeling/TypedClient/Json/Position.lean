/-!
Places in a text, as they are told to whoever wrote it: lines count from one, columns count the
bytes of the line that lie before the place.
-/

namespace TypedClient.Json

/-- A place between two bytes of a text. -/
structure Position where
  line : Nat
  column : Nat
  deriving DecidableEq, Repr, Inhabited

namespace Position

/-- The place before the first byte. -/
def start : Position := ⟨1, 0⟩

/-- The place behind a character that begins at `p`. -/
def past (p : Position) (c : Char) : Position :=
  if c = '\n' then ⟨p.line + 1, 0⟩ else ⟨p.line, p.column + c.utf8Size⟩

/-- The place behind the first byte of a character that begins at `p`. -/
def pastFirstByte (p : Position) (c : Char) : Position :=
  if c = '\n' then ⟨p.line + 1, 0⟩ else ⟨p.line, p.column + 1⟩

/-- The place behind a whole run of characters. -/
def pastAll (p : Position) (cs : List Char) : Position :=
  cs.foldl past p

/-- The place behind the first `n` bytes of the characters, which may end inside one of them. -/
def pastBytes (p : Position) : Nat → List Char → Position
  | 0, _ => p
  | _, [] => p
  | n, c :: cs =>
    if c.utf8Size ≤ n then pastBytes (p.past c) (n - c.utf8Size) cs
    else ⟨p.line, p.column + n⟩

/-- Where a complaint about the next character is placed: behind its first byte, or at the end
of the text if there is none. -/
def peek (p : Position) : List Char → Position
  | [] => p
  | c :: _ => p.pastFirstByte c

end Position

/-- What is left of a text, and where that begins. -/
structure Cursor where
  rest : List Char
  position : Position
  deriving Inhabited

namespace Cursor

/-- A cursor in front of a whole text. -/
def ofString (s : String) : Cursor :=
  ⟨s.toList, .start⟩

/-- The four characters that may stand between tokens. -/
def isBlank (c : Char) : Bool :=
  c = ' ' || c = '\n' || c = '\t' || c = '\r'

/-- Passes over blanks. -/
def skipBlanksFrom : List Char → Position → Cursor
  | [], p => ⟨[], p⟩
  | c :: cs, p => if isBlank c then skipBlanksFrom cs (p.past c) else ⟨c :: cs, p⟩

/-- Passes over blanks. -/
def skipBlanks (cur : Cursor) : Cursor :=
  skipBlanksFrom cur.rest cur.position

theorem skipBlanksFrom_length_le (cs : List Char) (p : Position) :
    (skipBlanksFrom cs p).rest.length ≤ cs.length := by
  induction cs generalizing p with
  | nil => simp [skipBlanksFrom]
  | cons c cs ih =>
    unfold skipBlanksFrom
    split
    · exact Nat.le_succ_of_le (ih _)
    · exact Nat.le_refl _

theorem skipBlanks_length_le (cur : Cursor) : cur.skipBlanks.rest.length ≤ cur.rest.length :=
  skipBlanksFrom_length_le _ _

/-- Where a complaint about the next character is placed. -/
def peek (cur : Cursor) : Position :=
  cur.position.peek cur.rest

end Cursor

end TypedClient.Json
