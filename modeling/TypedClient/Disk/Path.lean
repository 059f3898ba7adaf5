import TypedClient.Text.Pieces

/-!
Paths as they are written. The pieces between slashes are kept as they are, empty ones and dots
included, so that a path is shown as it was given; what they lead to is for the disk to say.
-/

namespace TypedClient

open Text

/-- A path: whether it starts at the root, and the pieces between its slashes. -/
structure Path where
  rooted : Bool
  pieces : List String
  deriving DecidableEq, Repr

namespace Path

/-- Whether a character separates the pieces of a path. -/
def isSlash (c : Char) : Bool :=
  c = '/'

/-- The path in a text. -/
def ofString (s : String) : Path :=
  let split := fun cs : List Char => (Text.pieces isSlash cs).map String.ofList
  match s.toList with
  | '/' :: cs => ⟨true, split cs⟩
  | cs => ⟨false, split cs⟩

/-- The text of a path. -/
def text (p : Path) : String :=
  (if p.rooted then "/" else "") ++ joined "/" p.pieces

/-- The names on the way, in order. -/
def names (p : Path) : List String :=
  p.pieces.filter (· ≠ "")

/-- Whether a slash stands at the end. -/
def endsInSlash (p : Path) : Bool :=
  p.pieces.getLast? = some ""

/-- Drops the pieces at the end that lead nowhere. They come last one first. A dot at the very front
of a path without root stays: it is all there is to name the place. -/
def dropIdle (rooted : Bool) : List String → List String
  | [] => []
  | [p] => if p = "" ∨ (p = "." ∧ rooted) then [] else [p]
  | p :: q :: ps => if p = "" ∨ p = "." then dropIdle rooted (q :: ps) else p :: q :: ps

theorem dropIdle_length_le (rooted : Bool) (ps : List String) :
    (dropIdle rooted ps).length ≤ ps.length := by
  induction ps with
  | nil => simp [dropIdle]
  | cons p ps ih =>
    cases ps with
    | nil => unfold dropIdle; split <;> simp
    | cons q ps =>
      unfold dropIdle
      split
      · exact Nat.le_succ_of_le ih
      · exact Nat.le_refl _

/-- The path without its last name; none if there is no name in it. -/
def parent? (p : Path) : Option Path :=
  match dropIdle p.rooted p.pieces.reverse with
  | [] => none
  | _ :: rest => some ⟨p.rooted, (dropIdle p.rooted rest).reverse⟩

theorem parent?_length_lt {p q : Path} (h : p.parent? = some q) :
    q.pieces.length < p.pieces.length := by
  unfold parent? at h
  have hle := dropIdle_length_le p.rooted p.pieces.reverse
  split at h
  · cases h
  · next last rest hrest =>
    cases h
    have := dropIdle_length_le p.rooted rest
    simp only [hrest, List.length_cons, List.length_reverse] at hle ⊢
    omega

/-- The folder that a path lies in; none if nothing is written in front of its last name. -/
def folder? (p : Path) : Option Path :=
  p.parent?.filter fun q => q.text ≠ ""

/-- A path as seen from another: unless it starts at the root, the other one goes in front. -/
def join (p q : Path) : Path :=
  if q.rooted then q
  else ⟨p.rooted, (if p.endsInSlash then p.pieces.dropLast else p.pieces) ++ q.pieces⟩

end Path

end TypedClient
