/-!
Sets of code points, given by the places where membership changes.
-/

namespace TypedClient.Text

/-- A set of code points. The boundaries ascend; a code point belongs to the set iff an odd number
of them are at or below it. -/
structure CodePoints where
  boundaries : Array Nat

/-- Whether the character belongs to the set. -/
def CodePoints.has (s : CodePoints) (c : Char) : Bool :=
  s.boundaries.countP (· ≤ c.toNat) % 2 = 1

end TypedClient.Text
