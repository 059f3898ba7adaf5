/-!
Tables of characters. A row ends with its last character; a mark stands for each gap before.
-/

namespace TypedClient.Charset

/-- Rows of characters. -/
structure Table where
  rows : Array String

/-- The mark for a gap. -/
def gap : Char := Char.ofNat 0xFFFD

/-- The character in a place, if there is one. -/
def Table.at? (t : Table) (row column : Nat) : Option Char :=
  match (t.rows.getD row "").toList[column]? with
  | some c => if c = gap then none else some c
  | none => none

end TypedClient.Charset
