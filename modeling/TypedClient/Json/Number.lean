import TypedClient.Json.Double

/-!
Numbers as JSON text writes them. A number keeps as many leading digits as fit into 64 bits;
the rest only move its decimal point.
-/

namespace TypedClient.Json

/-- A number that was read: a whole number that fits into 64 bits, or a decimal
`± significand · 10 ^ exponent`. -/
inductive Number where
  | whole (value : Int)
  | decimal (negative : Bool) (significand : Nat) (exponent : Int)
  deriving DecidableEq, Repr, Inhabited

namespace Number

/-- The value of a decimal digit. -/
def digit (c : Char) : Nat :=
  c.toNat - '0'.toNat

/-- The largest significand that is kept. -/
def significandLimit : Nat := Nat.pow 2 64 - 1

/-- The largest exponent that may be written. -/
def exponentLimit : Nat := Nat.pow 2 31 - 1

/-- Takes the digits of a whole part into a significand for as long as it stays below the limit;
the second component counts the digits that no longer fit. -/
def takeWhole : Nat → List Char → Nat × Nat
  | s, [] => (s, 0)
  | s, c :: cs =>
    if s * 10 + digit c ≤ significandLimit then takeWhole (s * 10 + digit c) cs
    else (s, cs.length + 1)

/-- Takes fraction digits into a significand; the second component counts those taken, and the
first that does not fit ends the count. -/
def takeFraction : Nat → List Char → Nat × Nat
  | s, [] => (s, 0)
  | s, c :: cs =>
    if s * 10 + digit c ≤ significandLimit then
      let (s, taken) := takeFraction (s * 10 + digit c) cs
      (s, taken + 1)
    else (s, 0)

/-- How much of a run of exponent digits can be taken: their value, or, if they pass the limit,
how many had been looked at by then. -/
def takeExponent : Nat → Nat → List Char → Except Nat Nat
  | e, _, [] => .ok e
  | e, seen, c :: cs =>
    if e * 10 + digit c ≤ exponentLimit then takeExponent (e * 10 + digit c) (seen + 1) cs
    else .error (seen + 1)

/-- A number without fraction and exponent. Zero with a sign is a decimal, for a whole number
has no negative zero; so is what does not fit into 64 bits. -/
def ofWhole (negative : Bool) (significand dropped : Nat) : Number :=
  if dropped ≠ 0 then .decimal negative significand dropped
  else if negative = false then .whole significand
  else if significand ≠ 0 ∧ significand ≤ Nat.pow 2 63 then .whole (-significand)
  else .decimal true significand 0

/-- Whether the number lies in the range of a double. -/
def inRange : Number → Bool
  | .whole _ => true
  | .decimal _ significand exponent => (Double.ofDecimal significand exponent).isSome

/-- The text of a number: a whole number in decimal digits, any other as a double. -/
def text : Number → String
  | .whole value => toString value
  | .decimal negative significand exponent =>
    match Double.ofDecimal significand exponent with
    | some d => (if negative then "-" else "") ++ d.text
    | none => ""

end Number

end TypedClient.Json
