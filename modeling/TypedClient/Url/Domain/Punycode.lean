/-!
Texts in ASCII for texts of any characters: the characters of ASCII come first, and a list of
numbers behind the last hyphen says which others stand where, in ascending order. A number is written in
digits of changing base, so that no mark is needed at its end; the bases follow the size of the
numbers before.
-/

namespace TypedClient.Url.Domain.Punycode

/-- The letter or decimal digit for a digit. -/
def digitChar (d : Nat) : Char :=
  if d < 26 then Char.ofNat ('a'.toNat + d) else Char.ofNat ('0'.toNat + (d - 26))

/-- The value of a digit. -/
def digitValue? (c : Char) : Option Nat :=
  if 'a' ≤ c ∧ c ≤ 'z' then some (c.toNat - 'a'.toNat)
  else if 'A' ≤ c ∧ c ≤ 'Z' then some (c.toNat - 'A'.toNat)
  else if '0' ≤ c ∧ c ≤ '9' then some (c.toNat - '0'.toNat + 26)
  else none

/-- A digit below the threshold of its place ends a number. -/
def threshold (bias place : Nat) : Nat :=
  if place ≤ bias then 1 else min 26 (place - bias)

theorem threshold_pos (bias place : Nat) : 0 < threshold bias place := by
  unfold threshold; split <;> omega

theorem threshold_le (bias place : Nat) : threshold bias place ≤ 26 := by
  unfold threshold; split <;> omega

/-- The first quotient by 35 that is not above 455, and how often 35 divides before it. -/
def reduce (n times : Nat) : Nat × Nat :=
  if 455 < n then reduce (n / 35) (times + 1) else (n, times)
termination_by n
decreasing_by exact Nat.div_lt_self (by omega) (by omega)

/-- The bias behind a number, which places one of so many characters. The first is mostly far
greater than others, so it counts for less. -/
def adapted (n size : Nat) (isFirst : Bool) : Nat :=
  let n := if isFirst then n / 700 else n / 2
  let (n, times) := reduce (n + n / size) 0
  36 * times + 36 * n / (n + 38)

/-- The bias in front of the first number. -/
def firstBias : Nat := 72

/-- The first character that is not in ASCII. -/
def firstOther : Nat := 128

/-! ### Writing -/

/-- The digits of a number. -/
def digits (bias place n : Nat) : List Char :=
  let t := threshold bias place
  if n < t then [digitChar n]
  else digitChar (t + (n - t) % (36 - t)) :: digits bias (place + 36) ((n - t) / (36 - t))
termination_by n
decreasing_by
  have := threshold_pos bias place
  exact Nat.lt_of_le_of_lt (Nat.div_le_self _ _) (by omega)

/-- Where writing is: the bias, how many characters are placed, and how many places were passed
since the last of them. -/
structure Writing where
  bias : Nat
  placed : Nat
  passed : Nat
  isFirst : Bool

/-- Writes where a character stands, with the text passed from its start on. -/
def writePlaces (n : Nat) (w : Writing) : List Char → Writing × List Char
  | [] => (w, [])
  | c :: cs =>
    if c.toNat < n then writePlaces n { w with passed := w.passed + 1 } cs
    else if c.toNat = n then
      let bias := adapted w.passed (w.placed + 1) w.isFirst
      let (w', rest) := writePlaces n ⟨bias, w.placed + 1, 0, false⟩ cs
      (w', digits w.bias 36 w.passed ++ rest)
    else writePlaces n w cs

/-- Writes where each of some characters stands, in ascending order from a character on. -/
def writeAll (cs : List Char) (w : Writing) (n : Nat) : List Nat → List Char
  | [] => []
  | m :: ms =>
    let (w, written) :=
      writePlaces m { w with passed := w.passed + (m - n) * (w.placed + 1) } cs
    written ++ writeAll cs { w with passed := w.passed + 1 } (m + 1) ms

/-- The text in ASCII. -/
def encode (cs : List Char) : List Char :=
  let plain := cs.filter (·.toNat < firstOther)
  let others := ((cs.map Char.toNat).filter (firstOther ≤ ·)).mergeSort.eraseReps
  plain ++ (if plain = [] then [] else ['-'])
    ++ writeAll cs ⟨firstBias, plain.length, 0, true⟩ firstOther others

/-! ### Reading -/

/-- No number, and no weight of a digit, reaches this. -/
def numberLimit : Nat := 4294967296

/-- Reads a number, given the sum and the weight of its digits so far. -/
def takeNumber? (bias place weight sum : Nat) : List Char → Option (Nat × List Char)
  | [] => none
  | c :: cs =>
    match digitValue? c with
    | none => none
    | some d =>
      let t := threshold bias place
      let sum := sum + d * weight
      if numberLimit ≤ sum ∨ numberLimit ≤ weight then none
      else if d < t then some (sum, cs)
      else takeNumber? bias (place + 36) (weight * (36 - t)) sum cs

theorem takeNumber?_length_lt {bias place weight sum n : Nat} {cs rest : List Char}
    (h : takeNumber? bias place weight sum cs = some (n, rest)) : rest.length < cs.length := by
  induction cs generalizing place weight sum with
  | nil => simp [takeNumber?] at h
  | cons c cs ih =>
    unfold takeNumber? at h
    split at h
    · simp at h
    · simp only at h
      split at h
      · simp at h
      · split at h
        · simp only [Option.some.injEq, Prod.mk.injEq] at h
          simp [h.2]
        · exact Nat.lt_succ_of_lt (ih h)

/-- The character with a number, if there is one. -/
def char? (n : Nat) : Option Char :=
  if h : n.isValidChar then some (Char.ofNatAux n h) else none

/-- Reads where characters stand and puts them there, from a character and a place on. -/
def readAll? (bias n place : Nat) (isFirst : Bool) (found cs : List Char) : Option (List Char) :=
  match cs with
  | [] => some found
  | c :: cs =>
    match h : takeNumber? bias 36 1 0 (c :: cs) with
    | none => none
    | some (passed, rest) =>
      have _shorter : rest.length < (c :: cs).length := takeNumber?_length_lt h
      let size := found.length + 1
      let n := n + (place + passed) / size
      let place := (place + passed) % size
      match char? n with
      | none => none
      | some d =>
        readAll? (adapted passed size isFirst) n (place + 1) false
          (found.take place ++ d :: found.drop place) rest
termination_by cs.length
decreasing_by exact takeNumber?_length_lt h

/-- The text that a text in ASCII stands for. -/
def decode? (cs : List Char) : Option (List Char) :=
  let rest := (cs.reverse.takeWhile (· ≠ '-')).reverse
  let plain := (cs.take (cs.length - rest.length)).dropLast
  if plain = [] then readAll? firstBias firstOther 0 true [] cs
  else readAll? firstBias firstOther 0 true plain rest

end TypedClient.Url.Domain.Punycode
