import TypedClient.Text.Pieces
import TypedClient.Url.Percent

/-!
Numeric host addresses: four bytes as one to four numbers, and eight 16-bit groups of which one
run of zeros may be left out.
-/

namespace TypedClient.Url

open Text

/-! ### Four bytes -/

/-- A number in an address, and whether it fits into 32 bits. A zero in front makes it octal, a
zero and an x hexadecimal. -/
inductive AddressNumber where
  | notANumber
  | tooLarge
  | number (n : Nat)
  deriving DecidableEq, Repr

/-- The value of digits in a base, if all are such. -/
def digitsValue? (base : Nat) (cs : List Char) : Option Nat :=
  cs.foldlM (fun n c => match hexDigitValue? c with
    | some d => if d < base then some (n * base + d) else none
    | none => none) 0

/-- Digits in a base as a number in an address. -/
def AddressNumber.ofDigits (base : Nat) (cs : List Char) : AddressNumber :=
  match digitsValue? base cs with
  | none => .notANumber
  | some n => if n < Nat.pow 2 32 then .number n else .tooLarge

/-- A number in an address. -/
def AddressNumber.ofChars (cs : List Char) : AddressNumber :=
  match cs with
  | [] => .notANumber
  | '0' :: 'x' :: ds => .ofDigits 16 ds
  | '0' :: 'X' :: ds => .ofDigits 16 ds
  | ['0'] => .number 0
  | '0' :: ds => .ofDigits 8 ds
  | ds => .ofDigits 10 ds

/-- The parts between dots, without an empty one at the end. -/
def addressParts (cs : List Char) : List (List Char) :=
  let ps := pieces (· = '.') cs
  if ps.getLast? = some [] then ps.dropLast else ps

/-- Whether the last part is a number, so that the whole must be an address. -/
def endsInNumber (cs : List Char) : Bool :=
  match (addressParts cs).getLast? with
  | none => false
  | some last => (last ≠ [] && last.all Char.isDigit) || AddressNumber.ofChars last ≠ .notANumber

/-- The value of an address of four bytes. The last number fills all bytes that are left. -/
def addressV4? (cs : List Char) : Option Nat := do
  let parts := addressParts cs
  if parts.length > 4 then none
  else
    let numbers ← parts.mapM fun p => match AddressNumber.ofChars p with
      | .number n => some n
      | _ => none
    let last ← numbers.getLast?
    let front := numbers.dropLast
    if last < Nat.pow 256 (4 - front.length) ∧ front.all (· ≤ 255) then
      some (last + ((List.range front.length).zip front).foldl
        (fun sum (i, n) => sum + n * Nat.pow 256 (3 - i)) 0)
    else none

/-- An address of four bytes in writing. -/
def renderV4 (n : Nat) : String :=
  joined "." ([3, 2, 1, 0].map fun i => toString (n / Nat.pow 256 i % 256))

/-! ### Eight groups -/

/-- Groups read so far, and how many of them stand in front of the zeros left out. -/
structure Groups where
  groups : List Nat
  gap : Option Nat

/-- A byte in decimal digits, without a zero in front. -/
def byteValue? (cs : List Char) : Option Nat :=
  match cs with
  | [] => none
  | '0' :: _ :: _ => none
  | _ => if cs.all Char.isDigit then
      match digitsValue? 10 cs with
      | some n => if n ≤ 255 then some n else none
      | none => none
    else none

/-- Two groups written as four bytes. -/
def tailGroups? (cs : List Char) : Option (List Nat) :=
  match (pieces (· = '.') cs).mapM byteValue? with
  | some [a, b, c, d] => some [a * 256 + b, c * 256 + d]
  | _ => none

/-- A group of one to four hexadecimal digits. -/
def groupValue? (cs : List Char) : Option Nat :=
  if cs.length ≤ 4 ∧ cs ≠ [] then digitsValue? 16 cs else none

/-- Groups between colons. Only the last may be written as bytes. -/
def groupList? : List (List Char) → Option (List Nat)
  | [] => some []
  | [p] => if p.contains '.' then tailGroups? p else (groupValue? p).map ([·])
  | p :: ps => do return (← groupValue? p) :: (← groupList? ps)

/-- The groups of a part of an address in which nothing is left out; it may be empty. -/
def side? (cs : List Char) : Option (List Nat) :=
  if cs = [] then some [] else groupList? (pieces (· = ':') cs)

/-- What stands in front of the first pair of colons, and what behind it. -/
def splitGap : List Char → Option (List Char × List Char)
  | ':' :: ':' :: cs => some ([], cs)
  | c :: cs => (splitGap cs).map fun (a, b) => (c :: a, b)
  | [] => none

/-- The eight groups of an address. A pair of colons stands for one zero group at least. -/
def addressV6? (cs : List Char) : Option (List Nat) :=
  match splitGap cs with
  | none => do
    let gs ← side? cs
    if gs.length = 8 then some gs else none
  | some (a, b) => do
    if a.contains '.' then none
    else
      let front ← side? a
      let back ← side? b
      if front.length + back.length < 8 then
        some (front ++ List.replicate (8 - front.length - back.length) 0 ++ back)
      else none

/-- How many zeros a list begins with. -/
def leadingZeros (gs : List Nat) : Nat :=
  (gs.takeWhile (· = 0)).length

/-- Start and length of the longest run of zeros, of two at least; the first of several. -/
def longestZeros (gs : List Nat) : Option (Nat × Nat) :=
  let runs := (List.range gs.length).map fun i => (i, leadingZeros (gs.drop i))
  runs.foldl (fun best (i, n) =>
    if n ≥ 2 ∧ n > (best.map (·.2)).getD 0 then some (i, n) else best) none

/-- Groups in hexadecimal digits with colons between them. -/
def renderGroups (gs : List Nat) : String :=
  joined ":" (gs.map fun g => String.ofList (Nat.toDigits 16 g))

/-- An address of eight groups in writing, with its longest run of zeros left out. -/
def renderV6 (gs : List Nat) : String :=
  match longestZeros gs with
  | none => renderGroups gs
  | some (start, length) =>
    renderGroups (gs.take start) ++ "::" ++ renderGroups (gs.drop (start + length))

end TypedClient.Url
