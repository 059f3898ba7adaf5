/-!
Reading characters from bytes that may not be valid UTF-8. Each longest run of bytes that could
still begin a character, but does not, counts as one invalid sequence.
-/

namespace TypedClient.Text

/-- What the first byte of a character says: how many bytes follow, in which range the next one
must lie, and which bits it gives. -/
structure LeadByte where
  more : Nat
  low : Nat
  high : Nat
  bits : Nat

/-- What a byte says as the first of a character that takes several. -/
def leadByte? (b : UInt8) : Option LeadByte :=
  let n := b.toNat
  if 0xC2 ≤ n ∧ n ≤ 0xDF then some ⟨1, 0x80, 0xBF, n - 0xC0⟩
  else if n = 0xE0 then some ⟨2, 0xA0, 0xBF, 0⟩
  else if n = 0xED then some ⟨2, 0x80, 0x9F, 0xD⟩
  else if 0xE1 ≤ n ∧ n ≤ 0xEF then some ⟨2, 0x80, 0xBF, n - 0xE0⟩
  else if n = 0xF0 then some ⟨3, 0x90, 0xBF, 0⟩
  else if n = 0xF4 then some ⟨3, 0x80, 0x8F, 4⟩
  else if 0xF1 ≤ n ∧ n ≤ 0xF3 then some ⟨3, 0x80, 0xBF, n - 0xF0⟩
  else none

/-- Takes the bytes that follow the first one: the code point, if they are all there, and the
rest. A byte out of range is left in the rest. -/
def takeTail : Nat → Nat → Nat → Nat → List UInt8 → Option Nat × List UInt8
  | 0, _, _, acc, bs => (some acc, bs)
  | _ + 1, _, _, _, [] => (none, [])
  | more + 1, low, high, acc, b :: bs =>
    if low ≤ b.toNat ∧ b.toNat ≤ high then
      takeTail more 0x80 0xBF (acc * 64 + (b.toNat - 0x80)) bs
    else (none, b :: bs)

theorem takeTail_length_le (more low high acc : Nat) (bs : List UInt8) :
    (takeTail more low high acc bs).2.length ≤ bs.length := by
  induction bs generalizing more low high acc with
  | nil => cases more <;> simp [takeTail]
  | cons b bs ih =>
    cases more with
    | zero => simp [takeTail]
    | succ more =>
      unfold takeTail
      split
      · exact Nat.le_succ_of_le (ih ..)
      · exact Nat.le_refl _

/-- The characters that the bytes stand for; none in place of each invalid sequence. -/
def utf8Chars (bs : List UInt8) : List (Option Char) :=
  match bs with
  | [] => []
  | b :: rest =>
    if b.toNat < 0x80 then some (Char.ofNat b.toNat) :: utf8Chars rest
    else match leadByte? b with
      | none => none :: utf8Chars rest
      | some lead =>
        have := takeTail_length_le lead.more lead.low lead.high lead.bits rest
        let tail := takeTail lead.more lead.low lead.high lead.bits rest
        tail.1.map Char.ofNat :: utf8Chars tail.2
termination_by bs.length

/-- Stands in a text for what could not be read. -/
def replacement : Char := Char.ofNat 0xFFFD

/-- The characters that the bytes stand for, with a mark in place of each invalid sequence. -/
def decodeUtf8 (bs : List UInt8) : List Char :=
  (utf8Chars bs).map (·.getD replacement)

/-- The characters that the bytes stand for, if all are valid. -/
def decodeUtf8? (bs : List UInt8) : Option (List Char) :=
  (utf8Chars bs).mapM id

/-- The bytes of characters. -/
def encodeUtf8 (cs : List Char) : List UInt8 :=
  cs.flatMap String.utf8EncodeChar

end TypedClient.Text
