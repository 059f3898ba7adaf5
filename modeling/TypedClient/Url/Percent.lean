import TypedClient.Text.Utf8

/-!
Percent encoding: a byte is written as a percent sign and two hexadecimal digits. Each part of an
address has its own set of characters that are written so; control and non-ASCII characters are
in all of them.
-/

namespace TypedClient.Url

open Text

/-- A part of an address, as far as encoding differs. -/
inductive Part where
  | opaquePath
  | fragment
  | path
  | query
  | specialQuery
  | userinfo
  deriving DecidableEq, Repr

/-- The printable characters that are encoded in a part. -/
def Part.encoded : Part → List Char
  | .opaquePath => []
  | .fragment => [' ', '"', '<', '>', '`']
  | .path => [' ', '"', '<', '>', '`', '#', '?', '{', '}']
  | .query => [' ', '"', '#', '<', '>']
  | .specialQuery => [' ', '"', '#', '<', '>', '\'']
  | .userinfo => [' ', '"', '<', '>', '`', '#', '?', '{', '}', '/', ':', ';', '=', '@', '[', '\\',
    ']', '^', '|']

/-- Whether a character is encoded in a part. -/
def Part.encodes (p : Part) (c : Char) : Bool :=
  c.toNat < 0x20 || 0x7F ≤ c.toNat || p.encoded.contains c

/-- A hexadecimal digit in upper case. -/
def upperHexDigit (n : Nat) : Char :=
  if n < 10 then Char.ofNat ('0'.toNat + n) else Char.ofNat ('A'.toNat + (n - 10))

/-- An encoded byte. -/
def percentByte (b : UInt8) : List Char :=
  ['%', upperHexDigit (b.toNat / 16), upperHexDigit (b.toNat % 16)]

/-- Characters as they are written in a part. -/
def percentEncode (p : Part) (cs : List Char) : List Char :=
  cs.flatMap fun c => if p.encodes c then (String.utf8EncodeChar c).flatMap percentByte else [c]

/-- The value of a hexadecimal digit. -/
def hexDigitValue? (c : Char) : Option Nat :=
  if '0' ≤ c ∧ c ≤ '9' then some (c.toNat - '0'.toNat)
  else if 'a' ≤ c ∧ c ≤ 'f' then some (c.toNat - 'a'.toNat + 10)
  else if 'A' ≤ c ∧ c ≤ 'F' then some (c.toNat - 'A'.toNat + 10)
  else none

/-- The bytes that characters stand for. A percent sign without two digits behind it stands for
itself. -/
def percentDecode : List Char → List UInt8
  | [] => []
  | '%' :: a :: b :: cs =>
    match hexDigitValue? a, hexDigitValue? b with
    | some m, some n => UInt8.ofNat (m * 16 + n) :: percentDecode cs
    | _, _ => '%'.toNat.toUInt8 :: percentDecode (a :: b :: cs)
  | c :: cs => String.utf8EncodeChar c ++ percentDecode cs

end TypedClient.Url
