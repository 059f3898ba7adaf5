import TypedClient.Url.Domain.Composition
import TypedClient.Url.Domain.Direction
import TypedClient.Url.Domain.Joining
import TypedClient.Url.Domain.Punycode
import TypedClient.Url.Domain.Replacement

/-!
Domain names in the form in which they are looked up: ASCII, in lower case. A label that is not in
ASCII is encoded, behind a mark of its own; a label that bears this mark must be such an encoding.
-/

namespace TypedClient.Url.Domain

open Text

/-- Whether a text is in ASCII. -/
def isAscii (cs : List Char) : Bool :=
  cs.all (·.toNat < 128)

/-- Whether a character can never stand in a domain. -/
def isForbidden (c : Char) : Bool :=
  c.toNat ≤ 0x20 || c.toNat = 0x7F || "%#/:<>?@[\\]^|".toList.contains c

/-- The mark in front of an encoded label. -/
def mark : List Char := ['x', 'n', '-', '-']

/-- The length of the longest label that is encoded. -/
def longestLabel : Nat := 1000

/-- The length of the longest encoding that is read. -/
def longestEncoding : Nat := 2000

/-- A label, and what it is encoded as. -/
structure Label where
  text : List Char
  encoded : List Char

/-- An encoded label without its mark. It must stand for characters in the one form that they have,
not all of them in ASCII. -/
def Label.decode? (cs : List Char) : Option (List Char) :=
  if !isAscii cs ∨ longestEncoding < cs.length then none
  else match Punycode.decode? cs with
    | none => none
    | some text =>
      if !isAscii text ∧ text.all isLasting ∧ composed text = text then some text else none

/-- The label that is written by some characters. -/
def Label.ofChars? (cs : List Char) : Option Label :=
  if mark.isPrefixOf cs then (Label.decode? (cs.drop mark.length)).map (⟨·, cs⟩)
  else if isAscii cs then some ⟨cs, cs⟩
  else if longestLabel < cs.length then none
  else some ⟨cs, mark ++ Punycode.encode cs⟩

/-- Whether a label may stand in a domain: in ASCII alone, or with all characters in company. -/
def Label.isSound (l : Label) : Bool :=
  isAscii l.text || isAccompanied l.text

/-- The characters of a domain in their lasting form. -/
def lasting? (cs : List Char) : Option (List Char) :=
  if isAscii cs then some (cs.map Char.toLower) else (replaced? cs).map composed

/-- The domain in ASCII, if it has such a form. -/
def ascii? (cs : List Char) : Option (List Char) :=
  match (lasting? cs).bind fun cs => (pieces (· = '.') cs).mapM Label.ofChars? with
  | none => none
  | some labels =>
    let domain := (labels.map Label.encoded).intersperse ['.'] |>.flatten
    let isDirected := labels.any fun l => !isAscii l.text && l.text.any turnsDirection
    if labels.all Label.isSound ∧ !domain.any isForbidden
        ∧ (!isDirected || labels.all fun l => keepsDirection l.text) then some domain
    else none

end TypedClient.Url.Domain
