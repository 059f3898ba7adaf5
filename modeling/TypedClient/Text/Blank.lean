import TypedClient.Text.CodePoints

/-!
White space in the sense of Unicode, and cutting it off both ends of a text.
-/

namespace TypedClient.Text

/-- The code points with the Unicode property White_Space. The byte order mark U+FEFF is not
among them. -/
def blanks : CodePoints := ⟨#[
  0x9, 0xE, 0x20, 0x21, 0x85, 0x86, 0xA0, 0xA1, 0x1680, 0x1681, 0x2000, 0x200B, 0x2028, 0x202A,
  0x202F, 0x2030, 0x205F, 0x2060, 0x3000, 0x3001]⟩

/-- Whether a character is white space. -/
def isBlank (c : Char) : Bool :=
  blanks.has c

/-- The characters without white space at either end. -/
def trimList (cs : List Char) : List Char :=
  ((cs.dropWhile isBlank).reverse.dropWhile isBlank).reverse

/-- The text without white space at either end. -/
def trim (s : String) : String :=
  String.ofList (trimList s.toList)

/-- Whether nothing but white space stands in the text. -/
def isBlankText (s : String) : Bool :=
  s.toList.all isBlank

/-- The text without white space at its end. -/
def trimEnd (s : String) : String :=
  String.ofList (s.toList.reverse.dropWhile isBlank).reverse

end TypedClient.Text
