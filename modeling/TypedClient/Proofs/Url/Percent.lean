import Mathlib.Data.List.Flatten
import TypedClient.Proofs.Text.Utf8
import TypedClient.Url.Percent

/-!
What encoded text stands for. Main statements: writing a text the way a part of an address is
written does not change what it stands for; and a text stands for its own characters just if it
holds no escape, since an escape stands for fewer bytes than it takes.
-/

namespace TypedClient.Url

open Text

/-- Two hexadecimal digits come first. -/
def BeginsPair (cs : List Char) : Prop :=
  ∃ a b rest, cs = a :: b :: rest ∧ (hexDigitValue? a).isSome = true ∧
    (hexDigitValue? b).isSome = true

/-- Somewhere two hexadecimal digits follow a percent sign. -/
def HoldsEscape (cs : List Char) : Prop :=
  ∃ front rest, cs = front ++ '%' :: rest ∧ BeginsPair rest

variable {p : Part} {a b c : Char} {cs : List Char} {m n : Nat}

/-! ### Escape by escape -/

theorem percentDecode_escape (ha : hexDigitValue? a = some m) (hb : hexDigitValue? b = some n)
    (cs : List Char) :
    percentDecode ('%' :: a :: b :: cs) = UInt8.ofNat (m * 16 + n) :: percentDecode cs := by
  rw [percentDecode, ha, hb]

/-- What begins no escape stands for itself. -/
theorem percentDecode_cons (h : c = '%' → ¬ BeginsPair cs) :
    percentDecode (c :: cs) = String.utf8EncodeChar c ++ percentDecode cs := by
  by_cases hSign : c = '%' ∧ ∃ a b rest, cs = a :: b :: rest
  · obtain ⟨rfl, a, b, rest, rfl⟩ := hSign
    rw [percentDecode]
    split
    · next m n ha hb =>
      exact absurd ⟨a, b, rest, rfl, by rw [ha]; rfl, by rw [hb]; rfl⟩ (h rfl)
    · rfl
  · rw [percentDecode]
    intro a b rest hc hcs
    exact hSign ⟨hc, a, b, rest, hcs⟩

/-- What holds of no characters, and with all that follows also with an escape or another character
in front, holds of all texts. -/
@[elab_as_elim]
theorem along_escapes {motive : List Char → Prop} (nil : motive [])
    (escape : ∀ (a b : Char) (cs : List Char) (m n : Nat), hexDigitValue? a = some m →
      hexDigitValue? b = some n → motive cs → motive ('%' :: a :: b :: cs))
    (other : ∀ (c : Char) (cs : List Char), (c = '%' → ¬ BeginsPair cs) → motive cs →
      motive (c :: cs)) (cs : List Char) : motive cs := by
  induction hLength : cs.length using Nat.strongRecOn generalizing cs with
  | ind k ih =>
      match cs with
      | [] => exact nil
      | c :: cs =>
          rw [List.length_cons] at hLength
          by_cases hEscape : c = '%' ∧ BeginsPair cs
          · obtain ⟨rfl, a, b, rest, rfl, ha, hb⟩ := hEscape
            obtain ⟨m, ha⟩ := Option.isSome_iff_exists.mp ha
            obtain ⟨n, hb⟩ := Option.isSome_iff_exists.mp hb
            simp only [List.length_cons] at hLength
            exact escape a b rest m n ha hb (ih rest.length (by omega) rest rfl)
          · exact other c cs (fun hc hPair => hEscape ⟨hc, hPair⟩)
              (ih cs.length (by omega) cs rfl)

/-! ### Written and read back -/

theorem hexDigitValue?_upperHexDigit (h : n < 16) : hexDigitValue? (upperHexDigit n) = some n := by
  have hAll : ∀ k : Fin 16, hexDigitValue? (upperHexDigit k.val) = some k.val := by decide
  exact hAll ⟨n, h⟩

theorem percentDecode_percentByte (byte : UInt8) (cs : List Char) :
    percentDecode (percentByte byte ++ cs) = byte :: percentDecode cs := by
  have hByte : byte.toNat < 256 := byte.toNat_lt
  rw [percentByte, List.cons_append, List.cons_append, List.cons_append, List.nil_append,
    percentDecode_escape (hexDigitValue?_upperHexDigit (by omega))
      (hexDigitValue?_upperHexDigit (by omega)),
    show byte.toNat / 16 * 16 + byte.toNat % 16 = byte.toNat by omega, UInt8.ofNat_toNat]

theorem percentDecode_percentBytes (bytes : List UInt8) (cs : List Char) :
    percentDecode (bytes.flatMap percentByte ++ cs) = bytes ++ percentDecode cs := by
  induction bytes with
  | nil => rfl
  | cons byte bytes ih =>
      rw [List.flatMap_cons, List.append_assoc, percentDecode_percentByte, ih, List.cons_append]

theorem encodes_percent (p : Part) : p.encodes '%' = false := by
  cases p <;> decide

theorem percentEncode_cons_of_encodes (h : p.encodes c = true) (cs : List Char) :
    percentEncode p (c :: cs) =
      (String.utf8EncodeChar c).flatMap percentByte ++ percentEncode p cs := by
  rw [percentEncode, List.flatMap_cons, if_pos h, percentEncode]

theorem percentEncode_cons_of_not_encodes (h : p.encodes c = false) (cs : List Char) :
    percentEncode p (c :: cs) = c :: percentEncode p cs := by
  rw [percentEncode, List.flatMap_cons, if_neg (by simp [h]), percentEncode, List.singleton_append]

/-- No digit is encoded anywhere. -/
theorem encodes_of_hexDigit (p : Part) (h : (hexDigitValue? c).isSome = true) :
    p.encodes c = false := by
  have hList : c ∉ p.encoded := by
    intro hMem
    have hNone : p.encoded.all (fun d => (hexDigitValue? d).isNone) = true := by
      cases p <;> decide
    rw [Option.isNone_iff_eq_none.mp (List.all_eq_true.mp hNone c hMem)] at h
    cases h
  have hBetween : ∀ low high : Char, 0x20 ≤ low.toNat → high.toNat < 0x7F → low ≤ c ∧ c ≤ high →
      0x20 ≤ c.toNat ∧ c.toNat < 0x7F := fun low high hLow hHigh hc =>
    ⟨Nat.le_trans hLow hc.1, Nat.lt_of_le_of_lt hc.2 hHigh⟩
  have hRange : 0x20 ≤ c.toNat ∧ c.toNat < 0x7F := by
    unfold hexDigitValue? at h
    split at h
    · next hDigit => exact hBetween '0' '9' (by decide) (by decide) hDigit
    split at h
    · next hDigit => exact hBetween 'a' 'f' (by decide) (by decide) hDigit
    split at h
    · next hDigit => exact hBetween 'A' 'F' (by decide) (by decide) hDigit
    · cases h
  simp [Part.encodes, hList, Nat.not_lt.mpr hRange.1, Nat.not_le.mpr hRange.2]

/-- A digit comes first in what is written only where it came first before: all that is encoded
begins with a sign. -/
theorem percentEncode_eq_digit_cons {rest : List Char} (h : (hexDigitValue? a).isSome = true)
    (hText : percentEncode p cs = a :: rest) :
    ∃ cs', cs = a :: cs' ∧ rest = percentEncode p cs' := by
  cases cs with
  | nil => cases hText
  | cons c cs =>
      cases hc : p.encodes c with
      | false =>
          rw [percentEncode_cons_of_not_encodes hc, List.cons.injEq] at hText
          exact ⟨cs, by rw [hText.1], hText.2.symm⟩
      | true =>
          obtain ⟨byte, bytes, hBytes⟩ :=
            List.exists_cons_of_ne_nil (String.utf8EncodeChar_ne_nil (c := c))
          rw [percentEncode_cons_of_encodes hc, hBytes] at hText
          have hFirst : '%' = a := (List.cons.injEq .. ▸ hText).1
          subst hFirst
          exact absurd h (by decide)

theorem beginsPair_of_percentEncode (h : BeginsPair (percentEncode p cs)) : BeginsPair cs := by
  obtain ⟨a, b, rest, hText, ha, hb⟩ := h
  obtain ⟨cs, rfl, hRest⟩ := percentEncode_eq_digit_cons ha hText
  obtain ⟨cs, rfl, -⟩ := percentEncode_eq_digit_cons hb hRest.symm
  exact ⟨a, b, cs, rfl, ha, hb⟩

/-- A text as it is written in a part of an address stands for what the text stands for. -/
theorem percentDecode_percentEncode (p : Part) (cs : List Char) :
    percentDecode (percentEncode p cs) = percentDecode cs := by
  induction cs using along_escapes with
  | nil => rfl
  | escape a b cs m n ha hb ih =>
      rw [percentEncode_cons_of_not_encodes (encodes_percent p),
        percentEncode_cons_of_not_encodes (encodes_of_hexDigit p (by rw [ha]; rfl)),
        percentEncode_cons_of_not_encodes (encodes_of_hexDigit p (by rw [hb]; rfl)),
        percentDecode_escape ha hb, percentDecode_escape ha hb, ih]
  | other c cs hc ih =>
      rw [percentDecode_cons hc]
      cases hEncoded : p.encodes c with
      | true => rw [percentEncode_cons_of_encodes hEncoded, percentDecode_percentBytes, ih]
      | false =>
          rw [percentEncode_cons_of_not_encodes hEncoded,
            percentDecode_cons fun hSign hPair => hc hSign (beginsPair_of_percentEncode hPair), ih]

/-! ### Standing for itself -/

theorem encodeUtf8_cons (c : Char) (cs : List Char) :
    encodeUtf8 (c :: cs) = String.utf8EncodeChar c ++ encodeUtf8 cs := by
  rw [encodeUtf8, List.flatMap_cons, encodeUtf8]

theorem length_encodeUtf8_cons (c : Char) (cs : List Char) :
    (encodeUtf8 (c :: cs)).length = c.utf8Size + (encodeUtf8 cs).length := by
  rw [encodeUtf8_cons, List.length_append, String.length_utf8EncodeChar]

/-- No text stands for more bytes than it takes. -/
theorem length_percentDecode_le (cs : List Char) :
    (percentDecode cs).length ≤ (encodeUtf8 cs).length := by
  induction cs using along_escapes with
  | nil => exact Nat.le_refl _
  | escape a b cs m n ha hb ih =>
      have hSign : '%'.utf8Size = 1 := rfl
      rw [percentDecode_escape ha hb, length_encodeUtf8_cons, length_encodeUtf8_cons,
        length_encodeUtf8_cons, List.length_cons]
      omega
  | other c cs hc ih =>
      rw [percentDecode_cons hc, length_encodeUtf8_cons, List.length_append,
        String.length_utf8EncodeChar]
      omega

theorem holdsEscape_cons_iff :
    HoldsEscape (c :: cs) ↔ (c = '%' ∧ BeginsPair cs) ∨ HoldsEscape cs := by
  constructor
  · rintro ⟨front, rest, hText, hPair⟩
    cases front with
    | nil =>
        rw [List.nil_append, List.cons.injEq] at hText
        exact .inl ⟨hText.1, hText.2 ▸ hPair⟩
    | cons d front =>
        rw [List.cons_append, List.cons.injEq] at hText
        exact .inr ⟨front, rest, hText.2, hPair⟩
  · rintro (⟨rfl, hPair⟩ | ⟨front, rest, rfl, hPair⟩)
    · exact ⟨[], cs, rfl, hPair⟩
    · exact ⟨c :: front, rest, rfl, hPair⟩

/-- An escape stands for fewer bytes than it takes. -/
theorem length_percentDecode_lt (h : HoldsEscape cs) :
    (percentDecode cs).length < (encodeUtf8 cs).length := by
  induction cs using along_escapes with
  | nil =>
      obtain ⟨front, rest, hText, -⟩ := h
      cases front <;> cases hText
  | escape a b cs m n ha hb _ =>
      have hSign : '%'.utf8Size = 1 := rfl
      have hDigit := Char.utf8Size_pos a
      have hRest := length_percentDecode_le cs
      rw [percentDecode_escape ha hb, length_encodeUtf8_cons, length_encodeUtf8_cons,
        length_encodeUtf8_cons, List.length_cons]
      omega
  | other c cs hc ih =>
      have hRest := ih ((holdsEscape_cons_iff.mp h).resolve_left fun hPair => hc hPair.1 hPair.2)
      rw [percentDecode_cons hc, length_encodeUtf8_cons, List.length_append,
        String.length_utf8EncodeChar]
      omega

/-- A text stands for its own characters just if it holds no escape. -/
theorem percentDecode_eq_encodeUtf8_iff : percentDecode cs = encodeUtf8 cs ↔ ¬ HoldsEscape cs := by
  constructor
  · intro h hEscape
    have hShorter := length_percentDecode_lt hEscape
    rw [h] at hShorter
    exact Nat.lt_irrefl _ hShorter
  · intro h
    induction cs with
    | nil => rfl
    | cons c cs ih =>
        rw [holdsEscape_cons_iff] at h
        rw [percentDecode_cons fun hSign hPair => h (.inl ⟨hSign, hPair⟩), encodeUtf8_cons,
          ih fun hRest => h (.inr hRest)]

theorem not_holdsEscape (h : '%' ∉ cs) : ¬ HoldsEscape cs := by
  rintro ⟨front, rest, rfl, -⟩
  exact h (by simp)

/-- Among the texts that are part of another one, only this one itself may stand for it, and only
if it holds no escape. -/
theorem eq_of_percentDecode {part : List Char} (hPart : part.Sublist cs)
    (h : percentDecode part = encodeUtf8 cs) : part = cs ∧ ¬ HoldsEscape cs := by
  have hBytes : (encodeUtf8 part).Sublist (encodeUtf8 cs) := hPart.flatMap _
  have hEnough := length_percentDecode_le part
  rw [h] at hEnough
  have hSame : part = cs := encodeUtf8_injective (hBytes.eq_of_length_le hEnough)
  subst hSame
  exact ⟨rfl, percentDecode_eq_encodeUtf8_iff.mp h⟩

end TypedClient.Url
