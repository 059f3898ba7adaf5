import TypedClient.Text.Utf8

/-!
Bytes of characters, read back. Main statement: whatever the characters, their bytes are valid, and
what is read of them are those characters.
-/

namespace TypedClient.Text

/-! ### Bytes of one character -/

/-- A byte behind the first one of a character, with the last six bits of a number. -/
def tailByte (n : Nat) : UInt8 :=
  UInt8.ofNat (n % 64 + 0x80)

theorem tailByte_toNat (n : Nat) : (tailByte n).toNat = n % 64 + 0x80 :=
  UInt8.toNat_ofNat_of_lt' (by simp [UInt8.size]; omega)

/-- A byte in range gives six more bits. -/
theorem takeTail_tailByte {more low high acc n : Nat} {bs : List UInt8}
    (hLow : low ≤ n % 64 + 0x80) (hHigh : n % 64 + 0x80 ≤ high) :
    takeTail (more + 1) low high acc (tailByte n :: bs) =
      takeTail more 0x80 0xBF (acc * 64 + n % 64) bs := by
  rw [takeTail, tailByte_toNat, if_pos ⟨hLow, hHigh⟩, Nat.add_sub_cancel]

/-- Where a first byte says so, the next bytes are taken with it. -/
theorem utf8Chars_lead {b : UInt8} {more low high acc n : Nat} {rest bs : List UInt8}
    (hByte : 0x80 ≤ b.toNat) (hLead : leadByte? b = some ⟨more, low, high, acc⟩)
    (hTail : takeTail more low high acc rest = (some n, bs)) :
    utf8Chars (b :: rest) = some (Char.ofNat n) :: utf8Chars bs := by
  rw [utf8Chars, if_neg (Nat.not_lt.mpr hByte), hLead]
  dsimp only
  rw [hTail]
  rfl

theorem utf8Chars_one {n : Nat} (h : n ≤ 0x7f) (bs : List UInt8) :
    utf8Chars (UInt8.ofNat n :: bs) = some (Char.ofNat n) :: utf8Chars bs := by
  have hByte : (UInt8.ofNat n).toNat = n := UInt8.toNat_ofNat_of_lt' (by simp [UInt8.size]; omega)
  rw [utf8Chars, hByte, if_pos (by omega)]

theorem utf8Chars_two {n : Nat} (hMore : 0x7f < n) (h : n ≤ 0x7ff) (bs : List UInt8) :
    utf8Chars (UInt8.ofNat (n / 64 % 0x20 + 0xc0) :: tailByte n :: bs) =
      some (Char.ofNat n) :: utf8Chars bs := by
  have hByte : (UInt8.ofNat (n / 64 % 0x20 + 0xc0)).toNat = n / 64 + 0xc0 := by
    rw [UInt8.toNat_ofNat_of_lt' (by simp [UInt8.size]; omega)]
    omega
  have hLead : leadByte? (UInt8.ofNat (n / 64 % 0x20 + 0xc0)) = some ⟨1, 0x80, 0xBF, n / 64⟩ := by
    unfold leadByte?
    rw [hByte]
    dsimp only
    rw [if_pos (by omega), Nat.add_sub_cancel]
  refine utf8Chars_lead (by omega) hLead ?_
  rw [takeTail_tailByte (by omega) (by omega), takeTail]
  congr 2
  omega

theorem utf8Chars_three {n : Nat} (hMore : 0x7ff < n) (h : n ≤ 0xffff)
    (hScalar : n < 0xd800 ∨ 0xdfff < n) (bs : List UInt8) :
    utf8Chars (UInt8.ofNat (n / 4096 % 0x10 + 0xe0) :: tailByte (n / 64) :: tailByte n :: bs) =
      some (Char.ofNat n) :: utf8Chars bs := by
  have hByte : (UInt8.ofNat (n / 4096 % 0x10 + 0xe0)).toNat = n / 4096 + 0xe0 := by
    rw [UInt8.toNat_ofNat_of_lt' (by simp [UInt8.size]; omega)]
    omega
  -- behind 0xE0 the next byte is large, behind 0xED it is small
  have hLead : ∃ low high, leadByte? (UInt8.ofNat (n / 4096 % 0x10 + 0xe0)) =
      some ⟨2, low, high, n / 4096⟩ ∧
        low ≤ n / 64 % 64 + 0x80 ∧ n / 64 % 64 + 0x80 ≤ high := by
    unfold leadByte?
    rw [hByte]
    dsimp only
    rw [if_neg (by omega)]
    split
    · exact ⟨0xA0, 0xBF, by rw [show n / 4096 = 0 by omega], by omega, by omega⟩
    split
    · exact ⟨0x80, 0x9F, by rw [show n / 4096 = 0xD by omega], by omega, by omega⟩
    · rw [if_pos (by omega), Nat.add_sub_cancel]
      exact ⟨0x80, 0xBF, rfl, by omega, by omega⟩
  obtain ⟨low, high, hLead, hLow, hHigh⟩ := hLead
  refine utf8Chars_lead (by omega) hLead ?_
  rw [takeTail_tailByte hLow hHigh, takeTail_tailByte (by omega) (by omega), takeTail]
  congr 2
  omega

theorem utf8Chars_four {n : Nat} (hMore : 0xffff < n) (h : n < 0x110000) (bs : List UInt8) :
    utf8Chars (UInt8.ofNat (n / 262144 % 0x08 + 0xf0) :: tailByte (n / 4096) ::
      tailByte (n / 64) :: tailByte n :: bs) = some (Char.ofNat n) :: utf8Chars bs := by
  have hByte : (UInt8.ofNat (n / 262144 % 0x08 + 0xf0)).toNat = n / 262144 + 0xf0 := by
    rw [UInt8.toNat_ofNat_of_lt' (by simp [UInt8.size]; omega)]
    omega
  -- behind 0xF0 the next byte is large, behind 0xF4 it is small
  have hLead : ∃ low high, leadByte? (UInt8.ofNat (n / 262144 % 0x08 + 0xf0)) =
      some ⟨3, low, high, n / 262144⟩ ∧
        low ≤ n / 4096 % 64 + 0x80 ∧ n / 4096 % 64 + 0x80 ≤ high := by
    unfold leadByte?
    rw [hByte]
    dsimp only
    rw [if_neg (by omega), if_neg (by omega), if_neg (by omega), if_neg (by omega)]
    split
    · exact ⟨0x90, 0xBF, by rw [show n / 262144 = 0 by omega], by omega, by omega⟩
    split
    · exact ⟨0x80, 0x8F, by rw [show n / 262144 = 4 by omega], by omega, by omega⟩
    · rw [if_pos (by omega), Nat.add_sub_cancel]
      exact ⟨0x80, 0xBF, rfl, by omega, by omega⟩
  obtain ⟨low, high, hLead, hLow, hHigh⟩ := hLead
  refine utf8Chars_lead (by omega) hLead ?_
  rw [takeTail_tailByte hLow hHigh, takeTail_tailByte (by omega) (by omega),
    takeTail_tailByte (by omega) (by omega), takeTail]
  congr 2
  omega

/-- The bytes of a character are read as that character. -/
theorem utf8Chars_encode (c : Char) (bs : List UInt8) :
    utf8Chars (String.utf8EncodeChar c ++ bs) = some c :: utf8Chars bs := by
  have hScalar : c.val.toNat < 0xd800 ∨ 0xdfff < c.val.toNat ∧ c.val.toNat < 0x110000 := c.valid
  suffices hCode : utf8Chars (String.utf8EncodeChar c ++ bs) =
      some (Char.ofNat c.toNat) :: utf8Chars bs by
    rwa [Char.ofNat_toNat] at hCode
  unfold String.utf8EncodeChar
  dsimp only
  split
  · exact utf8Chars_one ‹_› bs
  split
  · exact utf8Chars_two (by omega) ‹_› bs
  split
  · exact utf8Chars_three (by omega) ‹_› (by omega) bs
  · exact utf8Chars_four (by omega) (by omega) bs

/-! ### Whole texts -/

theorem utf8Chars_encodeUtf8 (cs : List Char) : utf8Chars (encodeUtf8 cs) = cs.map some := by
  induction cs with
  | nil => rw [encodeUtf8, List.flatMap_nil, utf8Chars, List.map_nil]
  | cons c cs ih =>
      rw [encodeUtf8, List.flatMap_cons, utf8Chars_encode, List.map_cons]
      rw [encodeUtf8] at ih
      rw [ih]

/-- The bytes of characters are read as those characters. -/
theorem decodeUtf8?_encodeUtf8 (cs : List Char) : decodeUtf8? (encodeUtf8 cs) = some cs := by
  have hAll : ∀ cs : List Char, (cs.map some).mapM id = some cs := by
    intro cs
    induction cs with
    | nil => rfl
    | cons c cs ih =>
        rw [List.map_cons, List.mapM_cons, ih]
        rfl
  rw [decodeUtf8?, utf8Chars_encodeUtf8, hAll]

theorem encodeUtf8_injective : Function.Injective encodeUtf8 := by
  intro cs ds h
  have hRead := decodeUtf8?_encodeUtf8 cs
  rw [h, decodeUtf8?_encodeUtf8] at hRead
  exact (Option.some.inj hRead).symm

/-- Nothing in the bytes of characters is taken for damaged. -/
theorem decodeUtf8_encodeUtf8 (cs : List Char) : decodeUtf8 (encodeUtf8 cs) = cs := by
  rw [decodeUtf8, utf8Chars_encodeUtf8, List.map_map]
  exact List.map_id cs

/-- A text takes as many bytes as it is said to take. -/
theorem length_encodeUtf8 (s : String) : (encodeUtf8 s.toList).length = s.utf8ByteSize := by
  rw [← String.size_toByteArray, ← String.utf8Encode_toList, List.utf8Encode,
    List.size_toByteArray, encodeUtf8]

end TypedClient.Text
