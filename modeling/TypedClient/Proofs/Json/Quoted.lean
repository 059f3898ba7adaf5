import TypedClient.Json.Literal
import TypedClient.Json.Write

/-!
Quoted texts as they are written and read back. Main statements: what is written of a text is read
as that text, whatever its characters, and skipping passes over all of it.
-/

namespace TypedClient.Json

/-! ### One character -/

/-- A digit is read as the number it was written for. -/
theorem hexValue?_hexDigit {n : Nat} (h : n < 16) : hexValue? (hexDigit n) = some n := by
  have hAll : ∀ n < 16, hexValue? (hexDigit n) = some n := by decide
  exact hAll n h

/-- How a character is written: as a letter behind a backslash, as the four digits of its code, or
as it is. -/
inductive WrittenAs (c : Char) : List Char → Prop
  | short {e : Char} (hLetter : e ≠ 'u') (hShort : shortEscape? e = some c) :
      WrittenAs c ['\\', e]
  | code (hControl : c.toNat < 0x20) :
      WrittenAs c ['\\', 'u', '0', '0', hexDigit (c.toNat / 16), hexDigit (c.toNat % 16)]
  | plain (hQuote : c ≠ '"') (hBackslash : c ≠ '\\') (hControl : isControl c = false) :
      WrittenAs c [c]

theorem writtenAs_writeChar (c : Char) : WrittenAs c (writeChar c) := by
  unfold writeChar
  -- seven characters have a letter of their own
  iterate 7
    split
    · next h =>
        subst h
        exact .short (by decide) (by decide)
  split
  · next h => exact .code h
  · next hQuote hBackslash _ _ _ _ _ hControl =>
      exact .plain hQuote hBackslash (by simpa [isControl] using hControl)

/-- Four digits are taken as the code they were written for. -/
theorem takeQuad_code {n : Nat} (h : n < 0x20) (rest : List Char) (p : Position) :
    takeQuad ('0' :: '0' :: hexDigit (n / 16) :: hexDigit (n % 16) :: rest) p =
      .ok (n, ⟨rest, p.pastAll ['0', '0', hexDigit (n / 16), hexDigit (n % 16)]⟩) := by
  have hQuad : quadValue? '0' '0' (hexDigit (n / 16)) (hexDigit (n % 16)) = some n := by
    rw [quadValue?, hexValue?_hexDigit (by omega), hexValue?_hexDigit (by omega),
      show hexValue? '0' = some 0 by decide]
    simp only [Option.bind_eq_bind, Option.bind_some, Option.pure_def, Option.some.injEq]
    omega
  rw [takeQuad, hQuad]

theorem readText_escape {rest : List Char} {p : Position} {c : Char} {next : Cursor}
    (h : readEscape rest (p.past '\\') = .ok (c, next)) :
    readText ('\\' :: rest) p = (readText next.rest next.position).map (c :: ·) := by
  rw [readText, if_neg (by decide), if_pos rfl]
  split
  · next hRead => exact absurd (h.symm.trans hRead) (by simp)
  · next hRead =>
      cases h.symm.trans hRead
      rfl

theorem skipText_escape {rest : List Char} {p : Position} {next : Cursor}
    (h : skipEscape rest (p.past '\\') = .ok next) :
    skipText ('\\' :: rest) p = skipText next.rest next.position := by
  rw [skipText, if_neg (by decide), if_pos rfl]
  split
  · next hSkip => exact absurd (h.symm.trans hSkip) (by simp)
  · next hSkip =>
      cases h.symm.trans hSkip
      rfl

/-- Reading takes a written character for what it is. -/
theorem readText_writeChar (c : Char) (cs : List Char) (p : Position) :
    readText (writeChar c ++ cs) p =
      (readText cs (p.pastAll (writeChar c))).map (c :: ·) := by
  have hWritten := writtenAs_writeChar c
  generalize writeChar c = written at hWritten ⊢
  cases hWritten with
  | @short e hLetter hShort =>
      have hEscape : readEscape (e :: cs) (p.past '\\') =
          .ok (c, ⟨cs, p.pastAll ['\\', e]⟩) := by
        rw [readEscape, if_neg hLetter, hShort]
        rfl
      exact readText_escape hEscape
  | code hControl =>
      have hSurrogate : isLowSurrogate c.toNat = false ∧ isHighSurrogate c.toNat = false := by
        simp [isLowSurrogate, isHighSurrogate]
        omega
      have hEscape : readEscape ('u' :: '0' :: '0' :: hexDigit (c.toNat / 16) ::
          hexDigit (c.toNat % 16) :: cs) (p.past '\\') = .ok (c, ⟨cs, p.pastAll
            ['\\', 'u', '0', '0', hexDigit (c.toNat / 16), hexDigit (c.toNat % 16)]⟩) := by
        rw [readEscape, if_pos rfl, takeQuad_code hControl]
        dsimp only
        rw [hSurrogate.1, hSurrogate.2, Char.ofNat_toNat]
        rfl
      exact readText_escape hEscape
  | plain hQuote hBackslash hControl =>
      rw [List.singleton_append, readText, if_neg hQuote, if_neg hBackslash, hControl]
      rfl

/-- Skipping passes over a written character. -/
theorem skipText_writeChar (c : Char) (cs : List Char) (p : Position) :
    skipText (writeChar c ++ cs) p = skipText cs (p.pastAll (writeChar c)) := by
  have hWritten := writtenAs_writeChar c
  generalize writeChar c = written at hWritten ⊢
  cases hWritten with
  | @short e hLetter hShort =>
      have hEscape : skipEscape (e :: cs) (p.past '\\') = .ok ⟨cs, p.pastAll ['\\', e]⟩ := by
        rw [skipEscape, if_neg hLetter, hShort]
        rfl
      exact skipText_escape hEscape
  | code hControl =>
      have hEscape : skipEscape ('u' :: '0' :: '0' :: hexDigit (c.toNat / 16) ::
          hexDigit (c.toNat % 16) :: cs) (p.past '\\') = .ok ⟨cs, p.pastAll
            ['\\', 'u', '0', '0', hexDigit (c.toNat / 16), hexDigit (c.toNat % 16)]⟩ := by
        rw [skipEscape, if_pos rfl, takeQuad_code hControl]
        rfl
      exact skipText_escape hEscape
  | plain hQuote hBackslash hControl =>
      rw [List.singleton_append, skipText, if_neg hQuote, if_neg hBackslash, hControl]
      rfl

/-! ### Whole texts -/

theorem readText_flatMap (cs rest : List Char) (p : Position) :
    readText (cs.flatMap writeChar ++ '"' :: rest) p = .ok cs := by
  induction cs generalizing p with
  | nil => 
      rw [List.flatMap_nil, List.nil_append, readText]
      rfl
  | cons c cs ih =>
      rw [List.flatMap_cons, List.append_assoc, readText_writeChar, ih]
      rfl

theorem skipText_flatMap (cs rest : List Char) (p : Position) :
    ∃ q, skipText (cs.flatMap writeChar ++ '"' :: rest) p = .ok ⟨rest, q⟩ := by
  induction cs generalizing p with
  | nil =>
      rw [List.flatMap_nil, List.nil_append, skipText]
      exact ⟨_, rfl⟩
  | cons c cs ih =>
      rw [List.flatMap_cons, List.append_assoc, skipText_writeChar]
      exact ih _

end TypedClient.Json
