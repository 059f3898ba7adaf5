import TypedClient.Json.Literal
import TypedClient.Proofs.Script.Literal

/-!
What a string literal stands for by the rules of ECMAScript 2019, in strict code: a sequence of
UTF-16 code units. Main statement: between quotes of either kind, a literal stands for the text that
it was made from and for no other; no line breaks in it, and reading stops right behind it.
-/

namespace TypedClient.Script

/-! ### Code units -/

/-- The UTF-16 code units of a code point: itself, or two surrogates. -/
def codeUnits (point : Nat) : List UInt16 :=
  if point < 0x10000 then [UInt16.ofNat point]
  else [UInt16.ofNat (0xD800 + (point - 0x10000) / 0x400),
    UInt16.ofNat (0xDC00 + (point - 0x10000) % 0x400)]

/-- The code units of a text. -/
def textUnits (cs : List Char) : List UInt16 :=
  cs.flatMap fun c => codeUnits c.toNat

theorem codeUnits_ne_nil (point : Nat) : codeUnits point ≠ [] := by
  unfold codeUnits
  split <;> exact List.cons_ne_nil _ _

/-- No character is a surrogate, so the first code unit tells how many belong to it. -/
theorem codeUnits_append_inj {c d : Char} {us vs : List UInt16}
    (h : codeUnits c.toNat ++ us = codeUnits d.toNat ++ vs) : c = d ∧ us = vs := by
  have hUnit : ∀ {n m : Nat}, UInt16.ofNat n = UInt16.ofNat m → n % 65536 = m % 65536 :=
    fun hSame => by simpa using congrArg UInt16.toNat hSame
  have hc : c.toNat < 0xD800 ∨ 0xDFFF < c.toNat ∧ c.toNat < 0x110000 := c.valid
  have hd : d.toNat < 0xD800 ∨ 0xDFFF < d.toNat ∧ d.toNat < 0x110000 := d.valid
  rw [← Char.toNat_inj]
  unfold codeUnits at h
  split at h <;> split at h <;>
    simp only [List.cons_append, List.nil_append, List.cons.injEq] at h
  · have hPoint := hUnit h.1
    exact ⟨by omega, h.2⟩
  · have hFirst := hUnit h.1
    omega
  · have hFirst := hUnit h.1
    omega
  · have hFirst := hUnit h.1
    have hSecond := hUnit h.2.1
    exact ⟨by omega, h.2.2⟩

theorem textUnits_inj {cs ds : List Char} (h : textUnits cs = textUnits ds) : cs = ds := by
  have hNil : ∀ (c : Char) (rest : List Char), textUnits (c :: rest) ≠ textUnits [] := by
    intro c rest hSame
    exact codeUnits_ne_nil _ (List.append_eq_nil_iff.mp hSame).1
  induction cs generalizing ds with
  | nil =>
      cases ds with
      | nil => rfl
      | cons d ds => exact absurd h.symm (hNil d ds)
  | cons c cs ih =>
      cases ds with
      | nil => exact absurd h (hNil c cs)
      | cons d ds =>
          obtain ⟨rfl, hRest⟩ := codeUnits_append_inj h
          rw [ih hRest]

/-! ### Escapes -/

/-- The number that hexadecimal digits write, of which there must be one at least. -/
def hexNumber? (cs : List Char) : Option Nat :=
  if cs = [] then none
  else cs.foldlM (fun n c => (Json.hexValue? c).map fun digit => 16 * n + digit) 0

/-- A code point of so many hexadecimal digits, and what follows them. -/
def takeHex (count : Nat) (cs : List Char) : Option (List UInt16 × List Char) :=
  if count ≤ cs.length then
    (hexNumber? (cs.take count)).map fun point => (codeUnits point, cs.drop count)
  else none

/-- A code point in hexadecimal digits up to a closing brace, and what follows that. -/
def takeCodePoint (cs : List Char) : Option (List UInt16 × List Char) :=
  match cs.dropWhile (· ≠ '}') with
  | [] => none
  | _ :: rest =>
    match hexNumber? (cs.takeWhile (· ≠ '}')) with
    | none => none
    | some point => if point ≤ 0x10FFFF then some (codeUnits point, rest) else none

/-- The characters that end a line. -/
def isLineTerminator (c : Char) : Bool :=
  c = '\n' || c = '\r' || c = '\u2028' || c = '\u2029'

/-- The code point for which a single letter stands behind a backslash. -/
def letterEscape? : Char → Option Nat
  | 'b' => some 0x8
  | 't' => some 0x9
  | 'n' => some 0xA
  | 'v' => some 0xB
  | 'f' => some 0xC
  | 'r' => some 0xD
  | _ => none

/-- What stands behind a backslash: the code units that are meant, and what follows. -/
def readEscape : List Char → Option (List UInt16 × List Char)
  | [] => none
  | c :: cs =>
    if c = 'x' then takeHex 2 cs
    else if c = 'u' then if cs.head? = some '\x7b' then takeCodePoint cs.tail else takeHex 4 cs
    -- a line that is continued adds nothing, and a carriage return takes its line feed along
    else if c = '\r' ∧ cs.head? = some '\n' then some ([], cs.tail)
    else if isLineTerminator c then some ([], cs)
    -- strict code has no octal escapes: a zero must stand alone
    else if c = '0' ∧ ¬ cs.head?.any Char.isDigit then some (codeUnits 0, cs)
    else if c.isDigit then none
    else some (codeUnits ((letterEscape? c).getD c.toNat), cs)

theorem takeHex_length_le {count : Nat} {cs : List Char} {read : List UInt16 × List Char}
    (h : takeHex count cs = some read) : read.2.length ≤ cs.length := by
  unfold takeHex at h
  split at h
  · obtain ⟨point, -, rfl⟩ := Option.map_eq_some_iff.mp h
    exact (List.drop_sublist ..).length_le
  · cases h

theorem takeCodePoint_length_le {cs : List Char} {read : List UInt16 × List Char}
    (h : takeCodePoint cs = some read) : read.2.length ≤ cs.length := by
  unfold takeCodePoint at h
  split at h
  · cases h
  · next brace rest hRest =>
      have hTail : rest.length ≤ cs.length := by
        have hSublist := (List.dropWhile_sublist (p := (· ≠ '}')) (l := cs)).length_le
        rw [hRest, List.length_cons] at hSublist
        exact Nat.le_of_succ_le hSublist
      split at h
      · cases h
      · split at h
        · cases h
          exact hTail
        · cases h

theorem readEscape_length_le {cs : List Char} {read : List UInt16 × List Char}
    (h : readEscape cs = some read) : read.2.length ≤ cs.length := by
  cases cs with
  | nil => cases h
  | cons c cs =>
      have hTail : cs.tail.length ≤ cs.length := (List.tail_sublist cs).length_le
      apply Nat.le_succ_of_le
      rw [readEscape] at h
      repeat' split at h
      · exact takeHex_length_le h
      · exact Nat.le_trans (takeCodePoint_length_le h) hTail
      · exact takeHex_length_le h
      · cases h
        exact hTail
      · cases h
        exact Nat.le_refl _
      · cases h
        exact Nat.le_refl _
      · cases h
      · cases h
        exact Nat.le_refl _

/-! ### Literals -/

/-- The value of a literal from behind its opening quote on, and what follows it. -/
def readContent (quote : Char) : List Char → Option (List UInt16 × List Char)
  | [] => none
  | c :: cs =>
    if c = quote then some ([], cs)
    -- the separators U+2028 and U+2029 may stand in a literal, the older line breaks may not
    else if c = '\n' ∨ c = '\r' then none
    else if c = '\\' then
      match h : readEscape cs with
      | none => none
      | some escape =>
        have := readEscape_length_le h
        (readContent quote escape.2).map fun read => (escape.1 ++ read.1, read.2)
    else (readContent quote cs).map fun read => (codeUnits c.toNat ++ read.1, read.2)
  termination_by cs => cs.length
  decreasing_by
    · exact Nat.lt_succ_of_le this
    · exact Nat.lt_succ_self _

/-- The value of the literal that a text begins with, and what follows it. -/
def readLiteral : List Char → Option (List UInt16 × List Char)
  | [] => none
  | c :: cs => if c = '"' ∨ c = '\'' then readContent c cs else none

example : readLiteral "'\\u\x7b1F600\x7d\\x41\\\n\\'' + x".toList =
    some (textUnits "😀A'".toList, " + x".toList) := by
  with_unfolding_all decide

variable {quote : Char}

/-- The same quote ends a literal. -/
theorem readContent_quote (cs : List Char) : readContent quote (quote :: cs) = some ([], cs) := by
  rw [readContent, if_pos rfl]

/-- A character that means nothing in particular stands for itself. -/
theorem readContent_plain {c : Char} (cs : List Char) (hQuote : c ≠ quote)
    (hBreak : ¬ (c = '\n' ∨ c = '\r')) (hSlash : c ≠ '\\') :
    readContent quote (c :: cs) =
      (readContent quote cs).map fun read => (codeUnits c.toNat ++ read.1, read.2) := by
  rw [readContent, if_neg hQuote, if_neg hBreak, if_neg hSlash]

theorem readContent_escape {cs rest : List Char} {units : List UInt16} (hQuote : quote ≠ '\\')
    (h : readEscape cs = some (units, rest)) :
    readContent quote ('\\' :: cs) =
      (readContent quote rest).map fun read => (units ++ read.1, read.2) := by
  rw [readContent, if_neg hQuote.symm, if_neg (by decide), if_pos rfl]
  split
  · next hNone => rw [h] at hNone; cases hNone
  · next escape hSome =>
      rw [h] at hSome
      cases hSome
      rfl

theorem IsQuote.plain (h : IsQuote quote) : quote ≠ '\\' ∧ quote ≠ '\n' ∧ quote ≠ '\r' := by
  rcases h with rfl | rfl <;> decide

/-- A character is written as it is, or it is one of four and a letter for it stands behind a
backslash. -/
theorem escapeChar_cases (quote c : Char) :
    (escapeChar quote c = [c] ∧ c ≠ quote ∧ ¬ (c = '\n' ∨ c = '\r') ∧ c ≠ '\\') ∨
      ∃ letter, escapeChar quote c = ['\\', letter] ∧
        (c = '\\' ∧ letter = '\\' ∨ c = '\n' ∧ letter = 'n' ∨ c = '\r' ∧ letter = 'r' ∨
          c = quote ∧ letter = quote) := by
  by_cases hSlash : c = '\\'
  · exact .inr ⟨'\\', if_pos hSlash, .inl ⟨hSlash, rfl⟩⟩
  by_cases hFeed : c = '\n'
  · exact .inr ⟨'n', by simp [escapeChar, hFeed], .inr (.inl ⟨hFeed, rfl⟩)⟩
  by_cases hReturn : c = '\r'
  · exact .inr ⟨'r', by simp [escapeChar, hReturn], .inr (.inr (.inl ⟨hReturn, rfl⟩))⟩
  by_cases hQuote : c = quote
  · refine .inr ⟨quote, ?_, .inr (.inr (.inr ⟨hQuote, rfl⟩))⟩
    rw [escapeChar, if_neg hSlash, if_neg hFeed, if_neg hReturn, if_pos hQuote, hQuote]
  · refine .inl ⟨?_, hQuote, not_or.mpr ⟨hFeed, hReturn⟩, hSlash⟩
    rw [escapeChar, if_neg hSlash, if_neg hFeed, if_neg hReturn, if_neg hQuote]

/-- Every character that is written is read back as one. -/
theorem readContent_escapeChar (hQuote : IsQuote quote) (c : Char) (cs : List Char) :
    readContent quote (escapeChar quote c ++ cs) =
      (readContent quote cs).map fun read => (codeUnits c.toNat ++ read.1, read.2) := by
  rcases escapeChar_cases quote c with ⟨hSame, hEnd, hBreak, hSlash⟩ | ⟨letter, hPair, hLetter⟩
  · rw [hSame]
    exact readContent_plain cs hEnd hBreak hSlash
  · rw [hPair]
    refine readContent_escape hQuote.plain.1 ?_
    rcases hLetter with ⟨rfl, rfl⟩ | ⟨rfl, rfl⟩ | ⟨rfl, rfl⟩ | ⟨rfl, rfl⟩
    · rfl
    · rfl
    · rfl
    · rcases hQuote with rfl | rfl <;> rfl

/-- Nothing that is written breaks a line. -/
theorem not_break_of_mem_escapeChar (hQuote : IsQuote quote) {c d : Char}
    (h : d ∈ escapeChar quote c) : d ≠ '\n' ∧ d ≠ '\r' := by
  rcases escapeChar_cases quote c with ⟨hSame, -, hBreak, -⟩ | ⟨letter, hPair, hLetter⟩
  · rw [hSame, List.mem_singleton] at h
    rw [h]
    exact not_or.mp hBreak
  · rw [hPair, List.mem_cons, List.mem_singleton] at h
    rcases h with rfl | rfl
    · decide
    · rcases hLetter with ⟨-, rfl⟩ | ⟨-, rfl⟩ | ⟨-, rfl⟩ | ⟨-, rfl⟩
      · decide
      · decide
      · decide
      · exact hQuote.plain.2

theorem readContent_flatMap (hQuote : IsQuote quote) (content rest : List Char) :
    readContent quote (content.flatMap (escapeChar quote) ++ quote :: rest) =
      some (textUnits content, rest) := by
  induction content with
  | nil => exact readContent_quote rest
  | cons c content ih =>
      rw [List.flatMap_cons, List.append_assoc, readContent_escapeChar hQuote, ih]
      rfl

/-- A text is a literal for a value: reading it, whatever follows, gives the code units of the value
and stops right behind the literal, and there is no line break in it. -/
structure IsLiteralFor (text value : String) : Prop where
  reads : ∀ rest, readLiteral (text.toList ++ rest) = some (textUnits value.toList, rest)
  unbroken : ∀ c ∈ text.toList, c ≠ '\n' ∧ c ≠ '\r'

theorem isLiteralFor_literal (hQuote : IsQuote quote) (s : String) :
    IsLiteralFor (literal quote s) s where
  reads := by
    intro rest
    rw [literal_toList_append]
    exact (if_pos hQuote).trans (readContent_flatMap hQuote s.toList rest)
  unbroken := by
    have hText := literal_toList_append quote s []
    rw [List.append_nil] at hText
    intro c hc
    rw [hText, List.mem_cons, List.mem_append, List.mem_singleton] at hc
    rcases hc with rfl | hInside | rfl
    · exact hQuote.plain.2
    · obtain ⟨d, -, hd⟩ := List.mem_flatMap.mp hInside
      exact not_break_of_mem_escapeChar hQuote hd
    · exact hQuote.plain.2

/-- A literal has one value. -/
theorem IsLiteralFor.value_eq {text value other : String} (h : IsLiteralFor text value)
    (hOther : IsLiteralFor text other) : value = other := by
  have hSame := (h.reads []).symm.trans (hOther.reads [])
  rw [← String.toList_inj]
  exact textUnits_inj (congrArg Prod.fst (Option.some.inj hSame))

/-- What is written between quotes is a literal for the text that it was made from, and for no
other. -/
theorem isLiteralFor_literal_iff (hQuote : IsQuote quote) {s value : String} :
    IsLiteralFor (literal quote s) value ↔ value = s := by
  constructor
  · exact fun h => h.value_eq (isLiteralFor_literal hQuote s)
  · rintro rfl
    exact isLiteralFor_literal hQuote value

/-- A text is the key of a member: its name, or a literal for that where it cannot stand bare. -/
structure IsKeyFor (key name : String) : Prop where
  bare : isBare name = true → key = name
  quoted : isBare name = false → ∀ value, IsLiteralFor key value ↔ value = name

theorem isKeyFor_memberKey (name : String) : IsKeyFor (memberKey name) name where
  bare := fun h => if_pos h
  quoted := by
    intro h value
    rw [memberKey, if_neg (by simp [h])]
    exact isLiteralFor_literal_iff (.inl rfl)

end TypedClient.Script
