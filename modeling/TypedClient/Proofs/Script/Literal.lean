import TypedClient.Script.Lexeme

/-!
Reading keys and string literals back. A literal ends at the first delimiter that no backslash
stands in front of, so nothing inside it can be taken for what follows.
-/

namespace TypedClient.Script

/-- The delimiters that literals are written with. -/
def IsQuote (quote : Char) : Prop :=
  quote = '"' ∨ quote = '\''

/-- The character that an escaped one stands for. -/
def unescaped (c : Char) : Char :=
  if c = 'n' then '\n' else if c = 'r' then '\r' else c

/-- The content of a literal and what follows it, from behind the opening delimiter on. -/
def takeLiteral (quote : Char) : List Char → Option (List Char × List Char)
  | [] => none
  | ['\\'] => none
  | '\\' :: c :: cs => (takeLiteral quote cs).map fun read => (unescaped c :: read.1, read.2)
  | c :: cs =>
    if c = quote then some ([], cs)
    else (takeLiteral quote cs).map fun read => (c :: read.1, read.2)

/-- Behind a backslash any character belongs to the content, the delimiter included. -/
theorem takeLiteral_backslash (quote c : Char) (cs : List Char) :
    takeLiteral quote ('\\' :: c :: cs) =
      (takeLiteral quote cs).map fun read => (unescaped c :: read.1, read.2) := by
  rw [takeLiteral]

/-- A character that is neither backslash nor delimiter stands for itself. -/
theorem takeLiteral_plain {quote c : Char} (cs : List Char) (hSlash : c ≠ '\\')
    (hQuote : c ≠ quote) :
    takeLiteral quote (c :: cs) = (takeLiteral quote cs).map fun read => (c :: read.1, read.2) := by
  rw [takeLiteral, if_neg hQuote]
  · intro h
    exact absurd h hSlash
  · intro d ds h
    exact absurd h hSlash

/-- The delimiter ends the literal. -/
theorem takeLiteral_quote {quote : Char} (hQuote : IsQuote quote) (cs : List Char) :
    takeLiteral quote (quote :: cs) = some ([], cs) := by
  rcases hQuote with rfl | rfl <;> simp [takeLiteral]

/-- Every written character is read back as one character. -/
theorem takeLiteral_escapeChar {quote : Char} (hQuote : IsQuote quote) (c : Char)
    (cs : List Char) :
    takeLiteral quote (escapeChar quote c ++ cs) =
      (takeLiteral quote cs).map fun read => (c :: read.1, read.2) := by
  unfold escapeChar
  split
  · next h =>
      subst h
      exact takeLiteral_backslash _ _ _
  · next hSlash =>
      split
      · next h =>
          subst h
          exact takeLiteral_backslash _ _ _
      · split
        · next h =>
            subst h
            exact takeLiteral_backslash _ _ _
        · split
          · next h =>
              subst h
              have hSelf : unescaped c = c := by
                rcases hQuote with rfl | rfl <;> rfl
              rw [List.cons_append, List.cons_append, takeLiteral_backslash, hSelf,
                List.nil_append]
          · next hEnd => exact takeLiteral_plain cs hSlash hEnd

/-- The characters between the delimiters are read back as they were. -/
theorem takeLiteral_flatMap {quote : Char} (hQuote : IsQuote quote) (content rest : List Char) :
    takeLiteral quote (content.flatMap (escapeChar quote) ++ quote :: rest) =
      some (content, rest) := by
  induction content with
  | nil => exact takeLiteral_quote hQuote rest
  | cons c content ih =>
      rw [List.flatMap_cons, List.append_assoc, takeLiteral_escapeChar hQuote, ih]
      rfl

/-- The characters of a literal in front of a text. -/
theorem literal_toList_append (quote : Char) (s : String) (rest : List Char) :
    (literal quote s).toList ++ rest =
      quote :: (s.toList.flatMap (escapeChar quote) ++ quote :: rest) := by
  simp [literal]

/-! ### Keys -/

/-- A nonempty bare word and what follows it. -/
def takeWordPart (cs : List Char) : Option (String × List Char) :=
  match cs.takeWhile isNamePart with
  | [] => none
  | word => some (String.ofList word, cs.dropWhile isNamePart)

/-- A key and what follows it. -/
def takeKey : List Char → Option (String × List Char)
  | '"' :: cs => (takeLiteral '"' cs).map fun read => (String.ofList read.1, read.2)
  | cs => takeWordPart cs

/-- What cannot go on with a bare name. -/
def EndsName (rest : List Char) : Prop :=
  ∀ c ∈ rest.head?, isNamePart c = false

theorem endsName_nil : EndsName [] := by
  intro c hc
  exact absurd hc (by simp)

theorem endsName_cons {c : Char} {cs : List Char} (h : isNamePart c = false) :
    EndsName (c :: cs) := by
  intro d hd
  cases hd
  exact h

theorem isNamePart_of_isNameStart {c : Char} (h : isNameStart c = true) :
    isNamePart c = true := by
  simp only [isNameStart, isNamePart, Char.isAlphanum, Bool.or_eq_true] at h ⊢
  rcases h with (h | h) | h
  · exact Or.inl (Or.inl (Or.inl h))
  · exact Or.inl (Or.inr h)
  · exact Or.inr h

/-- A bare name consists of characters that can stand in one, and there is a first. -/
theorem isBare_toList {s : String} (h : isBare s = true) :
    ∃ c cs, s.toList = c :: cs ∧ isNameStart c = true ∧ ∀ d ∈ c :: cs, isNamePart d = true := by
  unfold isBare at h
  split at h
  · exact absurd h (by simp)
  · next c cs hs =>
      rw [Bool.and_eq_true, List.all_eq_true] at h
      refine ⟨c, cs, hs, h.1, ?_⟩
      intro d hd
      rcases List.mem_cons.mp hd with rfl | hd
      · exact isNamePart_of_isNameStart h.1
      · exact h.2 d hd

/-- A bare name is taken as a whole where it ends. -/
theorem takeWordPart_append {s : String} (h : isBare s = true) {rest : List Char}
    (hRest : EndsName rest) : takeWordPart (s.toList ++ rest) = some (s, rest) := by
  obtain ⟨c, cs, hs, -, hParts⟩ := isBare_toList h
  have hTake : rest.takeWhile isNamePart = [] := by
    cases rest with
    | nil => rfl
    | cons d ds => rw [List.takeWhile_cons_of_neg (by simp [hRest d (by simp)])]
  have hDrop : rest.dropWhile isNamePart = rest := by
    cases rest with
    | nil => rfl
    | cons d ds => rw [List.dropWhile_cons_of_neg (by simp [hRest d (by simp)])]
  have hWord : (s.toList ++ rest).takeWhile isNamePart = s.toList := by
    rw [hs, List.takeWhile_append_of_pos hParts, hTake, List.append_nil]
  unfold takeWordPart
  rw [hWord, hs, ← hs, List.dropWhile_append_of_pos (hs ▸ hParts), hDrop]
  simp [hs, ← String.toList_inj]

/-- A key begins with a quote or like a bare name, never with a space. -/
theorem memberKey_toList (name : String) :
    ∃ c cs, (memberKey name).toList = c :: cs ∧ c ≠ ' ' := by
  unfold memberKey
  split
  · next h =>
      obtain ⟨c, cs, hs, hStart, -⟩ := isBare_toList h
      refine ⟨c, cs, hs, ?_⟩
      rintro rfl
      exact absurd hStart (by decide)
  · have hText := literal_toList_append '"' name []
    rw [List.append_nil] at hText
    exact ⟨'"', _, hText, by decide⟩

/-- A key is read back, bare or quoted, where a bare one would end. -/
theorem takeKey_memberKey (name : String) (rest : List Char) (hRest : EndsName rest) :
    takeKey ((memberKey name).toList ++ rest) = some (name, rest) := by
  unfold memberKey
  split
  · next h =>
      obtain ⟨c, cs, hs, hStart, -⟩ := isBare_toList h
      have hBare : takeKey (name.toList ++ rest) = takeWordPart (name.toList ++ rest) := by
        rw [hs, List.cons_append]
        unfold takeKey
        split
        · next hc =>
            cases hc
            exact absurd hStart (by decide)
        · rfl
      rw [hBare, takeWordPart_append h hRest]
  · rw [literal_toList_append, takeKey, takeLiteral_flatMap (Or.inl rfl)]
    simp

/-- A key tells which name it was made from, whether it is bare or quoted. -/
theorem memberKey_inj {name other : String} (h : memberKey name = memberKey other) :
    name = other := by
  have hName := takeKey_memberKey name [] endsName_nil
  have hOther := takeKey_memberKey other [] endsName_nil
  rw [h, hOther] at hName
  exact (congrArg Prod.fst (Option.some.inj hName)).symm

end TypedClient.Script
