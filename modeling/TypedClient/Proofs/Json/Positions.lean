import Mathlib.Order.Basic
import TypedClient.Json.Literal

/-!
Where things stand in a text. Places are ordered as they follow one another, and no part of a text
is said to stand, or to be wrong, in front of where it begins. What is wrong with a scalar that can
be passed over lies no further than where it ends.
-/

namespace TypedClient.Json

namespace Position

variable {p q : Position} {c : Char} {cs ds : List Char}

instance : LE Position where
  le p q := p.line < q.line ∨ p.line = q.line ∧ p.column ≤ q.column

theorem le_iff : p ≤ q ↔ p.line < q.line ∨ p.line = q.line ∧ p.column ≤ q.column := Iff.rfl

instance (p q : Position) : Decidable (p ≤ q) :=
  inferInstanceAs (Decidable (p.line < q.line ∨ p.line = q.line ∧ p.column ≤ q.column))

instance : Preorder Position where
  le_refl p := .inr ⟨rfl, Nat.le_refl _⟩
  le_trans p q r h h' := by
    rw [le_iff] at *
    omega

theorem lt_iff : p < q ↔ p.line < q.line ∨ p.line = q.line ∧ p.column < q.column := by
  rw [lt_iff_le_not_ge, le_iff, le_iff]
  omega

theorem lt_past (p : Position) (c : Char) : p < p.past c := by
  have hSize := c.utf8Size_pos
  rw [lt_iff]
  unfold past
  split
  · exact .inl (Nat.lt_succ_self _)
  · exact .inr ⟨rfl, Nat.lt_add_of_pos_right hSize⟩

theorem le_past (p : Position) (c : Char) : p ≤ p.past c :=
  (lt_past p c).le

theorem le_pastFirstByte (p : Position) (c : Char) : p ≤ p.pastFirstByte c := by
  rw [le_iff]
  unfold pastFirstByte
  split
  · exact .inl (Nat.lt_succ_self _)
  · exact .inr ⟨rfl, Nat.le_succ _⟩

theorem pastFirstByte_le_past (p : Position) (c : Char) : p.pastFirstByte c ≤ p.past c := by
  have hSize := c.utf8Size_pos
  rw [le_iff]
  unfold pastFirstByte past
  split
  · exact .inr ⟨rfl, Nat.le_refl _⟩
  · exact .inr ⟨rfl, Nat.add_le_add_left hSize _⟩

theorem pastAll_append (p : Position) (cs ds : List Char) :
    p.pastAll (cs ++ ds) = (p.pastAll cs).pastAll ds :=
  List.foldl_append

theorem le_pastAll (p : Position) (cs : List Char) : p ≤ p.pastAll cs := by
  induction cs generalizing p with
  | nil => exact le_refl p
  | cons c cs ih => exact (le_past p c).trans (ih (p.past c))

theorem le_pastBytes (p : Position) (n : Nat) (cs : List Char) : p ≤ p.pastBytes n cs := by
  induction cs generalizing p n with
  | nil => cases n <;> exact le_refl p
  | cons c cs ih =>
      cases n with
      | zero => exact le_refl p
      | succ n =>
          rw [pastBytes]
          · split
            · exact (le_past p c).trans (ih _ _)
            · exact .inr ⟨rfl, Nat.le_add_right _ _⟩
          · exact Nat.succ_ne_zero n

theorem le_peek (p : Position) (cs : List Char) : p ≤ p.peek cs := by
  cases cs with
  | nil => exact le_refl p
  | cons c cs => exact le_pastFirstByte p c

end Position

variable {p stop : Position} {cs rest : List Char} {cur next : Cursor} {fault : Fault}

theorem Cursor.le_skipBlanks (cur : Cursor) : cur.position ≤ cur.skipBlanks.position := by
  have hFrom : ∀ cs p, p ≤ (skipBlanksFrom cs p).position := by
    intro cs
    induction cs with
    | nil => exact fun p => le_refl p
    | cons c cs ih =>
        intro p
        rw [skipBlanksFrom]
        split
        · exact (p.le_past c).trans (ih _)
        · exact le_refl p
  exact hFrom cur.rest cur.position

/-! ### Words -/

theorem le_of_takeWord {letters : List Char} (h : takeWord letters cs p = .ok next) :
    p ≤ next.position := by
  induction letters generalizing cs p with
  | nil =>
      cases h
      exact le_refl _
  | cons w letters ih =>
      cases cs with
      | nil => cases h
      | cons c cs =>
          rw [takeWord] at h
          split at h
          · exact (p.le_past c).trans (ih h)
          · cases h

theorem le_of_takeWord_error {letters : List Char} (h : takeWord letters cs p = .error fault) :
    p ≤ fault.position := by
  induction letters generalizing cs p with
  | nil => cases h
  | cons w letters ih =>
      cases cs with
      | nil =>
          cases h
          exact le_refl _
      | cons c cs =>
          rw [takeWord] at h
          split at h
          · exact (p.le_past c).trans (ih h)
          · cases h
            exact p.le_pastFirstByte c

/-! ### Numbers -/

section Numbers

variable {digits : List Char} {numberFault : NumberFault}

theorem le_of_requireDigits_error (h : requireDigits cs p = .error numberFault) :
    p ≤ numberFault.position := by
  unfold requireDigits at h
  split at h
  · cases h
    exact le_refl _
  · split at h
    · cases h
    · cases h
      exact p.le_pastFirstByte _

theorem position_of_requireDigits (h : requireDigits cs p = .ok (digits, next)) :
    next.position = p.pastAll digits := by
  unfold requireDigits at h
  split at h
  · cases h
  · split at h
    · cases h
      rfl
    · cases h

theorem peek_le_takeDigits {c : Char} (hc : c.isDigit = true) (cs : List Char) (p : Position) :
    p.peek (c :: cs) ≤ (takeDigits (c :: cs) p).2.position := by
  rw [takeDigits, List.takeWhile_cons_of_pos hc]
  exact (p.pastFirstByte_le_past c).trans (Position.le_pastAll _ _)

theorem peek_le_of_requireDigits (h : requireDigits cs p = .ok (digits, next)) :
    p.peek cs ≤ next.position := by
  unfold requireDigits at h
  split at h
  · cases h
  · split at h
    · next hc =>
      cases h
      exact peek_le_takeDigits hc _ _
    · cases h

theorem le_of_takeWholePart_error (h : takeWholePart cs p = .error numberFault) :
    p ≤ numberFault.position := by
  unfold takeWholePart at h
  split at h
  · split at h
    · cases h
      exact (p.le_past '0').trans (Position.le_pastFirstByte _ _)
    · cases h
  · exact le_of_requireDigits_error h

/-- A number takes a character at least. -/
theorem peek_le_of_takeWholePart (h : takeWholePart cs p = .ok (digits, next)) :
    p.peek cs ≤ next.position := by
  unfold takeWholePart at h
  split at h
  · split at h
    · cases h
    · cases h
      exact peek_le_takeDigits (by decide) _ _
  · exact peek_le_of_requireDigits h

theorem le_of_takeFractionPart_error (h : takeFractionPart cur = .error numberFault) :
    cur.position ≤ numberFault.position := by
  unfold takeFractionPart at h
  split at h
  · exact (cur.position.le_past '.').trans (le_of_requireDigits_error h)
  · cases h

theorem le_of_takeFractionPart (h : takeFractionPart cur = .ok (digits, next)) :
    cur.position ≤ next.position := by
  unfold takeFractionPart at h
  split at h
  · rw [position_of_requireDigits h]
    exact (cur.position.le_past '.').trans (Position.le_pastAll _ _)
  · cases h
    exact le_refl _

theorem le_takeSign (cs : List Char) (p : Position) : p ≤ (takeSign cs p).2.position := by
  unfold takeSign
  split
  · exact p.le_past '+'
  · exact p.le_past '-'
  · exact le_refl p

theorem le_of_takeExponentPart_error (h : takeExponentPart cur = .error numberFault) :
    cur.position ≤ numberFault.position := by
  unfold takeExponentPart at h
  split at h
  · cases h
  · next c cs hCons =>
    split at h
    · dsimp only at h
      split at h
      · next hDigits =>
        cases h
        exact (cur.position.le_past c).trans
          ((le_takeSign _ _).trans (le_of_requireDigits_error hDigits))
      · cases h
    · cases h

/-- The digits of an exponent end where the number does. -/
structure ExponentWithin (exponent : Option (Bool × List Char × Position)) (p stop : Position) :
    Prop where
  le : p ≤ stop
  digits : ∀ negative digits q, exponent = some (negative, digits, q) →
    p ≤ q ∧ q.pastAll digits = stop

theorem ExponentWithin.mono {exponent : Option (Bool × List Char × Position)} {p' : Position}
    (h : ExponentWithin exponent p stop) (hp : p' ≤ p) : ExponentWithin exponent p' stop where
  le := hp.trans h.le
  digits := fun negative digits q hSome => by
    obtain ⟨hLow, hHigh⟩ := h.digits negative digits q hSome
    exact ⟨hp.trans hLow, hHigh⟩

theorem exponentWithin_of_takeExponentPart
    {exponent : Option (Bool × List Char × Position)}
    (h : takeExponentPart cur = .ok (exponent, next)) :
    ExponentWithin exponent cur.position next.position := by
  unfold takeExponentPart at h
  split at h
  · cases h
    exact ⟨le_refl _, by simp⟩
  · next c cs hCons =>
    split at h
    · dsimp only at h
      split at h
      · cases h
      · next digits after hDigits =>
        have hSign := (cur.position.le_past c).trans (le_takeSign cs (cur.position.past c))
        have hStop := position_of_requireDigits hDigits
        cases h
        refine ⟨?_, ?_⟩
        · rw [hStop]
          exact hSign.trans (Position.le_pastAll _ _)
        · intro negative digits q hSome
          cases hSome
          exact ⟨hSign, hStop.symm⟩
    · cases h
      exact ⟨le_refl _, by simp⟩

theorem le_of_takeUnsigned_error {negative : Bool}
    (h : takeUnsigned negative cs p = .error numberFault) : p ≤ numberFault.position := by
  unfold takeUnsigned at h
  split at h
  · next hWhole =>
    cases h
    exact le_of_takeWholePart_error hWhole
  · next hWhole =>
    have hFront := (p.le_peek cs).trans (peek_le_of_takeWholePart hWhole)
    split at h
    · next hFraction =>
      cases h
      exact hFront.trans (le_of_takeFractionPart_error hFraction)
    · next hFraction =>
      have hMiddle := hFront.trans (le_of_takeFractionPart hFraction)
      split at h
      · next hExponent =>
        cases h
        exact hMiddle.trans (le_of_takeExponentPart_error hExponent)
      · cases h

theorem exponentWithin_of_takeUnsigned {negative : Bool} {parts : NumberParts}
    (h : takeUnsigned negative cs p = .ok (parts, next)) :
    ExponentWithin parts.exponent (p.peek cs) next.position := by
  unfold takeUnsigned at h
  split at h
  · cases h
  · next hWhole =>
    split at h
    · cases h
    · next hFraction =>
      split at h
      · cases h
      · next hExponent =>
        have hFront := (peek_le_of_takeWholePart hWhole).trans (le_of_takeFractionPart hFraction)
        have hWithin := exponentWithin_of_takeExponentPart hExponent
        cases h
        exact hWithin.mono hFront

theorem le_of_takeNumber_error (h : takeNumber cs p = .error numberFault) :
    p ≤ numberFault.position := by
  unfold takeNumber at h
  split at h
  · exact (p.le_past '-').trans (le_of_takeUnsigned_error h)
  · exact le_of_takeUnsigned_error h

theorem exponentWithin_of_takeNumber {parts : NumberParts}
    (h : takeNumber cs p = .ok (parts, next)) :
    ExponentWithin parts.exponent (p.peek cs) next.position := by
  unfold takeNumber at h
  split at h
  · exact (exponentWithin_of_takeUnsigned h).mono
      ((p.pastFirstByte_le_past '-').trans (Position.le_peek _ _))
  · exact exponentWithin_of_takeUnsigned h

/-- A number out of range is refused no later than where it ends. -/
theorem within_of_read_error {parts : NumberParts} (hWithin : ExponentWithin parts.exponent p stop)
    (h : parts.read stop = .error fault) : p ≤ fault.position ∧ fault.position ≤ stop := by
  have hRange : ∀ number, NumberParts.read.inRange number stop = .error fault →
      p ≤ fault.position ∧ fault.position ≤ stop := by
    intro number hError
    unfold NumberParts.read.inRange at hError
    split at hError
    · cases hError
    · cases hError
      exact ⟨hWithin.le, le_refl _⟩
  unfold NumberParts.read at h
  dsimp only at h
  split at h
  · split at h
    · exact hRange _ h
    · exact hRange _ h
  · next negative digits q hExponent =>
    split at h
    · exact hRange _ h
    · next seen hSeen =>
      split at h
      · cases h
        obtain ⟨hLow, hHigh⟩ := hWithin.digits _ _ _ hExponent
        refine ⟨hLow.trans (q.le_pastAll _), ?_⟩
        have hSplit := Position.pastAll_append q (digits.take seen) (digits.drop seen)
        rw [List.take_append_drop, hHigh] at hSplit
        rw [hSplit]
        exact Position.le_pastAll _ _
      · cases h

end Numbers

/-! ### Quoted texts -/

section Texts

variable {n : Nat} {e : Char}

theorem le_of_takeQuad (h : takeQuad cs p = .ok (n, next)) : p ≤ next.position := by
  unfold takeQuad at h
  split at h
  · split at h
    · cases h
      exact p.le_pastAll _
    · cases h
  · split at h <;> cases h

theorem le_of_takeQuad_error (h : takeQuad cs p = .error fault) : p ≤ fault.position := by
  unfold takeQuad at h
  split at h
  · split at h
    · cases h
    · cases h
      exact p.le_pastBytes 4 _
  · split at h
    · cases h
      exact p.le_pastBytes 4 _
    · cases h
      exact p.le_pastAll _

theorem past_le_of_skipEscape {c : Char} (h : skipEscape (c :: cs) p = .ok next) :
    p.past c ≤ next.position := by
  rw [skipEscape] at h
  split at h
  · split at h
    · cases h
    · next hQuad =>
      cases h
      exact le_of_takeQuad hQuad
  · split at h
    · cases h
      exact le_refl _
    · cases h

theorem le_of_skipEscape (h : skipEscape cs p = .ok next) : p ≤ next.position := by
  cases cs with
  | nil => cases h
  | cons c cs => exact (p.le_past c).trans (past_le_of_skipEscape h)

theorem le_of_skipEscape_error (h : skipEscape cs p = .error fault) : p ≤ fault.position := by
  unfold skipEscape at h
  split at h
  · cases h
    exact le_refl _
  · next c rest =>
    split at h
    · split at h
      · next hQuad =>
        cases h
        exact (p.le_past c).trans (le_of_takeQuad_error hQuad)
      · cases h
    · split at h
      · cases h
      · cases h
        exact p.le_pastFirstByte c

theorem lt_of_skipText (h : skipText cs p = .ok next) : p < next.position := by
  fun_induction skipText cs p with
  | case1 => cases h
  | case2 p rest =>
      cases h
      exact p.lt_past '"'
  | case3 => cases h
  | case4 p rest _ here hEscape _ ih =>
      exact (p.lt_past '\\').trans_le ((le_of_skipEscape hEscape).trans (ih h).le)
  | case5 => cases h
  | case6 p c rest _ _ _ ih => exact (p.lt_past c).trans (ih h)

theorem past_le_of_skipText {c : Char} (h : skipText (c :: cs) p = .ok next) :
    p.past c ≤ next.position := by
  rw [skipText] at h
  split at h
  · cases h
    exact le_refl _
  split at h
  · split at h
    · cases h
    · next here hEscape =>
      exact (le_of_skipEscape hEscape).trans (lt_of_skipText h).le
  split at h
  · cases h
  · exact (lt_of_skipText h).le

theorem le_of_skipText_error (h : skipText cs p = .error fault) : p ≤ fault.position := by
  fun_induction skipText cs p with
  | case1 =>
      cases h
      exact le_refl _
  | case2 => cases h
  | case3 p rest _ _ hEscape =>
      cases h
      exact (p.le_past '\\').trans (le_of_skipEscape_error hEscape)
  | case4 p rest _ here hEscape _ ih =>
      exact (p.le_past '\\').trans ((le_of_skipEscape hEscape).trans (ih h))
  | case5 =>
      cases h
      exact le_refl _
  | case6 p c rest _ _ _ ih => exact (p.le_past c).trans (ih h)

theorem skipText_backslash (h : skipEscape cs (p.past '\\') = .ok next) :
    skipText ('\\' :: cs) p = skipText next.rest next.position := by
  rw [skipText, if_neg (by decide), if_pos rfl]
  split
  · next hError =>
    rw [h] at hError
    cases hError
  · next hOk =>
    rw [h] at hOk
    cases hOk
    rfl

theorem skipEscape_of_skipText (h : skipText ('\\' :: cs) p = .ok next) :
    ∃ here, skipEscape cs (p.past '\\') = .ok here := by
  rw [skipText, if_neg (by decide), if_pos rfl] at h
  split at h
  · cases h
  · next here hOk => exact ⟨here, hOk⟩

theorem skipEscape_of_takeQuad (h : takeQuad cs (p.past 'u') = .ok (n, next)) :
    skipEscape ('u' :: cs) p = .ok next := by
  rw [skipEscape, if_pos rfl, h]

theorem takeQuad_of_skipEscape (h : skipEscape ('u' :: cs) p = .ok next) :
    ∃ n, takeQuad cs (p.past 'u') = .ok (n, next) := by
  rw [skipEscape, if_pos rfl] at h
  split at h
  · cases h
  · next n here hQuad =>
    cases h
    exact ⟨n, hQuad⟩

/-- Reading an escape, or two that make a pair, passes over what skipping passes over. -/
theorem skipText_of_readEscape (h : readEscape cs (p.past '\\') = .ok (e, next)) :
    skipText ('\\' :: cs) p = skipText next.rest next.position := by
  unfold readEscape at h
  split at h
  · cases h
  next c rest =>
  split at h
  · next hc =>
    subst hc
    split at h
    · cases h
    next n here hQuad =>
    rw [skipText_backslash (skipEscape_of_takeQuad hQuad)]
    split at h
    · cases h
    split at h
    · -- the first half of a pair: the second is one more escape
      unfold takeLowSurrogate at h
      split at h
      · cases h
      · next more hMore =>
        split at h
        · cases h
        · next low behind hLow =>
          split at h
          · rw [Except.ok.injEq, Prod.mk.injEq] at h
            obtain ⟨-, rfl⟩ := h
            rw [hMore]
            exact skipText_backslash (skipEscape_of_takeQuad hLow)
          · cases h
      · cases h
      · cases h
      · cases h
    · cases h
      rfl
  · next hc =>
    split at h
    · next hShort =>
      cases h
      refine skipText_backslash ?_
      rw [skipEscape, if_neg hc, hShort]
      rfl
    · cases h

theorem takeLowSurrogate_error_le {high : Nat} (hRead : takeLowSurrogate high cur = .error fault)
    (hSkip : skipText cur.rest cur.position = .ok next) : fault.position ≤ next.position := by
  unfold takeLowSurrogate at hRead
  split at hRead
  · next hRest =>
    rw [hRest, skipText] at hSkip
    cases hSkip
  · next more hRest =>
    rw [hRest] at hSkip
    obtain ⟨here, hEscape⟩ := skipEscape_of_skipText hSkip
    obtain ⟨low, hQuad⟩ := takeQuad_of_skipEscape hEscape
    rw [skipText_backslash hEscape] at hSkip
    rw [hQuad] at hRead
    dsimp only at hRead
    split at hRead
    · cases hRead
    · cases hRead
      exact (lt_of_skipText hSkip).le
  · next hRest =>
    rw [hRest] at hSkip
    obtain ⟨here, hEscape⟩ := skipEscape_of_skipText hSkip
    cases hEscape
  · next c more hNotPair hRest =>
    rw [hRest] at hSkip
    obtain ⟨here, hEscape⟩ := skipEscape_of_skipText hSkip
    rw [skipText_backslash hEscape] at hSkip
    cases hRead
    exact (Position.pastFirstByte_le_past _ c).trans
      ((past_le_of_skipEscape hEscape).trans (lt_of_skipText hSkip).le)
  · next c more _ _ hNotBackslash hRest =>
    rw [hRest] at hSkip
    cases hRead
    exact (Position.pastFirstByte_le_past _ c).trans (past_le_of_skipText hSkip)

/-- Where an escape can be passed over, but not read, the fault lies no further than where the
text goes on. -/
theorem readEscape_error_le (hRead : readEscape cs (p.past '\\') = .error fault)
    (hSkip : skipText ('\\' :: cs) p = .ok next) : fault.position ≤ next.position := by
  obtain ⟨here, hEscape⟩ := skipEscape_of_skipText hSkip
  rw [skipText_backslash hEscape] at hSkip
  have hBehind := (lt_of_skipText hSkip).le
  unfold readEscape at hRead
  split at hRead
  · cases hEscape
  next c rest =>
  split at hRead
  · next hc =>
    subst hc
    obtain ⟨n, hQuad⟩ := takeQuad_of_skipEscape hEscape
    rw [hQuad] at hRead
    dsimp only at hRead
    split at hRead
    · cases hRead
      exact hBehind
    split at hRead
    · exact takeLowSurrogate_error_le hRead hSkip
    · cases hRead
  · next hc =>
    split at hRead
    · cases hRead
    · next hShort =>
      rw [skipEscape, if_neg hc, hShort] at hEscape
      cases hEscape

theorem le_of_readEscape (h : readEscape cs p = .ok (e, next)) : p ≤ next.position := by
  unfold readEscape at h
  split at h
  · cases h
  next c rest =>
  split at h
  · split at h
    · cases h
    next n here hQuad =>
    have hHere := (p.le_past c).trans (le_of_takeQuad hQuad)
    split at h
    · cases h
    split at h
    · unfold takeLowSurrogate at h
      split at h
      · cases h
      · split at h
        · cases h
        · next low behind hLow =>
          split at h
          · rw [Except.ok.injEq, Prod.mk.injEq] at h
            obtain ⟨-, rfl⟩ := h
            exact hHere.trans ((Position.le_past _ _).trans
              ((Position.le_past _ _).trans (le_of_takeQuad hLow)))
          · cases h
      · cases h
      · cases h
      · cases h
    · cases h
      exact hHere
  · split at h
    · cases h
      exact p.le_past c
    · cases h

theorem le_of_takeLowSurrogate_error {high : Nat} (h : takeLowSurrogate high cur = .error fault) :
    cur.position ≤ fault.position := by
  unfold takeLowSurrogate at h
  split at h
  · cases h
    exact le_refl _
  · have hBehind := (cur.position.le_past '\\').trans (Position.le_past _ 'u')
    split at h
    · next hQuad =>
      cases h
      exact hBehind.trans (le_of_takeQuad_error hQuad)
    · next hQuad =>
      split at h
      · cases h
      · cases h
        exact hBehind.trans (le_of_takeQuad hQuad)
  · cases h
    exact cur.position.le_past '\\'
  · cases h
    exact (cur.position.le_past '\\').trans (Position.le_pastFirstByte _ _)
  · cases h
    exact cur.position.le_pastFirstByte _

theorem le_of_readEscape_error (h : readEscape cs p = .error fault) : p ≤ fault.position := by
  unfold readEscape at h
  split at h
  · cases h
    exact le_refl _
  next c rest =>
  split at h
  · split at h
    · next hQuad =>
      cases h
      exact (p.le_past c).trans (le_of_takeQuad_error hQuad)
    · next n here hQuad =>
      have hHere := (p.le_past c).trans (le_of_takeQuad hQuad)
      split at h
      · cases h
        exact hHere
      split at h
      · exact hHere.trans (le_of_takeLowSurrogate_error h)
      · cases h
  · split at h
    · cases h
    · cases h
      exact p.le_pastFirstByte c

theorem map_eq_error_iff {ε α β : Type} {r : Except ε α} {f : α → β} {error : ε} :
    r.map f = .error error ↔ r = .error error := by
  cases r <;> simp [Except.map]

theorem exists_of_map_eq_ok {ε α β : Type} {r : Except ε α} {f : α → β} {b : β}
    (h : r.map f = .ok b) : ∃ a, r = .ok a := by
  cases r with
  | error error => cases h
  | ok a => exact ⟨a, rfl⟩

theorem le_of_readText_error (h : readText cs p = .error fault) : p ≤ fault.position := by
  fun_induction readText cs p with
  | case1 =>
      cases h
      exact le_refl _
  | case2 => cases h
  | case3 p rest _ other hEscape =>
      cases h
      exact (p.le_past '\\').trans (le_of_readEscape_error hEscape)
  | case4 p rest _ e next hEscape _ ih =>
      exact (p.le_past '\\').trans
        ((le_of_readEscape hEscape).trans (ih (map_eq_error_iff.mp h)))
  | case5 p c rest =>
      cases h
      exact p.le_past c
  | case6 p c rest _ _ _ ih => exact (p.le_past c).trans (ih (map_eq_error_iff.mp h))

/-- What is read can be passed over. -/
theorem exists_skipText_of_readText {read : List Char} (h : readText cs p = .ok read) :
    ∃ next, skipText cs p = .ok next := by
  fun_induction readText cs p generalizing read with
  | case1 => cases h
  | case2 p rest => exact ⟨_, by rw [skipText, if_pos rfl]⟩
  | case3 => cases h
  | case4 p rest _ e next hEscape _ ih =>
      obtain ⟨inner, hInner⟩ := exists_of_map_eq_ok h
      rw [skipText_of_readEscape hEscape]
      exact ih hInner
  | case5 => cases h
  | case6 p c rest hQuote hBackslash hControl ih =>
      obtain ⟨inner, hInner⟩ := exists_of_map_eq_ok h
      rw [skipText, if_neg hQuote, if_neg hBackslash, if_neg hControl]
      exact ih hInner

/-- What can be passed over, but not read, is refused no later than where it ends. -/
theorem readText_error_le (hRead : readText cs p = .error fault)
    (hSkip : skipText cs p = .ok next) : fault.position ≤ next.position := by
  fun_induction readText cs p with
  | case1 =>
      rw [skipText] at hSkip
      cases hSkip
  | case2 => cases hRead
  | case3 p rest _ other hEscape =>
      cases hRead
      exact readEscape_error_le hEscape hSkip
  | case4 p rest _ e here hEscape _ ih =>
      rw [skipText_of_readEscape hEscape] at hSkip
      exact ih (map_eq_error_iff.mp hRead) hSkip
  | case5 p c rest hQuote hBackslash hControl =>
      rw [skipText, if_neg hQuote, if_neg hBackslash, if_pos hControl] at hSkip
      cases hSkip
  | case6 p c rest hQuote hBackslash hControl ih =>
      rw [skipText, if_neg hQuote, if_neg hBackslash, if_neg hControl] at hSkip
      exact ih (map_eq_error_iff.mp hRead) hSkip

end Texts

end TypedClient.Json
