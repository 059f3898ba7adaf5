import TypedClient.Json.Fault

/-!
The scalars of JSON text: words, numbers and quoted texts. Each is taken in one of two ways. To
read it is to ask for its value. To skip it is only to find its end, and that asks less: neither
the range of a number nor the pairing of surrogates is looked at.
-/

namespace TypedClient.Json

/-- Takes the letters of a word. -/
def takeWord : List Char → List Char → Position → Except Fault Cursor
  | [], cs, p => .ok ⟨cs, p⟩
  | _, [], p => .error ⟨.endInValue, p⟩
  | w :: ws, c :: cs, p =>
    if c = w then takeWord ws cs (p.past c) else .error ⟨.expectedWord, p.pastFirstByte c⟩

theorem takeWord_length_le {ws cs : List Char} {p : Position} {next : Cursor}
    (h : takeWord ws cs p = .ok next) : next.rest.length ≤ cs.length := by
  induction ws generalizing cs p with
  | nil =>
    simp only [takeWord, Except.ok.injEq] at h
    simp [← h]
  | cons w ws ih =>
    cases cs with
    | nil => simp [takeWord] at h
    | cons c cs =>
      simp only [takeWord] at h
      split at h
      · exact Nat.le_succ_of_le (ih h)
      · simp at h

/-! ### Numbers -/

/-- The parts of a written number, as far as it is well formed. The digits are as written. -/
structure NumberParts where
  negative : Bool
  whole : List Char
  fraction : List Char
  /-- Sign and digits of the exponent, and where its digits begin. -/
  exponent : Option (Bool × List Char × Position)

/-- Why a number is not well formed. Where it is cut off by the end of the text, skipping calls
it invalid while reading asks for more. -/
structure NumberFault where
  cutOff : Bool
  position : Position

/-- What reading says of a number that is not well formed. -/
def NumberFault.read (f : NumberFault) : Fault :=
  ⟨if f.cutOff then .endInValue else .invalidNumber, f.position⟩

/-- What skipping says of it. -/
def NumberFault.skipped (f : NumberFault) : Fault :=
  ⟨.invalidNumber, f.position⟩

/-- The digits in front of a text, the rest and its place. -/
def takeDigits (cs : List Char) (p : Position) : List Char × Cursor :=
  let ds := cs.takeWhile Char.isDigit
  (ds, ⟨cs.dropWhile Char.isDigit, p.pastAll ds⟩)

theorem takeDigits_length_lt {c : Char} (h : c.isDigit) (cs : List Char) (p : Position) :
    (takeDigits (c :: cs) p).2.rest.length < (c :: cs).length := by
  simp only [takeDigits, List.dropWhile_cons, h, if_true, List.length_cons]
  exact Nat.lt_succ_of_le (List.dropWhile_sublist _).length_le

/-- One digit or more is due. -/
def requireDigits (cs : List Char) (p : Position) : Except NumberFault (List Char × Cursor) :=
  match cs with
  | [] => .error ⟨true, p⟩
  | c :: _ => if c.isDigit then .ok (takeDigits cs p) else .error ⟨false, p.pastFirstByte c⟩

theorem requireDigits_length_lt {cs : List Char} {p : Position} {r : List Char × Cursor}
    (h : requireDigits cs p = .ok r) : r.2.rest.length < cs.length := by
  unfold requireDigits at h
  split at h
  · contradiction
  · split at h
    · rename_i hc
      cases h
      exact takeDigits_length_lt hc _ _
    · contradiction

/-- A whole part of digits, without a zero in front of another digit. -/
def takeWholePart (cs : List Char) (p : Position) : Except NumberFault (List Char × Cursor) :=
  match cs with
  | '0' :: c :: _ =>
    if c.isDigit then .error ⟨false, (p.past '0').pastFirstByte c⟩ else .ok (takeDigits cs p)
  | _ => requireDigits cs p

theorem takeWholePart_length_lt {cs : List Char} {p : Position} {r : List Char × Cursor}
    (h : takeWholePart cs p = .ok r) : r.2.rest.length < cs.length := by
  unfold takeWholePart at h
  split at h
  · split at h
    · contradiction
    · cases h
      exact takeDigits_length_lt (by decide) _ _
  · exact requireDigits_length_lt h

/-- The fraction of a number, if there is one. -/
def takeFractionPart (cur : Cursor) : Except NumberFault (List Char × Cursor) :=
  match cur.rest with
  | '.' :: cs => requireDigits cs (cur.position.past '.')
  | _ => .ok ([], cur)

theorem takeFractionPart_length_le {cur : Cursor} {r : List Char × Cursor}
    (h : takeFractionPart cur = .ok r) : r.2.rest.length ≤ cur.rest.length := by
  unfold takeFractionPart at h
  split at h
  · rename_i hcs
    rw [hcs]
    exact Nat.le_of_lt (Nat.lt_succ_of_lt (requireDigits_length_lt h))
  · cases h
    exact Nat.le_refl _

/-- The sign of an exponent, if it has one, and what follows. -/
def takeSign (cs : List Char) (p : Position) : Bool × Cursor :=
  match cs with
  | '+' :: ds => (false, ⟨ds, p.past '+'⟩)
  | '-' :: ds => (true, ⟨ds, p.past '-'⟩)
  | _ => (false, ⟨cs, p⟩)

theorem takeSign_length_le (cs : List Char) (p : Position) :
    (takeSign cs p).2.rest.length ≤ cs.length := by
  unfold takeSign
  split <;> simp

/-- The exponent of a number, if there is one. -/
def takeExponentPart (cur : Cursor) :
    Except NumberFault (Option (Bool × List Char × Position) × Cursor) :=
  match cur.rest with
  | [] => .ok (none, cur)
  | c :: cs =>
    if c = 'e' ∨ c = 'E' then
      let (negative, cur) := takeSign cs (cur.position.past c)
      match requireDigits cur.rest cur.position with
      | .error fault => .error fault
      | .ok (digits, next) => .ok (some (negative, digits, cur.position), next)
    else .ok (none, cur)

theorem takeExponentPart_length_le {cur : Cursor}
    {r : Option (Bool × List Char × Position) × Cursor}
    (h : takeExponentPart cur = .ok r) : r.2.rest.length ≤ cur.rest.length := by
  unfold takeExponentPart at h
  split at h
  · cases h
    exact Nat.le_refl _
  · rename_i c cs hcs
    split at h
    · dsimp only at h
      split at h
      · contradiction
      · rename_i hd
        cases h
        have hs := takeSign_length_le cs (cur.position.past c)
        have hd := requireDigits_length_lt hd
        simp only [hcs, List.length_cons] at *
        omega
    · cases h
      exact Nat.le_refl _

/-- The number behind its sign. -/
def takeUnsigned (negative : Bool) (cs : List Char) (p : Position) :
    Except NumberFault (NumberParts × Cursor) :=
  match takeWholePart cs p with
  | .error fault => .error fault
  | .ok (whole, cur) =>
    match takeFractionPart cur with
    | .error fault => .error fault
    | .ok (fraction, cur) =>
      match takeExponentPart cur with
      | .error fault => .error fault
      | .ok (exponent, cur) => .ok (⟨negative, whole, fraction, exponent⟩, cur)

theorem takeUnsigned_length_lt {negative : Bool} {cs : List Char} {p : Position}
    {r : NumberParts × Cursor} (h : takeUnsigned negative cs p = .ok r) :
    r.2.rest.length < cs.length := by
  unfold takeUnsigned at h
  split at h <;> try contradiction
  rename_i hw
  split at h <;> try contradiction
  rename_i hf
  split at h <;> try contradiction
  rename_i he
  cases h
  exact Nat.lt_of_le_of_lt
    (Nat.le_trans (takeExponentPart_length_le he) (takeFractionPart_length_le hf))
    (takeWholePart_length_lt hw)

/-- The parts of the number that the characters begin with. -/
def takeNumber (cs : List Char) (p : Position) : Except NumberFault (NumberParts × Cursor) :=
  match cs with
  | '-' :: rest => takeUnsigned true rest (p.past '-')
  | _ => takeUnsigned false cs p

theorem takeNumber_length_lt {cs : List Char} {p : Position} {r : NumberParts × Cursor}
    (h : takeNumber cs p = .ok r) : r.2.rest.length < cs.length := by
  unfold takeNumber at h
  split at h
  · exact Nat.lt_succ_of_lt (takeUnsigned_length_lt h)
  · exact takeUnsigned_length_lt h

/-- The value of a well-formed number that ends at `stop`. -/
def NumberParts.read (n : NumberParts) (stop : Position) : Except Fault Number :=
  let (significand, dropped) := Number.takeWhole 0 n.whole
  let (significand, taken) := Number.takeFraction significand n.fraction
  let scale : Int := dropped - taken
  match n.exponent with
  | none =>
    if n.fraction = [] then
      inRange (.ofWhole n.negative significand dropped) stop
    else inRange (.decimal n.negative significand scale) stop
  | some (negative, digits, p) =>
    match Number.takeExponent 0 0 digits with
    | .ok e => inRange (.decimal n.negative significand (if negative then scale - e else scale + e))
        stop
    | .error seen =>
      if significand ≠ 0 ∧ negative = false then
        .error ⟨.numberOutOfRange, p.pastAll (digits.take seen)⟩
      else .ok (.decimal n.negative 0 0)
where
  /-- The number, if it lies in the range of a double. -/
  inRange (number : Number) (stop : Position) : Except Fault Number :=
    if number.inRange then .ok number else .error ⟨.numberOutOfRange, stop⟩

/-! ### Quoted texts -/

/-- The value of a hexadecimal digit. -/
def hexValue? (c : Char) : Option Nat :=
  if '0' ≤ c ∧ c ≤ '9' then some (c.toNat - '0'.toNat)
  else if 'a' ≤ c ∧ c ≤ 'f' then some (c.toNat - 'a'.toNat + 10)
  else if 'A' ≤ c ∧ c ≤ 'F' then some (c.toNat - 'A'.toNat + 10)
  else none

/-- The value of four hexadecimal digits. -/
def quadValue? (a b c d : Char) : Option Nat := do
  let a ← hexValue? a
  let b ← hexValue? b
  let c ← hexValue? c
  let d ← hexValue? d
  return ((a * 16 + b) * 16 + c) * 16 + d

/-- The four digits of an escape. Four bytes are taken before they are looked at. -/
def takeQuad (cs : List Char) (p : Position) : Except Fault (Nat × Cursor) :=
  match cs with
  | a :: b :: c :: d :: rest =>
    match quadValue? a b c d with
    | some n => .ok (n, ⟨rest, p.pastAll [a, b, c, d]⟩)
    | none => .error ⟨.invalidEscape, p.pastBytes 4 cs⟩
  | _ =>
    if 4 ≤ (String.ofList cs).utf8ByteSize then .error ⟨.invalidEscape, p.pastBytes 4 cs⟩
    else .error ⟨.endInText, p.pastAll cs⟩

theorem takeQuad_length_lt {cs : List Char} {p : Position} {r : Nat × Cursor}
    (h : takeQuad cs p = .ok r) : r.2.rest.length < cs.length := by
  unfold takeQuad at h
  split at h
  · split at h
    · cases h
      simp
      omega
    · simp at h
  · split at h <;> simp at h

/-- The character that a letter behind a backslash stands for. -/
def shortEscape? (c : Char) : Option Char :=
  if c = '"' ∨ c = '\\' ∨ c = '/' then some c
  else if c = 'b' then some '\x08'
  else if c = 'f' then some '\x0c'
  else if c = 'n' then some '\n'
  else if c = 'r' then some '\r'
  else if c = 't' then some '\t'
  else none

/-- Whether a code unit is the first half of a surrogate pair. -/
def isHighSurrogate (n : Nat) : Bool :=
  0xD800 ≤ n && n ≤ 0xDBFF

/-- Whether a code unit is the second half of a surrogate pair. -/
def isLowSurrogate (n : Nat) : Bool :=
  0xDC00 ≤ n && n ≤ 0xDFFF

/-- The character of a surrogate pair. -/
def ofSurrogates (high low : Nat) : Char :=
  Char.ofNat ((high - 0xD800) * 0x400 + (low - 0xDC00) + 0x10000)

/-- The second half of a surrogate pair, whose first half is `high`. -/
def takeLowSurrogate (high : Nat) (cur : Cursor) : Except Fault (Char × Cursor) :=
  match cur.rest with
  | [] => .error ⟨.endInText, cur.position⟩
  | '\\' :: 'u' :: cs =>
    match takeQuad cs ((cur.position.past '\\').past 'u') with
    | .error fault => .error fault
    | .ok (low, next) =>
      if isLowSurrogate low then .ok (ofSurrogates high low, next)
      else .error ⟨.loneSurrogate, next.position⟩
  | ['\\'] => .error ⟨.endInText, cur.position.past '\\'⟩
  | '\\' :: c :: _ => .error ⟨.unfinishedPair, (cur.position.past '\\').pastFirstByte c⟩
  | c :: _ => .error ⟨.unfinishedPair, cur.position.pastFirstByte c⟩

theorem takeLowSurrogate_length_lt {high : Nat} {cur : Cursor} {r : Char × Cursor}
    (h : takeLowSurrogate high cur = .ok r) : r.2.rest.length < cur.rest.length := by
  unfold takeLowSurrogate at h
  split at h <;> try contradiction
  rename_i hcs
  split at h
  · contradiction
  · rename_i hq
    have := takeQuad_length_lt hq
    split at h
    · simp only [Except.ok.injEq] at h
      simp only [← h, hcs, List.length_cons]
      exact Nat.lt_succ_of_lt (Nat.lt_succ_of_lt this)
    · contradiction

/-- The character that an escape stands for; the cursor is behind the backslash. -/
def readEscape (cs : List Char) (p : Position) : Except Fault (Char × Cursor) :=
  match cs with
  | [] => .error ⟨.endInText, p⟩
  | c :: rest =>
    if c = 'u' then
      match takeQuad rest (p.past c) with
      | .error fault => .error fault
      | .ok (n, next) =>
        if isLowSurrogate n then .error ⟨.loneSurrogate, next.position⟩
        else if isHighSurrogate n then takeLowSurrogate n next
        else .ok (Char.ofNat n, next)
    else match shortEscape? c with
      | some e => .ok (e, ⟨rest, p.past c⟩)
      | none => .error ⟨.invalidEscape, p.pastFirstByte c⟩

theorem readEscape_length_lt {cs : List Char} {p : Position} {r : Char × Cursor}
    (h : readEscape cs p = .ok r) : r.2.rest.length < cs.length := by
  unfold readEscape at h
  split at h
  · simp at h
  · split at h
    · split at h
      · simp at h
      · rename_i hq
        have hq := takeQuad_length_lt hq
        split at h
        · simp at h
        · split at h
          · have := takeLowSurrogate_length_lt h
            simp at *
            omega
          · cases h
            simp at *
            omega
    · split at h
      · cases h
        simp
      · simp at h

/-- Passes over an escape; any four digits will do. -/
def skipEscape (cs : List Char) (p : Position) : Except Fault Cursor :=
  match cs with
  | [] => .error ⟨.endInText, p⟩
  | c :: rest =>
    if c = 'u' then
      match takeQuad rest (p.past c) with
      | .error fault => .error fault
      | .ok (_, next) => .ok next
    else if (shortEscape? c).isSome then .ok ⟨rest, p.past c⟩
    else .error ⟨.invalidEscape, p.pastFirstByte c⟩

theorem skipEscape_length_lt {cs : List Char} {p : Position} {next : Cursor}
    (h : skipEscape cs p = .ok next) : next.rest.length < cs.length := by
  unfold skipEscape at h
  split at h
  · contradiction
  · split at h
    · split at h
      · contradiction
      · rename_i hq
        cases h
        exact Nat.lt_succ_of_lt (takeQuad_length_lt hq)
    · split at h
      · cases h
        exact Nat.lt_succ_self _
      · contradiction

/-- Whether a character must be escaped inside a text. -/
def isControl (c : Char) : Bool :=
  c.toNat < 0x20

/-- The characters up to the closing quote; the cursor is behind the opening one. -/
def readText (cs : List Char) (p : Position) : Except Fault (List Char) :=
  match cs with
  | [] => .error ⟨.endInText, p⟩
  | c :: rest =>
    if c = '"' then .ok []
    else if c = '\\' then
      match h : readEscape rest (p.past c) with
      | .error fault => .error fault
      | .ok (e, next) =>
        have : next.rest.length < rest.length := readEscape_length_lt h
        (readText next.rest next.position).map (e :: ·)
    else if isControl c then .error ⟨.controlCharacter, p.past c⟩
    else (readText rest (p.past c)).map (c :: ·)
termination_by cs.length

/-- Passes over the characters up to and with the closing quote. -/
def skipText (cs : List Char) (p : Position) : Except Fault Cursor :=
  match cs with
  | [] => .error ⟨.endInText, p⟩
  | c :: rest =>
    if c = '"' then .ok ⟨rest, p.past c⟩
    else if c = '\\' then
      match h : skipEscape rest (p.past c) with
      | .error fault => .error fault
      | .ok next =>
        have := skipEscape_length_lt h
        skipText next.rest next.position
    else if isControl c then .error ⟨.controlCharacter, p⟩
    else skipText rest (p.past c)
termination_by cs.length

theorem skipText_length_lt {cs : List Char} {p : Position} {next : Cursor}
    (h : skipText cs p = .ok next) : next.rest.length < cs.length := by
  fun_induction skipText cs p with
  | case1 => simp at h
  | case2 => cases h; simp
  | case3 => simp at h
  | case4 _ _ _ _ _ shorter ih => exact Nat.lt_succ_of_lt (Nat.lt_trans (ih h) shorter)
  | case5 => simp at h
  | case6 _ _ _ _ _ _ ih => exact Nat.lt_succ_of_lt (ih h)

end TypedClient.Json
