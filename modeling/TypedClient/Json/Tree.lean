import TypedClient.Json.Literal

/-!
JSON text as a tree. A tree says of every value where it stands, and it ends where the text stops
being JSON: what is wrong is part of the tree, at the place where whoever walks it will come
upon it. So a walk in the order of the text finds the first thing wrong, be it in the form of
the text or in what the text says.

Whether something is wrong can depend on whether a value is read, skipped, or left before its
end, and then the tree keeps what each of these would say.
-/

namespace TypedClient.Json

/-- What is said where a list or object cannot go on. -/
structure Break where
  read : Fault
  skipped : Fault
  /-- What is said if the container was to end here. -/
  left : Fault

mutual

/-- A value. -/
inductive Tree where
  /-- No value begins here. -/
  | absent (fault : Fault)
  /-- `null`, `true` or `false`. -/
  | word (start : Position) (value : Except Fault (Option Bool)) (stop : Position)
  | number (start : Position) (value : Except Fault Number) (skipped : Except Fault Unit)
    (stop : Position)
  | text (start : Position) (value : Except Fault String) (skipped : Except Fault Unit)
    (stop : Position)
  | list (start : Position) (items : Items)
  | object (start : Position) (members : Members)

/-- What follows inside a list. -/
inductive Items where
  | closed (stop : Position)
  | broken (stop : Break)
  /-- One more value; `left` is what is said if the list was to end in front of it. -/
  | next (left : Fault) (value : Tree) (rest : Items)

/-- What follows inside an object. -/
inductive Members where
  | closed (stop : Position)
  | broken (stop : Break)
  /-- A value stands where a name should. -/
  | unnamed (fault : Fault) (instead : Tree)
  /-- One more member. `nameStop` is the place behind its name, `behindName` that of what follows
  next, or behind it if that closes the object. -/
  | next (left : Fault) (name : Except Fault String) (nameSkipped : Except Fault Unit)
    (nameStop behindName : Position) (value : Tree) (rest : Members)

end

/-- The same is said in each case. -/
def Break.always (f : Fault) : Break :=
  ⟨f, f, f⟩

/-- What is left of a text, less than there was. -/
abbrev Shorter (n : Nat) : Type :=
  { next : Cursor // next.rest.length < n }

/-- A part of the tree, and where the text goes on, if it does. -/
abbrev Scanned (α : Type) (n : Nat) : Type :=
  α × Option (Shorter n)

/-- Less than a part is less than the whole. -/
def Shorter.widen {m n : Nat} (h : m ≤ n) (s : Shorter m) : Shorter n :=
  ⟨s.1, Nat.lt_of_lt_of_le s.2 h⟩

/-- Less than a part is less than the whole. -/
def Scanned.widen {α : Type} {m n : Nat} (h : m ≤ n) (s : Scanned α m) : Scanned α n :=
  (s.1, s.2.map (Shorter.widen h))

/-- A word, from its first letter on. -/
def scanWord (value : Option Bool) (letters : List Char) (first : Char) (rest : List Char)
    (p : Position) : Scanned Tree (rest.length + 1) :=
  match h : takeWord letters rest (p.past first) with
  | .error fault => (.word p (.error fault) p, none)
  | .ok next =>
    (.word p (.ok value) next.position,
      some ⟨next, Nat.lt_succ_of_le (takeWord_length_le h)⟩)

/-- A number, from its first character on. -/
def scanNumber (cs : List Char) (p : Position) : Scanned Tree cs.length :=
  match h : takeNumber cs p with
  | .error fault => (.number p (.error fault.read) (.error fault.skipped) p, none)
  | .ok (parts, next) =>
    (.number p (parts.read next.position) (.ok ()) next.position,
      some ⟨next, takeNumber_length_lt h⟩)

/-- The content of a text and what passing over it says; the cursor is behind the opening
quote. -/
structure ScannedText (n : Nat) where
  value : Except Fault String
  skipped : Except Fault Unit
  stop : Position
  next : Option (Shorter n)

/-- A text, from behind its opening quote on. -/
def scanText (cs : List Char) (p : Position) : ScannedText cs.length :=
  let value := (readText cs p).map String.ofList
  match h : skipText cs p with
  | .error fault => ⟨value, .error fault, p, none⟩
  | .ok next => ⟨value, .ok (), next.position, some ⟨next, skipText_length_lt h⟩⟩

/-- Whether a number begins with the character. -/
def beginsNumber (c : Char) : Bool :=
  c = '-' || c.isDigit

/-- What starts further on comes earlier in the order in which the tree is scanned. -/
theorem scan_lt {m n : Nat} (h : m < n) (j : Fin 3) (k : Nat) : 3 * m + j < 3 * n + k := by
  omega

mutual

/-- The value at the cursor. -/
def scanTree (cur : Cursor) : Scanned Tree cur.rest.length :=
  let here := cur.skipBlanks
  have bound : cur.skipBlanks.rest.length ≤ cur.rest.length := cur.skipBlanks_length_le
  match h : here.rest with
  | [] => (.absent ⟨.endInValue, here.position⟩, none)
  | c :: rest =>
    have inside : rest.length < cur.rest.length := by
      have bound := bound
      rw [h] at bound
      exact bound
    if c = '[' then
      let s := scanItems ⟨rest, here.position.past c⟩
      (.list here.position s.1, (s.2.map (Shorter.widen (Nat.le_of_lt inside))))
    else if c = '\x7b' then
      let s := scanMembers ⟨rest, here.position.past c⟩
      (.object here.position s.1, (s.2.map (Shorter.widen (Nat.le_of_lt inside))))
    else if c = '"' then
      let s := scanText rest (here.position.past c)
      (.text here.position s.value s.skipped s.stop,
        s.next.map (Shorter.widen (Nat.le_of_lt inside)))
    else if beginsNumber c then
      (scanNumber (c :: rest) here.position).widen (Nat.succ_le_of_lt inside)
    else if c = 'n' then
      (scanWord none ['u', 'l', 'l'] c rest here.position).widen (Nat.succ_le_of_lt inside)
    else if c = 't' then
      (scanWord (some true) ['r', 'u', 'e'] c rest here.position).widen
        (Nat.succ_le_of_lt inside)
    else if c = 'f' then
      (scanWord (some false) ['a', 'l', 's', 'e'] c rest here.position).widen
        (Nat.succ_le_of_lt inside)
    else (.absent ⟨.expectedValue, here.peek⟩, none)
termination_by 3 * cur.rest.length
decreasing_by
  · exact scan_lt inside 2 0
  · exact scan_lt inside 1 0

/-- The inside of a list, from behind its bracket on. -/
def scanItems (cur : Cursor) : Scanned Items cur.rest.length :=
  let here := cur.skipBlanks
  have bound : cur.skipBlanks.rest.length ≤ cur.rest.length := cur.skipBlanks_length_le
  match h : here.rest with
  | [] => (.broken (.always ⟨.endInList, here.position⟩), none)
  | c :: rest =>
    have inside : rest.length < cur.rest.length := by
      have bound := bound
      rw [h] at bound
      exact bound
    if c = ']' then
      (.closed (here.position.past c), some ⟨⟨rest, here.position.past c⟩, inside⟩)
    else (scanItem here).widen bound
termination_by 3 * cur.rest.length + 2
decreasing_by
  exact Nat.add_lt_add_of_le_of_lt (Nat.mul_le_mul_left 3 bound) (Nat.lt_succ_self 1)

/-- A value of a list and what follows it. -/
def scanItem (cur : Cursor) : Scanned Items cur.rest.length :=
  let left : Fault := ⟨.trailingCharacters, cur.peek⟩
  match scanTree cur with
  | (value, none) => (.next left value (.broken (.always left)), none)
  | (value, some ⟨behind, shorter⟩) =>
    let here := behind.skipBlanks
    have bound : here.rest.length < cur.rest.length :=
      Nat.lt_of_le_of_lt behind.skipBlanks_length_le shorter
    match h : here.rest with
    | [] => (.next left value (.broken (.always ⟨.endInList, here.position⟩)), none)
    | c :: rest =>
      have inside : rest.length < cur.rest.length := by
        rw [h] at bound
        exact Nat.lt_of_succ_lt bound
      if c = ']' then
        (.next left value (.closed (here.position.past c)),
          some ⟨⟨rest, here.position.past c⟩, inside⟩)
      else if c = ',' then
        let next := (Cursor.mk rest (here.position.past c)).skipBlanks
        have bound : (Cursor.mk rest (behind.skipBlanks.position.past c)).skipBlanks.rest.length
            ≤ rest.length :=
          (Cursor.mk rest (here.position.past c)).skipBlanks_length_le
        match next.rest with
        | [] =>
          (.next left value (.broken ⟨⟨.endInValue, next.position⟩, ⟨.endInValue, next.position⟩,
            ⟨.trailingCharacters, next.position⟩⟩), none)
        | d :: _ =>
          if d = ']' then
            (.next left value (.broken ⟨⟨.trailingComma, next.peek⟩, ⟨.expectedValue, next.peek⟩,
              ⟨.trailingComma, next.peek⟩⟩), none)
          else
            let s := scanItem next
            (.next left value s.1, s.2.map (Shorter.widen
              (Nat.le_trans bound (Nat.le_of_lt inside))))
      else
        (.next left value (.broken ⟨⟨.expectedCommaOrBracket, here.peek⟩,
          ⟨.expectedCommaOrBracket, here.peek⟩, ⟨.trailingCharacters, here.peek⟩⟩), none)
termination_by 3 * cur.rest.length + 1
decreasing_by
  · exact Nat.lt_succ_self _
  · exact scan_lt (Nat.lt_of_le_of_lt bound inside) 1 1

/-- The inside of an object, from behind its brace on. -/
def scanMembers (cur : Cursor) : Scanned Members cur.rest.length :=
  let here := cur.skipBlanks
  have bound : cur.skipBlanks.rest.length ≤ cur.rest.length := cur.skipBlanks_length_le
  match h : here.rest with
  | [] => (.broken (.always ⟨.endInObject, here.position⟩), none)
  | c :: rest =>
    have inside : rest.length < cur.rest.length := by
      have bound := bound
      rw [h] at bound
      exact bound
    if c = '\x7d' then
      (.closed (here.position.past c), some ⟨⟨rest, here.position.past c⟩, inside⟩)
    else if c = '"' then
      (scanMember ⟨.expectedValue, here.position⟩ rest (here.position.past c)).widen
        (Nat.le_of_lt inside)
    else (.unnamed ⟨.keyNotText, here.peek⟩ (scanTree here).1, none)
termination_by 3 * cur.rest.length + 1
decreasing_by
  · exact scan_lt inside 0 1
  · exact Nat.lt_succ_of_le (Nat.mul_le_mul_left 3 bound)

/-- A member of an object, from behind the quote that opens its name on, and what follows it. -/
def scanMember (left : Fault) (cs : List Char) (p : Position) : Scanned Members cs.length :=
  let name := scanText cs p
  match name.next with
  | none =>
    let fault := match name.skipped with
      | .error fault => fault
      | .ok _ => left
    (.next left name.value name.skipped name.stop p (.absent fault) (.broken (.always fault)), none)
  | some ⟨behind, behindShorter⟩ =>
    let here := behind.skipBlanks
    have bound : here.rest.length < cs.length :=
      Nat.lt_of_le_of_lt behind.skipBlanks_length_le behindShorter
    match h : here.rest with
    | [] =>
      let fault : Fault := ⟨.endInObject, here.position⟩
      (.next left name.value name.skipped name.stop here.position (.absent fault)
        (.broken (.always fault)), none)
    | c :: rest =>
      have inside : rest.length < cs.length := by
        rw [h] at bound
        exact Nat.lt_of_succ_lt bound
      if c = ':' then
        match scanTree ⟨rest, here.position.past c⟩ with
        | (value, none) =>
          (.next left name.value name.skipped name.stop here.position value
            (.broken (.always left)), none)
        | (value, some ⟨next, shorter⟩) =>
          have shorter : next.rest.length < cs.length := Nat.lt_trans shorter inside
          let s := scanMoreMembers next
          (.next left name.value name.skipped name.stop here.position value s.1,
            s.2.map (Shorter.widen (Nat.le_of_lt shorter)))
      else
        let fault : Fault := ⟨.expectedColon, here.peek⟩
        let behindName := if c = '\x7d' then here.position.past c else here.position
        (.next left name.value name.skipped name.stop behindName (.absent fault)
          (.broken (.always fault)), none)
termination_by 3 * cs.length
decreasing_by
  · exact scan_lt inside 0 0
  · exact scan_lt shorter 0 0

/-- What follows a member of an object. -/
def scanMoreMembers (cur : Cursor) : Scanned Members cur.rest.length :=
  let here := cur.skipBlanks
  have bound : cur.skipBlanks.rest.length ≤ cur.rest.length := cur.skipBlanks_length_le
  let left : Fault := ⟨.expectedValue, here.position⟩
  match h : here.rest with
  | [] => (.broken (.always ⟨.endInObject, here.position⟩), none)
  | c :: rest =>
    have inside : rest.length < cur.rest.length := by
      have bound := bound
      rw [h] at bound
      exact bound
    if c = '\x7d' then
      (.closed (here.position.past c), some ⟨⟨rest, here.position.past c⟩, inside⟩)
    else if c = ',' then
      let next := (Cursor.mk rest (here.position.past c)).skipBlanks
      have bound : next.rest.length ≤ rest.length :=
        (Cursor.mk rest (here.position.past c)).skipBlanks_length_le
      match h : next.rest with
      | [] =>
        (.broken ⟨⟨.endInValue, next.position⟩, ⟨.endInObject, next.position⟩, left⟩, none)
      | d :: more =>
        have inside : more.length < cur.rest.length := by
          rw [h] at bound
          exact Nat.lt_of_succ_lt (Nat.lt_of_le_of_lt bound ‹_›)
        if d = '"' then
          (scanMember left more (next.position.past d)).widen (Nat.le_of_lt inside)
        else if d = '\x7d' then
          (.broken ⟨⟨.trailingComma, next.peek⟩, ⟨.keyNotText, next.peek⟩, left⟩, none)
        else
          (.broken ⟨⟨.keyNotText, next.peek⟩, ⟨.keyNotText, next.peek⟩, left⟩, none)
    else
      (.broken ⟨⟨.expectedCommaOrBrace, here.peek⟩, ⟨.expectedCommaOrBrace, here.peek⟩, left⟩,
        none)
termination_by 3 * cur.rest.length
decreasing_by exact scan_lt inside 0 0

end

/-- A whole text: the value in it, and what is wrong with what follows, if anything. -/
structure Tree.Document where
  value : Tree
  trailing : Option Fault

/-- The tree of a whole text. Only blanks may follow the value. -/
def Tree.ofString (s : String) : Tree.Document :=
  match scanTree (.ofString s) with
  | (value, none) => ⟨value, none⟩
  | (value, some ⟨next, _⟩) =>
    let here := next.skipBlanks
    ⟨value, if here.rest = [] then none else some ⟨.trailingCharacters, here.peek⟩⟩

end TypedClient.Json
