import TypedClient.Json.Tree
import TypedClient.Proofs.Json.Positions

/-!
The parts of a tree follow one another as they do in the text. A part lies between the place from
where on it was scanned and the place where it ends, if it does: whatever is said of it lies there
too, and what comes behind lies behind that end. Main statement: so it is in every scanned tree.
-/

namespace TypedClient.Json

/-- From the one place on, and up to the other, if there is one. -/
def Position.Between (p : Position) (q : Option Position) (r : Position) : Prop :=
  p ≤ r ∧ ∀ e ∈ q, r ≤ e

/-- What is found is only found in a part that ends, and what is wrong lies in the part. -/
def EndsBetween {α : Type} (p : Position) (q : Option Position) : Except Fault α → Prop
  | .ok _ => q ≠ none
  | .error fault => p.Between q fault.position

mutual

/-- All that is said of a value lies between two places; without the second, it has no end. -/
inductive Tree.Within : Position → Option Position → Tree → Prop
  | absent {p : Position} {fault : Fault} (hFault : p ≤ fault.position) :
      Tree.Within p none (.absent fault)
  | word {p start stop : Position} {q : Option Position} {value : Except Fault (Option Bool)}
      (hValue : EndsBetween p q value) (hStop : p.Between q stop) :
      Tree.Within p q (.word start value stop)
  | number {p start stop : Position} {q : Option Position} {value : Except Fault Number}
      {skipped : Except Fault Unit} (hValue : EndsBetween p q value)
      (hSkipped : EndsBetween p q skipped) (hStop : p.Between q stop) :
      Tree.Within p q (.number start value skipped stop)
  | text {p start stop : Position} {q : Option Position} {value : Except Fault String}
      {skipped : Except Fault Unit} (hValue : EndsBetween p q value)
      (hSkipped : EndsBetween p q skipped) (hStop : p.Between q stop) :
      Tree.Within p q (.text start value skipped stop)
  | list {p start : Position} {q : Option Position} {items : Items} (hStart : p ≤ start)
      (hInside : items.Within (start.pastFirstByte '[') q) : Tree.Within p q (.list start items)
  | object {p start : Position} {q : Option Position} {members : Members} (hStart : p ≤ start)
      (hInside : members.Within (start.pastFirstByte '[') q) :
      Tree.Within p q (.object start members)

/-- All that is said of what follows inside a list lies between two places. -/
inductive Items.Within : Position → Option Position → Items → Prop
  | closed {p stop e : Position} (hStop : p.Between (some e) stop) :
      Items.Within p (some e) (.closed stop)
  | broken {p : Position} {b : Break} (hRead : p ≤ b.read.position)
      (hSkipped : p ≤ b.skipped.position) (hLeft : p ≤ b.left.position) :
      Items.Within p none (.broken b)
  | next {p m : Position} {q : Option Position} {left : Fault} {value : Tree} {rest : Items}
      (hLeft : p.Between (some m) left.position) (hValue : value.Within p (some m))
      (hRest : rest.Within m q) : Items.Within p q (.next left value rest)
  /-- The value has no end. -/
  | cut {p : Position} {left : Fault} {value : Tree} {b : Break} (hLeft : p ≤ left.position)
      (hValue : value.Within p none) : Items.Within p none (.next left value (.broken b))

/-- All that is said of what follows inside an object lies between two places. -/
inductive Members.Within : Position → Option Position → Members → Prop
  | closed {p stop e : Position} (hStop : p.Between (some e) stop) :
      Members.Within p (some e) (.closed stop)
  | broken {p : Position} {b : Break} (hRead : p ≤ b.read.position)
      (hSkipped : p ≤ b.skipped.position) : Members.Within p none (.broken b)
  | unnamed {p : Position} {fault : Fault} {instead : Tree} (hFault : p ≤ fault.position) :
      Members.Within p none (.unnamed fault instead)
  | next {p m nameStop behindName : Position} {q : Option Position} {left : Fault}
      {name : Except Fault String} {value : Tree} {rest : Members}
      (hName : EndsBetween p (some nameStop) name) (hPlace : p < nameStop)
      (hBehind : nameStop ≤ behindName) (hValue : value.Within behindName (some m))
      (hRest : rest.Within m q) :
      Members.Within p q (.next left name (.ok ()) nameStop behindName value rest)
  /-- The name or the value has no end. -/
  | cut {p nameStop behindName : Position} {left : Fault} {name : Except Fault String}
      {nameSkipped : Except Fault Unit} {value : Tree} {b : Break}
      (hName : ∀ fault, name = .error fault → p ≤ fault.position)
      (hSkipped : ∀ fault, nameSkipped = .error fault → p ≤ fault.position) (hPlace : p < nameStop)
      (hBehind : nameStop ≤ behindName) (hValue : value.Within behindName none) :
      Members.Within p none (.next left name nameSkipped nameStop behindName value (.broken b))

end

/-- Induction along what follows inside an object. -/
@[elab_as_elim]
theorem Members.Within.along
    {motive : (p : Position) → (q : Option Position) → (members : Members) →
      members.Within p q → Prop}
    (closed : ∀ {p stop e : Position} (hStop : p.Between (some e) stop),
      motive p (some e) (.closed stop) (.closed hStop))
    (broken : ∀ {p : Position} {b : Break} (hRead : p ≤ b.read.position)
      (hSkipped : p ≤ b.skipped.position), motive p none (.broken b) (.broken hRead hSkipped))
    (unnamed : ∀ {p : Position} {fault : Fault} {instead : Tree} (hFault : p ≤ fault.position),
      motive p none (.unnamed fault instead) (.unnamed hFault))
    (next : ∀ {p m nameStop behindName : Position} {q : Option Position} {left : Fault}
      {name : Except Fault String} {value : Tree} {rest : Members}
      (hName : EndsBetween p (some nameStop) name) (hPlace : p < nameStop)
      (hBehind : nameStop ≤ behindName) (hValue : value.Within behindName (some m))
      (hRest : rest.Within m q), motive m q rest hRest →
        motive p q (.next left name (.ok ()) nameStop behindName value rest)
          (.next hName hPlace hBehind hValue hRest))
    (cut : ∀ {p nameStop behindName : Position} {left : Fault} {name : Except Fault String}
      {nameSkipped : Except Fault Unit} {value : Tree} {b : Break}
      (hName : ∀ fault, name = .error fault → p ≤ fault.position)
      (hSkipped : ∀ fault, nameSkipped = .error fault → p ≤ fault.position) (hPlace : p < nameStop)
      (hBehind : nameStop ≤ behindName) (hValue : value.Within behindName none),
        motive p none (.next left name nameSkipped nameStop behindName value (.broken b))
          (.cut hName hSkipped hPlace hBehind hValue)) :
    ∀ {p : Position} {q : Option Position} {members : Members} (h : members.Within p q),
      motive p q members h
  | _, _, _, .closed hStop => closed hStop
  | _, _, _, .broken hRead hSkipped => broken hRead hSkipped
  | _, _, _, .unnamed hFault => unnamed hFault
  | _, _, _, .next hName hPlace hBehind hValue hRest =>
      next hName hPlace hBehind hValue hRest (hRest.along closed broken unnamed next cut)
  | _, _, _, .cut hName hSkipped hPlace hBehind hValue =>
      cut hName hSkipped hPlace hBehind hValue

variable {p p' r e : Position} {q : Option Position}

/-! ### Ends -/

theorem Position.Between.le (h : p.Between (some e) r) : p ≤ e :=
  h.1.trans (h.2 e rfl)

theorem Position.Between.mono (h : p.Between q r) (hp : p' ≤ p) : p'.Between q r :=
  ⟨hp.trans h.1, h.2⟩

theorem EndsBetween.mono {α : Type} {result : Except Fault α} (h : EndsBetween p q result)
    (hp : p' ≤ p) : EndsBetween p' q result := by
  cases result with
  | ok a => exact h
  | error fault => exact Position.Between.mono h hp

mutual

theorem Tree.Within.le : {p e : Position} → {t : Tree} → t.Within p (some e) → p ≤ e
  | _, _, _, .word _ hStop => hStop.le
  | _, _, _, .number _ _ hStop => hStop.le
  | _, _, _, .text _ _ hStop => hStop.le
  | _, _, _, .list hStart hInside =>
      hStart.trans ((Position.le_pastFirstByte _ _).trans hInside.le)
  | _, _, _, .object hStart hInside =>
      hStart.trans ((Position.le_pastFirstByte _ _).trans hInside.le)

theorem Items.Within.le :
    {p e : Position} → {items : Items} → items.Within p (some e) → p ≤ e
  | _, _, _, .closed hStop => hStop.le
  | _, _, _, .next _ hValue hRest => hValue.le.trans hRest.le

theorem Members.Within.le :
    {p e : Position} → {members : Members} → members.Within p (some e) → p ≤ e
  | _, _, _, .closed hStop => hStop.le
  | _, _, _, .next _ hPlace hBehind hValue hRest =>
      hPlace.le.trans (hBehind.trans (hValue.le.trans hRest.le))

end

/-- What lies behind a place lies behind all that are in front of it. -/
theorem Tree.Within.mono {t : Tree} (h : t.Within p q) (hp : p' ≤ p) : t.Within p' q := by
  cases h with
  | absent hFault => exact .absent (hp.trans hFault)
  | word hValue hStop => exact .word (hValue.mono hp) (hStop.mono hp)
  | number hValue hSkipped hStop =>
      exact .number (hValue.mono hp) (hSkipped.mono hp) (hStop.mono hp)
  | text hValue hSkipped hStop =>
      exact .text (hValue.mono hp) (hSkipped.mono hp) (hStop.mono hp)
  | list hStart hInside => exact .list (hp.trans hStart) hInside
  | object hStart hInside => exact .object (hp.trans hStart) hInside

theorem Items.Within.mono {items : Items} (h : items.Within p q) (hp : p' ≤ p) :
    items.Within p' q := by
  cases h with
  | closed hStop => exact .closed (hStop.mono hp)
  | broken hRead hSkipped hLeft =>
      exact .broken (hp.trans hRead) (hp.trans hSkipped) (hp.trans hLeft)
  | next hLeft hValue hRest => exact .next (hLeft.mono hp) (hValue.mono hp) hRest
  | cut hLeft hValue => exact .cut (hp.trans hLeft) (hValue.mono hp)

theorem Members.Within.mono {members : Members} (h : members.Within p q) (hp : p' ≤ p) :
    members.Within p' q := by
  cases h with
  | closed hStop => exact .closed (hStop.mono hp)
  | broken hRead hSkipped => exact .broken (hp.trans hRead) (hp.trans hSkipped)
  | unnamed hFault => exact .unnamed (hp.trans hFault)
  | next hName hPlace hBehind hValue hRest =>
      exact .next (hName.mono hp) (hp.trans_lt hPlace) hBehind hValue hRest
  | cut hName hSkipped hPlace hBehind hValue =>
      exact .cut (fun fault h => hp.trans (hName fault h))
        (fun fault h => hp.trans (hSkipped fault h)) (hp.trans_lt hPlace) hBehind hValue

/-! ### Scanning -/

/-- Where the text goes on. -/
def Scanned.stop {α : Type} {n : Nat} (s : Scanned α n) : Option Position :=
  s.2.map (·.1.position)

section Scanning

variable {α : Type} {n : Nat}

theorem Scanned.stop_widen {m : Nat} (h : m ≤ n) (s : Scanned α m) : (s.widen h).stop = s.stop := by
  rw [stop, widen, Option.map_map]
  rfl

theorem Scanned.stop_map {β : Type} {m : Nat} (h : m ≤ n) (a : α) (s : Scanned β m) :
    stop ((a, s.2.map (Shorter.widen h)) : Scanned α n) = s.stop := by
  rw [stop, stop, Option.map_map]
  rfl

theorem Cursor.le_peek (cur : Cursor) : cur.position ≤ cur.peek :=
  Position.le_peek _ _

theorem Cursor.peek_le_skipBlanks (cur : Cursor) : cur.peek ≤ cur.skipBlanks.peek := by
  have hFrom : ∀ cs p, p.peek cs ≤ (skipBlanksFrom cs p).peek := by
    intro cs
    induction cs with
    | nil => exact fun p => le_refl _
    | cons c cs ih =>
        intro p
        rw [skipBlanksFrom]
        split
        · exact (p.pastFirstByte_le_past c).trans ((Position.le_peek _ cs).trans (ih _))
        · exact le_refl _
  exact hFrom cur.rest cur.position

theorem scanWord_within (value : Option Bool) (letters : List Char) (first : Char)
    (rest : List Char) (p : Position) :
    (scanWord value letters first rest p).1.Within p (scanWord value letters first rest p).stop ∧
      ∀ e ∈ (scanWord value letters first rest p).stop, p.past first ≤ e := by
  unfold scanWord
  split
  · next fault hFault =>
    have hLe := (p.le_past first).trans (le_of_takeWord_error hFault)
    exact ⟨.word ⟨hLe, by simp [Scanned.stop]⟩ ⟨le_refl p, by simp [Scanned.stop]⟩,
      by simp [Scanned.stop]⟩
  · next next hNext =>
    have hLe := le_of_takeWord hNext
    refine ⟨.word (by simp [EndsBetween, Scanned.stop]) ⟨(p.le_past first).trans hLe, ?_⟩, ?_⟩
    · simp [Scanned.stop]
    · simpa [Scanned.stop] using hLe

theorem scanNumber_within (cs : List Char) (p : Position) :
    (scanNumber cs p).1.Within p (scanNumber cs p).stop ∧
      ∀ e ∈ (scanNumber cs p).stop, p.peek cs ≤ e := by
  unfold scanNumber
  split
  · next fault hFault =>
    have hLe := le_of_takeNumber_error hFault
    exact ⟨.number ⟨hLe, by simp [Scanned.stop]⟩ ⟨hLe, by simp [Scanned.stop]⟩
      ⟨le_refl p, by simp [Scanned.stop]⟩, by simp [Scanned.stop]⟩
  · next parts next hNext =>
    have hWithin := exponentWithin_of_takeNumber hNext
    refine ⟨.number ?_ (by simp [EndsBetween, Scanned.stop])
      ⟨(p.le_peek cs).trans hWithin.le, by simp [Scanned.stop]⟩, ?_⟩
    · cases hRead : parts.read next.position with
      | ok number => simp [EndsBetween, Scanned.stop]
      | error fault =>
          obtain ⟨hLow, hHigh⟩ := within_of_read_error hWithin hRead
          exact ⟨(p.le_peek cs).trans hLow, by simpa [Scanned.stop] using hHigh⟩
    · simpa [Scanned.stop] using hWithin.le

/-- Where the text behind a quoted text goes on. -/
def ScannedText.behind (s : ScannedText n) : Option Position :=
  s.next.map (·.1.position)

/-- Where a quoted text ends, if it does. -/
structure TextEnds (p : Position) (s : ScannedText n) : Prop where
  value : EndsBetween p s.behind s.value
  skipped : EndsBetween p s.behind s.skipped
  none : s.behind = none → s.stop = p
  some : ∀ e ∈ s.behind, e = s.stop ∧ p < e ∧ s.skipped = .ok ()

/-- A quoted text is read only if it ends, and behind its end the text goes on. -/
theorem scanText_ends (cs : List Char) (p : Position) : TextEnds p (scanText cs p) := by
  unfold scanText
  dsimp only
  split
  · next fault hFault =>
    refine ⟨?_, ⟨le_of_skipText_error hFault, by simp [ScannedText.behind]⟩, fun _ => rfl,
      by simp [ScannedText.behind]⟩
    cases hRead : readText cs p with
    | ok read =>
        obtain ⟨next, hNext⟩ := exists_skipText_of_readText hRead
        rw [hFault] at hNext
        cases hNext
    | error other => exact ⟨le_of_readText_error hRead, by simp [ScannedText.behind]⟩
  · next next hNext =>
    have hLt := lt_of_skipText hNext
    refine ⟨?_, by simp [EndsBetween, ScannedText.behind], by simp [ScannedText.behind],
      by simp [ScannedText.behind, hLt]⟩
    cases hRead : readText cs p with
    | ok read => simp [EndsBetween, ScannedText.behind, Except.map]
    | error other =>
        refine ⟨le_of_readText_error hRead, ?_⟩
        simpa [ScannedText.behind] using readText_error_le hRead hNext

theorem TextEnds.le_stop {p : Position} {s : ScannedText n} (h : TextEnds p s) : p ≤ s.stop := by
  cases hBehind : s.behind with
  | none => exact (h.none hBehind).ge
  | some e =>
      obtain ⟨hEnd, hLt, -⟩ := h.some e hBehind
      exact hEnd ▸ hLt.le

/-! ### Step by step -/

variable {cur : Cursor}

/-- What is asked of a scanned value. -/
def ScansTree (cur : Cursor) : Prop :=
  (scanTree cur).1.Within cur.position (scanTree cur).stop ∧
    ∀ e ∈ (scanTree cur).stop, cur.peek ≤ e

/-- What is asked of what follows inside a list. -/
def ScansItems (cur : Cursor) : Prop :=
  (scanItems cur).1.Within cur.position (scanItems cur).stop

/-- What is asked of a value of a list and all that follows. -/
def ScansItem (cur : Cursor) : Prop :=
  (scanItem cur).1.Within cur.position (scanItem cur).stop

/-- What is asked of what follows inside an object. -/
def ScansMembers (cur : Cursor) : Prop :=
  (scanMembers cur).1.Within cur.position (scanMembers cur).stop

/-- What is asked of a member of an object and all that follows. -/
def ScansMember (cur : Cursor) : Prop :=
  ∀ left p, p < cur.position →
    (scanMember left cur.rest cur.position).1.Within p (scanMember left cur.rest cur.position).stop

/-- What is asked of what follows a member of an object. -/
def ScansMoreMembers (cur : Cursor) : Prop :=
  (scanMoreMembers cur).1.Within cur.position (scanMoreMembers cur).stop

theorem scansTree_of (hItems : ∀ next, next.rest.length < cur.rest.length → ScansItems next)
    (hMembers : ∀ next, next.rest.length < cur.rest.length → ScansMembers next) :
    ScansTree cur := by
  have hStart := cur.le_skipBlanks
  have hPeek := cur.peek_le_skipBlanks
  have hBound := cur.skipBlanks_length_le
  unfold ScansTree scanTree
  dsimp only
  split
  · exact ⟨.absent hStart, by simp [Scanned.stop]⟩
  next c rest hRest =>
  rw [hRest, List.length_cons] at hBound
  have hPast : cur.peek ≤ cur.skipBlanks.position.past c := by
    rw [Cursor.peek, Cursor.peek, hRest] at hPeek
    exact hPeek.trans (Position.pastFirstByte_le_past _ c)
  split
  · next hc =>
    have hInside := hItems ⟨rest, cur.skipBlanks.position.past c⟩ hBound
    subst hc
    rw [Scanned.stop_map]
    refine ⟨.list hStart hInside, fun e he => ?_⟩
    rw [ScansItems, he] at hInside
    exact hPast.trans hInside.le
  split
  · next hc =>
    have hInside := hMembers ⟨rest, cur.skipBlanks.position.past c⟩ hBound
    subst hc
    rw [Scanned.stop_map]
    refine ⟨.object hStart hInside, fun e he => ?_⟩
    rw [ScansMembers, he] at hInside
    exact hPast.trans hInside.le
  split
  · have hText := scanText_ends rest (cur.skipBlanks.position.past c)
    have hFront := hStart.trans (cur.skipBlanks.position.le_past c)
    have hEnd : Scanned.stop ((Tree.text cur.skipBlanks.position
        (scanText rest (cur.skipBlanks.position.past c)).value
        (scanText rest (cur.skipBlanks.position.past c)).skipped
        (scanText rest (cur.skipBlanks.position.past c)).stop,
          (scanText rest (cur.skipBlanks.position.past c)).next.map
            (Shorter.widen (Nat.le_of_lt hBound))) : Scanned Tree cur.rest.length) =
        (scanText rest (cur.skipBlanks.position.past c)).behind :=
      Scanned.stop_map _ _ ((), (scanText rest (cur.skipBlanks.position.past c)).next)
    rw [hEnd]
    refine ⟨.text (hText.value.mono hFront) (hText.skipped.mono hFront)
      ⟨hFront.trans hText.le_stop, ?_⟩, ?_⟩
    · exact fun e he => (hText.some e he).1.ge
    · exact fun e he => hPast.trans (hText.some e he).2.1.le
  split
  · obtain ⟨hWithin, hSome⟩ := scanNumber_within (c :: rest) cur.skipBlanks.position
    rw [Scanned.stop_widen]
    refine ⟨hWithin.mono hStart, fun e he => hPeek.trans ?_⟩
    rw [Cursor.peek, hRest]
    exact hSome e he
  have hWord : ∀ value letters,
      (scanWord value letters c rest cur.skipBlanks.position).1.Within cur.position
        (scanWord value letters c rest cur.skipBlanks.position).stop ∧
      ∀ e ∈ (scanWord value letters c rest cur.skipBlanks.position).stop, cur.peek ≤ e := by
    intro value letters
    obtain ⟨hWithin, hSome⟩ := scanWord_within value letters c rest cur.skipBlanks.position
    exact ⟨hWithin.mono hStart, fun e he => hPast.trans (hSome e he)⟩
  split
  · rw [Scanned.stop_widen]
    exact hWord _ _
  split
  · rw [Scanned.stop_widen]
    exact hWord _ _
  split
  · rw [Scanned.stop_widen]
    exact hWord _ _
  · exact ⟨.absent (hStart.trans (Cursor.le_peek _)), by simp [Scanned.stop]⟩

theorem scansItems_of (hItem : ∀ next, next.rest.length ≤ cur.rest.length → ScansItem next) :
    ScansItems cur := by
  have hStart := cur.le_skipBlanks
  unfold ScansItems scanItems
  dsimp only
  split
  · exact .broken hStart hStart hStart
  next c rest hRest =>
  split
  · exact .closed ⟨hStart.trans (Position.le_past _ c), by simp⟩
  · rw [Scanned.stop_widen]
    exact (hItem cur.skipBlanks cur.skipBlanks_length_le).mono hStart

theorem scansItem_of (hTree : ScansTree cur)
    (hItem : ∀ next, next.rest.length < cur.rest.length → ScansItem next) : ScansItem cur := by
  unfold ScansTree at hTree
  unfold ScansItem scanItem
  dsimp only
  split
  · next value hScan =>
    rw [hScan] at hTree
    exact .cut cur.le_peek hTree.1
  · next value behind shorter hScan =>
    rw [hScan] at hTree
    obtain ⟨hValue, hPeek⟩ := hTree
    have hHere := behind.le_skipBlanks
    have hShort : behind.skipBlanks.rest.length < cur.rest.length :=
      Nat.lt_of_le_of_lt behind.skipBlanks_length_le shorter
    have hFirst : cur.position.Between (some behind.position) cur.peek := ⟨cur.le_peek, hPeek⟩
    split
    · exact .next hFirst hValue (.broken hHere hHere hHere)
    next c rest hRest =>
    rw [hRest] at hShort
    split
    · exact .next hFirst hValue
        (.closed ⟨hHere.trans (Position.le_past _ c), by simp⟩)
    split
    · have hMore := (Cursor.mk rest (behind.skipBlanks.position.past c)).le_skipBlanks
      have hComma := hHere.trans ((behind.skipBlanks.position.le_past c).trans hMore)
      split
      · exact .next hFirst hValue (.broken hComma hComma hComma)
      next d more hNext =>
      have hThere := hComma.trans (Cursor.le_peek _)
      split
      · exact .next hFirst hValue (.broken hThere hThere hThere)
      · rw [Scanned.stop_map]
        refine .next hFirst hValue ((hItem _ ?_).mono hComma)
        have hBehind := (Cursor.mk rest (behind.skipBlanks.position.past c)).skipBlanks_length_le
        simp only [List.length_cons] at hShort hBehind
        omega
    · have hThere := hHere.trans (Cursor.le_peek _)
      exact .next hFirst hValue (.broken hThere hThere hThere)

theorem scansMembers_of (hMember : ∀ next, next.rest.length < cur.rest.length → ScansMember next) :
    ScansMembers cur := by
  have hStart := cur.le_skipBlanks
  have hBound := cur.skipBlanks_length_le
  unfold ScansMembers scanMembers
  dsimp only
  split
  · exact .broken hStart hStart
  next c rest hRest =>
  rw [hRest] at hBound
  split
  · exact .closed ⟨hStart.trans (Position.le_past _ c), by simp⟩
  split
  · rw [Scanned.stop_widen]
    exact hMember ⟨rest, cur.skipBlanks.position.past c⟩ hBound _ _
      (hStart.trans_lt (Position.lt_past _ c))
  · exact .unnamed (hStart.trans (Cursor.le_peek _))

theorem scansMoreMembers_of
    (hMember : ∀ next, next.rest.length < cur.rest.length → ScansMember next) :
    ScansMoreMembers cur := by
  have hStart := cur.le_skipBlanks
  have hBound := cur.skipBlanks_length_le
  unfold ScansMoreMembers scanMoreMembers
  dsimp only
  split
  · exact .broken hStart hStart
  next c rest hRest =>
  rw [hRest] at hBound
  split
  · exact .closed ⟨hStart.trans (Position.le_past _ c), by simp⟩
  split
  · have hMore := (Cursor.mk rest (cur.skipBlanks.position.past c)).le_skipBlanks
    have hComma := hStart.trans ((cur.skipBlanks.position.le_past c).trans hMore)
    have hShort := (Cursor.mk rest (cur.skipBlanks.position.past c)).skipBlanks_length_le
    split
    · exact .broken hComma hComma
    next d more hNext =>
    rw [hNext] at hShort
    have hThere := hComma.trans (Cursor.le_peek _)
    split
    · rw [Scanned.stop_widen]
      refine hMember ⟨more, _⟩ ?_ _ _ (hComma.trans_lt (Position.lt_past _ d))
      simp only [List.length_cons] at hShort hBound ⊢
      omega
    split
    · exact .broken hThere hThere
    · exact .broken hThere hThere
  · have hThere := hStart.trans (Cursor.le_peek _)
    exact .broken hThere hThere

theorem scansMember_of (hTree : ∀ next, next.rest.length < cur.rest.length → ScansTree next)
    (hMore : ∀ next, next.rest.length < cur.rest.length → ScansMoreMembers next) :
    ScansMember cur := by
  intro left p hp
  have hText := scanText_ends cur.rest cur.position
  have hName := hText.value
  have hNamed : ∀ fault, (scanText cur.rest cur.position).value = .error fault →
      p ≤ fault.position := by
    intro fault hFault
    rw [hFault] at hName
    exact hp.le.trans hName.1
  have hPassed : ∀ fault, (scanText cur.rest cur.position).skipped = .error fault →
      p ≤ fault.position := by
    intro fault hFault
    have hSkipped := hText.skipped
    rw [hFault] at hSkipped
    exact hp.le.trans hSkipped.1
  have hPlace := hp.trans_le hText.le_stop
  unfold scanMember
  dsimp only
  split
  · next hNone =>
    have hCut : (scanText cur.rest cur.position).behind = none := by
      rw [ScannedText.behind, hNone]
      rfl
    have hSkipped := hText.skipped
    rw [hCut] at hSkipped
    refine .cut hNamed hPassed hPlace (hText.none hCut).le (.absent ?_)
    split
    · next fault hFault =>
      rw [hFault] at hSkipped
      exact hSkipped.1
    · next hOk =>
      rw [hOk] at hSkipped
      exact absurd rfl hSkipped
  · next behind hShort hSome =>
    obtain ⟨hStop, -, hSkip⟩ := hText.some behind.position (by rw [ScannedText.behind, hSome]; rfl)
    have hHere : (scanText cur.rest cur.position).stop ≤ behind.skipBlanks.position :=
      hStop ▸ behind.le_skipBlanks
    have hBound := Nat.lt_of_le_of_lt behind.skipBlanks_length_le hShort
    split
    · exact .cut hNamed hPassed hPlace hHere (.absent (le_refl _))
    next c rest hRest =>
    rw [hRest] at hBound
    split
    · have hColon := behind.skipBlanks.position.le_past c
      obtain ⟨hValue, -⟩ := hTree ⟨rest, behind.skipBlanks.position.past c⟩
        (Nat.lt_of_succ_lt hBound)
      split
      · next value hScan =>
        rw [hScan] at hValue
        exact .cut hNamed hPassed hPlace hHere (hValue.mono hColon)
      · next value next shorter hScan =>
        rw [hScan] at hValue
        rw [Scanned.stop_map, hSkip]
        refine .next ?_ hPlace hHere (hValue.mono hColon) (hMore next ?_)
        · have hEnd : (scanText cur.rest cur.position).behind = some behind.position := by
            rw [ScannedText.behind, hSome]
            rfl
          rw [hEnd, hStop] at hName
          exact hName.mono hp.le
        · exact Nat.lt_trans shorter (Nat.lt_of_succ_lt hBound)
    · refine .cut hNamed hPassed hPlace ?_ (.absent ?_)
      · split
        · exact hHere.trans (Position.le_past _ c)
        · exact hHere
      · rw [Cursor.peek, hRest]
        split
        · next hc =>
          subst hc
          exact le_refl _
        · exact Position.le_pastFirstByte _ c

/-- What is asked of all scans of a text of some length. -/
structure ScansWithin (cur : Cursor) : Prop where
  tree : ScansTree cur
  items : ScansItems cur
  item : ScansItem cur
  members : ScansMembers cur
  member : ScansMember cur
  moreMembers : ScansMoreMembers cur

theorem scansWithin (cur : Cursor) : ScansWithin cur := by
  induction hLength : cur.rest.length using Nat.strongRecOn generalizing cur with
  | ind n ih =>
      have hShorter : ∀ next : Cursor, next.rest.length < cur.rest.length → ScansWithin next :=
        fun next hNext => ih next.rest.length (hLength ▸ hNext) next rfl
      have hTree : ∀ next : Cursor, next.rest.length ≤ cur.rest.length → ScansTree next := by
        intro next hNext
        exact scansTree_of
          (fun more hMore => (hShorter more (Nat.lt_of_lt_of_le hMore hNext)).items)
          (fun more hMore => (hShorter more (Nat.lt_of_lt_of_le hMore hNext)).members)
      have hItem : ∀ next : Cursor, next.rest.length ≤ cur.rest.length → ScansItem next := by
        intro next hNext
        exact scansItem_of (hTree next hNext)
          (fun more hMore => (hShorter more (Nat.lt_of_lt_of_le hMore hNext)).item)
      exact {
        tree := hTree cur (Nat.le_refl _)
        items := scansItems_of hItem
        item := hItem cur (Nat.le_refl _)
        members := scansMembers_of fun next hNext => (hShorter next hNext).member
        member := scansMember_of (fun next hNext => (hShorter next hNext).tree)
          fun next hNext => (hShorter next hNext).moreMembers
        moreMembers := scansMoreMembers_of fun next hNext => (hShorter next hNext).member }

end Scanning

/-- The value of a text lies between the beginning of the text and where the text goes on. What is
wrong with that lies behind the value. -/
theorem Tree.within_ofString (text : String) :
    ∃ q, (Tree.ofString text).value.Within .start q ∧
      ∀ fault ∈ (Tree.ofString text).trailing, ∃ e, q = some e ∧ e ≤ fault.position := by
  obtain ⟨hWithin, -⟩ := (scansWithin (.ofString text)).tree
  unfold Tree.ofString
  split
  · next value hScan =>
    rw [hScan] at hWithin
    exact ⟨none, hWithin, by simp⟩
  · next value next shorter hScan =>
    rw [hScan] at hWithin
    refine ⟨some next.position, hWithin, ?_⟩
    intro fault hFault
    dsimp only at hFault
    split at hFault
    · cases hFault
    · cases hFault
      exact ⟨_, rfl, next.le_skipBlanks.trans (Cursor.le_peek _)⟩

end TypedClient.Json
