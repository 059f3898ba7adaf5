import TypedClient.Proofs.Json.Quoted
import TypedClient.Json.Tree

/-!
Values as they are written and scanned back. Main statement: whatever blanks a layout puts between
the tokens, the text of a value without numbers is scanned as a tree without faults, of that very
value.
-/

namespace TypedClient.Json

/-! ### Trees of values -/

mutual

/-- A tree without faults, of a value. -/
inductive Tree.Denotes : Tree → Value → Prop
  | null {start stop : Position} : Tree.Denotes (.word start (.ok none) stop) .null
  | flag {start stop : Position} {b : Bool} :
      Tree.Denotes (.word start (.ok (some b)) stop) (.flag b)
  | text {start stop : Position} {s : String} :
      Tree.Denotes (.text start (.ok s) (.ok ()) stop) (.text s)
  | list {start : Position} {items : Items} {vs : List Value} :
      Items.Denote items vs → Tree.Denotes (.list start items) (.list vs)
  | object {start : Position} {members : Members} {ms : List (String × Value)} :
      Members.Denote members ms → Tree.Denotes (.object start members) (.object ms)

/-- What follows inside a list, without faults, of some values. -/
inductive Items.Denote : Items → List Value → Prop
  | closed {stop : Position} : Items.Denote (.closed stop) []
  | next {left : Fault} {t : Tree} {v : Value} {rest : Items} {vs : List Value} :
      Tree.Denotes t v → Items.Denote rest vs → Items.Denote (.next left t rest) (v :: vs)

/-- What follows inside an object, without faults, of some members. -/
inductive Members.Denote : Members → List (String × Value) → Prop
  | closed {stop : Position} : Members.Denote (.closed stop) []
  | next {left : Fault} {nameStop behindName : Position} {name : String} {t : Tree} {v : Value}
      {rest : Members} {ms : List (String × Value)} :
      Tree.Denotes t v → Members.Denote rest ms →
        Members.Denote (.next left (.ok name) (.ok ()) nameStop behindName t rest)
          ((name, v) :: ms)

end

/-! ### Blanks -/

/-- Nothing but blanks. -/
def Blank (cs : List Char) : Prop :=
  ∀ c ∈ cs, Cursor.isBlank c = true

/-- A layout that puts nothing but blanks between the tokens. -/
structure Layout.Blank (layout : Layout) : Prop where
  line : ∀ level, Json.Blank (layout.line level)
  colon : Json.Blank layout.colon

theorem Layout.compact_blank : compact.Blank where
  line _ := List.forall_mem_nil _
  colon := List.forall_mem_nil _

theorem Layout.indented_blank : indented.Blank where
  line level := by
    intro c hc
    rcases List.mem_cons.mp hc with rfl | hc
    · decide
    · rw [List.eq_of_mem_replicate hc]
      decide
  colon := by
    intro c hc
    rw [List.mem_singleton.mp hc]
    decide

/-- Blanks are passed over up to the first other character. -/
theorem Cursor.skipBlanksFrom_append {front : List Char} {c : Char} (cs : List Char)
    (hFront : Blank front) (hc : isBlank c = false) (p : Position) :
    (skipBlanksFrom (front ++ c :: cs) p).rest = c :: cs := by
  induction front generalizing p with
  | nil =>
      rw [List.nil_append, skipBlanksFrom, hc]
      rfl
  | cons d front ih =>
      rw [List.cons_append, skipBlanksFrom, hFront d (List.mem_cons_self ..), if_pos rfl]
      exact ih (fun e he => hFront e (List.mem_cons_of_mem _ he)) _

theorem Cursor.skipBlanks_rest {cur : Cursor} {front : List Char} {c : Char} {cs : List Char}
    (h : cur.rest = front ++ c :: cs) (hFront : Blank front) (hc : isBlank c = false) :
    cur.skipBlanks.rest = c :: cs := by
  rw [skipBlanks, h]
  exact skipBlanksFrom_append cs hFront hc _

theorem Cursor.skipBlanks_head {cur : Cursor} {c : Char} {cs : List Char}
    (h : cur.rest = c :: cs) (hc : isBlank c = false) : cur.skipBlanks.rest = c :: cs :=
  skipBlanks_rest (h.trans (List.nil_append _).symm) (List.forall_mem_nil _) hc

/-! ### Steps of the scanner -/

section Steps

variable {α : Type} {n : Nat}

/-- A part of the text was scanned, and what is left of it is `after`. -/
def Scanned.Reaches (s : Scanned α n) (P : α → Prop) (after : List Char) : Prop :=
  P s.1 ∧ ∃ next, s.2 = some next ∧ next.1.rest = after

theorem Scanned.Reaches.widen {s : Scanned α n} {P : α → Prop} {after : List Char}
    (hs : s.Reaches P after) {m : Nat} (h : n ≤ m) : (s.widen h).Reaches P after := by
  obtain ⟨hP, next, hNext, hRest⟩ := hs
  refine ⟨hP, Shorter.widen h next, ?_, hRest⟩
  rw [Scanned.widen, hNext]
  rfl

variable {cur : Cursor} {cs after : List Char}

theorem scanTree_list {vs : List Value} (h : cur.skipBlanks.rest = '[' :: cs)
    (hItems : ∀ q, (scanItems ⟨cs, q⟩).Reaches (·.Denote vs) after) :
    (scanTree cur).Reaches (·.Denotes (.list vs)) after := by
  unfold scanTree
  dsimp only
  split
  · next hEnd => exact absurd (h.symm.trans hEnd) (by simp)
  · next c rest hRest =>
      cases h.symm.trans hRest
      rw [if_pos rfl]
      obtain ⟨hDenote, next, hNext, hAfter⟩ := hItems (cur.skipBlanks.position.past '[')
      refine ⟨.list hDenote, ?_⟩
      rw [hNext]
      exact ⟨_, rfl, hAfter⟩

theorem scanTree_object {ms : List (String × Value)} (h : cur.skipBlanks.rest = '\x7b' :: cs)
    (hMembers : ∀ q, (scanMembers ⟨cs, q⟩).Reaches (·.Denote ms) after) :
    (scanTree cur).Reaches (·.Denotes (.object ms)) after := by
  unfold scanTree
  dsimp only
  split
  · next hEnd => exact absurd (h.symm.trans hEnd) (by simp)
  · next c rest hRest =>
      cases h.symm.trans hRest
      rw [if_neg (by decide), if_pos rfl]
      obtain ⟨hDenote, next, hNext, hAfter⟩ := hMembers (cur.skipBlanks.position.past '\x7b')
      refine ⟨.object hDenote, ?_⟩
      rw [hNext]
      exact ⟨_, rfl, hAfter⟩

/-- A written text is scanned as that text, up to behind its closing quote. -/
theorem scanText_written (s : String) (after : List Char) (p : Position) :
    (scanText (s.toList.flatMap writeChar ++ '"' :: after) p).value = .ok s ∧
      (scanText (s.toList.flatMap writeChar ++ '"' :: after) p).skipped = .ok () ∧
      ∃ next, (scanText (s.toList.flatMap writeChar ++ '"' :: after) p).next = some next ∧
        next.1.rest = after := by
  obtain ⟨q, hSkip⟩ := skipText_flatMap s.toList after p
  unfold scanText
  rw [readText_flatMap]
  split
  · next hFault => exact absurd (hSkip.symm.trans hFault) (by simp)
  · next next hNext =>
      cases hSkip.symm.trans hNext
      refine ⟨?_, rfl, _, rfl, rfl⟩
      rw [Except.map, String.ofList_toList]

theorem scanTree_text {s : String}
    (h : cur.skipBlanks.rest = '"' :: (s.toList.flatMap writeChar ++ '"' :: after)) :
    (scanTree cur).Reaches (·.Denotes (.text s)) after := by
  unfold scanTree
  dsimp only
  split
  · next hEnd => exact absurd (h.symm.trans hEnd) (by simp)
  · next c rest hRest =>
      cases h.symm.trans hRest
      rw [if_neg (by decide), if_neg (by decide), if_pos rfl]
      obtain ⟨hValue, hSkipped, next, hNext, hAfter⟩ :=
        scanText_written s after (cur.skipBlanks.position.past '"')
      rw [hValue, hSkipped, hNext]
      exact ⟨.text, _, rfl, hAfter⟩

theorem takeWord_append (letters after : List Char) (p : Position) :
    ∃ q, takeWord letters (letters ++ after) p = .ok ⟨after, q⟩ := by
  induction letters generalizing p with
  | nil => exact ⟨p, rfl⟩
  | cons c letters ih =>
      rw [List.cons_append, takeWord, if_pos rfl]
      exact ih _

theorem scanWord_reaches (value : Option Bool) (letters : List Char) (first : Char)
    (after : List Char) (p : Position) :
    (scanWord value letters first (letters ++ after) p).Reaches
      (fun t => ∃ stop, t = .word p (.ok value) stop) after := by
  obtain ⟨q, hTake⟩ := takeWord_append letters after (p.past first)
  unfold scanWord
  split
  · next hFault => exact absurd (hTake.symm.trans hFault) (by simp)
  · next next hNext =>
      cases hTake.symm.trans hNext
      exact ⟨⟨q, rfl⟩, _, rfl, rfl⟩

/-- The words that are values. -/
def valueWords : List (Char × List Char × Option Bool) :=
  [('n', ['u', 'l', 'l'], none), ('t', ['r', 'u', 'e'], some true),
    ('f', ['a', 'l', 's', 'e'], some false)]

theorem scanTree_word {first : Char} {letters : List Char} {value : Option Bool}
    (hWord : (first, letters, value) ∈ valueWords)
    (h : cur.skipBlanks.rest = first :: (letters ++ after)) :
    (scanTree cur).Reaches (fun t => ∃ start stop, t = .word start (.ok value) stop) after := by
  have hReaches : ∀ p, (scanWord value letters first (letters ++ after) p).Reaches
      (fun t => ∃ start stop, t = .word start (.ok value) stop) after := by
    intro p
    obtain ⟨hTree, hNext⟩ := scanWord_reaches value letters first after p
    exact ⟨⟨p, hTree⟩, hNext⟩
  unfold scanTree
  dsimp only
  split
  · next hEnd => exact absurd (h.symm.trans hEnd) (by simp)
  · next c rest hRest =>
      cases h.symm.trans hRest
      simp only [valueWords, List.mem_cons, List.not_mem_nil, or_false, Prod.mk.injEq] at hWord
      rcases hWord with ⟨rfl, rfl, rfl⟩ | ⟨rfl, rfl, rfl⟩ | ⟨rfl, rfl, rfl⟩
      · exact (hReaches _).widen _
      · exact (hReaches _).widen _
      · exact (hReaches _).widen _

theorem scanItems_closed (h : cur.skipBlanks.rest = ']' :: after) :
    (scanItems cur).Reaches (·.Denote []) after := by
  unfold scanItems
  dsimp only
  split
  · next hEnd => exact absurd (h.symm.trans hEnd) (by simp)
  · next c rest hRest =>
      cases h.symm.trans hRest
      rw [if_pos rfl]
      exact ⟨.closed, _, rfl, rfl⟩

theorem scanItems_item {c : Char} {P : Items → Prop} (h : cur.skipBlanks.rest = c :: cs)
    (hc : c ≠ ']') (hItem : ∀ here, here.rest = c :: cs → (scanItem here).Reaches P after) :
    (scanItems cur).Reaches P after := by
  unfold scanItems
  dsimp only
  split
  · next hEnd => exact absurd (h.symm.trans hEnd) (by simp)
  · next d rest hRest =>
      cases h.symm.trans hRest
      rw [if_neg hc]
      exact (hItem _ h).widen _

/-- The last value of a list is scanned up to behind the bracket. -/
theorem scanItem_last {v : Value} {front : List Char} (hFront : Blank front)
    (hValue : (scanTree cur).Reaches (·.Denotes v) (front ++ ']' :: after)) :
    (scanItem cur).Reaches (·.Denote [v]) after := by
  obtain ⟨hDenotes, next, hNext, hBehind⟩ := hValue
  unfold scanItem
  dsimp only
  split
  · next t hScan => exact absurd (hNext.symm.trans (congrArg Prod.snd hScan)) (by simp)
  · next t behind shorter hScan =>
      rw [hScan] at hDenotes
      cases Option.some.inj (hNext.symm.trans (congrArg Prod.snd hScan))
      have hClose := Cursor.skipBlanks_rest hBehind hFront (by decide)
      split
      · next hEnd => exact absurd (hClose.symm.trans hEnd) (by simp)
      · next c rest hRest =>
          cases hClose.symm.trans hRest
          rw [if_pos rfl]
          exact ⟨.next hDenotes .closed, _, rfl, rfl⟩

/-- A value of a list is scanned with all that follow it. -/
theorem scanItem_more {v : Value} {vs : List Value} {front : List Char} {d : Char}
    (hFront : Blank front) (hd : Cursor.isBlank d = false) (hBracket : d ≠ ']')
    (hValue : (scanTree cur).Reaches (·.Denotes v) (',' :: (front ++ d :: cs)))
    (hMore : ∀ here, here.rest = d :: cs → (scanItem here).Reaches (·.Denote vs) after) :
    (scanItem cur).Reaches (·.Denote (v :: vs)) after := by
  obtain ⟨hDenotes, next, hNext, hBehind⟩ := hValue
  unfold scanItem
  dsimp only
  split
  · next t hScan => exact absurd (hNext.symm.trans (congrArg Prod.snd hScan)) (by simp)
  · next t behind shorter hScan =>
      rw [hScan] at hDenotes
      cases Option.some.inj (hNext.symm.trans (congrArg Prod.snd hScan))
      have hComma := Cursor.skipBlanks_head hBehind (by decide)
      split
      · next hEnd => exact absurd (hComma.symm.trans hEnd) (by simp)
      · next c rest hRest =>
          cases hComma.symm.trans hRest
          rw [if_neg (by decide), if_pos rfl]
          have hItem : (Cursor.mk (front ++ d :: cs)
              (behind.skipBlanks.position.past ',')).skipBlanks.rest = d :: cs :=
            Cursor.skipBlanks_rest rfl hFront hd
          split
          · next hEnd => exact absurd (hItem.symm.trans hEnd) (by simp)
          · next e more hItemRest =>
              cases hItem.symm.trans hItemRest
              rw [if_neg hBracket]
              obtain ⟨hDenote, last, hLast, hAfter⟩ := hMore _ hItem
              refine ⟨.next hDenotes hDenote, ?_⟩
              rw [hLast]
              exact ⟨_, rfl, hAfter⟩

theorem scanMembers_closed (h : cur.skipBlanks.rest = '\x7d' :: after) :
    (scanMembers cur).Reaches (·.Denote []) after := by
  unfold scanMembers
  dsimp only
  split
  · next hEnd => exact absurd (h.symm.trans hEnd) (by simp)
  · next c rest hRest =>
      cases h.symm.trans hRest
      rw [if_pos rfl]
      exact ⟨.closed, _, rfl, rfl⟩

theorem scanMembers_member {P : Members → Prop} (h : cur.skipBlanks.rest = '"' :: cs)
    (hMember : ∀ left q, (scanMember left cs q).Reaches P after) :
    (scanMembers cur).Reaches P after := by
  unfold scanMembers
  dsimp only
  split
  · next hEnd => exact absurd (h.symm.trans hEnd) (by simp)
  · next c rest hRest =>
      cases h.symm.trans hRest
      rw [if_neg (by decide), if_pos rfl]
      exact (hMember _ _).widen _

theorem scanMoreMembers_closed (h : cur.skipBlanks.rest = '\x7d' :: after) :
    (scanMoreMembers cur).Reaches (·.Denote []) after := by
  unfold scanMoreMembers
  dsimp only
  split
  · next hEnd => exact absurd (h.symm.trans hEnd) (by simp)
  · next c rest hRest =>
      cases h.symm.trans hRest
      rw [if_pos rfl]
      exact ⟨.closed, _, rfl, rfl⟩

theorem scanMoreMembers_member {P : Members → Prop} {front : List Char} (hFront : Blank front)
    (h : cur.skipBlanks.rest = ',' :: (front ++ '"' :: cs))
    (hMember : ∀ left q, (scanMember left cs q).Reaches P after) :
    (scanMoreMembers cur).Reaches P after := by
  unfold scanMoreMembers
  dsimp only
  split
  · next hEnd => exact absurd (h.symm.trans hEnd) (by simp)
  · next c rest hRest =>
      cases h.symm.trans hRest
      rw [if_neg (by decide), if_pos rfl]
      have hName : (Cursor.mk (front ++ '"' :: cs)
          (cur.skipBlanks.position.past ',')).skipBlanks.rest = '"' :: cs :=
        Cursor.skipBlanks_rest rfl hFront (by decide)
      split
      · next hEnd => exact absurd (hName.symm.trans hEnd) (by simp)
      · next d more hNameRest =>
          cases hName.symm.trans hNameRest
          rw [if_pos rfl]
          exact (hMember _ _).widen _

/-- A member of an object is scanned with all that follow it. -/
theorem scanMember_written {left : Fault} {name : String} {v : Value} {ms : List (String × Value)}
    {mid : List Char} (p : Position)
    (hValue : ∀ here, here.rest = cs → (scanTree here).Reaches (·.Denotes v) mid)
    (hMore : ∀ here, here.rest = mid → (scanMoreMembers here).Reaches (·.Denote ms) after) :
    (scanMember left (name.toList.flatMap writeChar ++ '"' :: ':' :: cs) p).Reaches
      (·.Denote ((name, v) :: ms)) after := by
  obtain ⟨hName, hSkipped, next, hNext, hBehind⟩ := scanText_written name (':' :: cs) p
  unfold scanMember
  dsimp only
  split
  · next hNone => exact absurd (hNext.symm.trans hNone) (by simp)
  · next behind shorter hSome =>
      cases Option.some.inj (hNext.symm.trans hSome)
      have hColon := Cursor.skipBlanks_head hBehind (by decide)
      split
      · next hEnd => exact absurd (hColon.symm.trans hEnd) (by simp)
      · next c rest hRest =>
          cases hColon.symm.trans hRest
          rw [if_pos rfl]
          obtain ⟨hDenotes, value, hBehindValue, hMid⟩ :=
            hValue ⟨cs, behind.skipBlanks.position.past ':'⟩ rfl
          split
          · next t hScan =>
              exact absurd (hBehindValue.symm.trans (congrArg Prod.snd hScan)) (by simp)
          · next t here hereShorter hScan =>
              rw [hScan] at hDenotes
              cases Option.some.inj (hBehindValue.symm.trans (congrArg Prod.snd hScan))
              obtain ⟨hDenote, last, hLast, hAfter⟩ := hMore here hMid
              rw [hName, hSkipped]
              refine ⟨.next hDenotes hDenote, ?_⟩
              rw [hLast]
              exact ⟨_, rfl, hAfter⟩

end Steps

/-! ### Whole values -/

namespace Value

mutual

/-- No number occurs in the value. -/
def NumberFree : Value → Prop
  | .number _ => False
  | .list vs => NumberFreeItems vs
  | .object ms => NumberFreeMembers ms
  | _ => True

/-- No number occurs in the values. -/
def NumberFreeItems : List Value → Prop
  | [] => True
  | v :: vs => v.NumberFree ∧ NumberFreeItems vs

/-- No number occurs in the values of the members. -/
def NumberFreeMembers : List (String × Value) → Prop
  | [] => True
  | (_, v) :: ms => v.NumberFree ∧ NumberFreeMembers ms

end

/-- The text of a value begins neither with a blank nor with what closes a list. -/
theorem write_head (layout : Layout) (level : Nat) {v : Value} (hv : v.NumberFree) :
    ∃ c cs, v.write layout level = c :: cs ∧ Cursor.isBlank c = false ∧ c ≠ ']' := by
  cases v with
  | null => exact ⟨_, _, rfl, by decide, by decide⟩
  | flag b => cases b <;> exact ⟨_, _, rfl, by decide, by decide⟩
  | number n => exact absurd hv id
  | text s => exact ⟨_, _, rfl, by decide, by decide⟩
  | list vs => cases vs <;> exact ⟨_, _, rfl, by decide, by decide⟩
  | object ms =>
      rcases ms with _ | ⟨⟨name, v⟩, ms⟩ <;> exact ⟨_, _, rfl, by decide, by decide⟩

variable {layout : Layout}

mutual

/-- The text of a value is scanned as a tree of that value. -/
theorem scanTree_write (hLayout : layout.Blank) :
    ∀ (v : Value) (level : Nat) (front after : List Char) (cur : Cursor), v.NumberFree →
      Blank front → cur.rest = front ++ (v.write layout level ++ after) →
      (scanTree cur).Reaches (·.Denotes v) after
  | .null => by
      intro level front after cur _ hFront h
      rw [write] at h
      have hOpen := Cursor.skipBlanks_rest h hFront (by decide)
      obtain ⟨⟨start, stop, hTree⟩, hAfter⟩ := scanTree_word (List.mem_cons_self ..) hOpen
      exact ⟨hTree ▸ .null, hAfter⟩
  | .flag true => by
      intro level front after cur _ hFront h
      rw [write] at h
      have hOpen := Cursor.skipBlanks_rest h hFront (by decide)
      have hWord : ('t', ['r', 'u', 'e'], some true) ∈ valueWords := by decide
      obtain ⟨⟨start, stop, hTree⟩, hAfter⟩ := scanTree_word hWord hOpen
      exact ⟨hTree ▸ .flag, hAfter⟩
  | .flag false => by
      intro level front after cur _ hFront h
      rw [write] at h
      have hOpen := Cursor.skipBlanks_rest h hFront (by decide)
      have hWord : ('f', ['a', 'l', 's', 'e'], some false) ∈ valueWords := by decide
      obtain ⟨⟨start, stop, hTree⟩, hAfter⟩ := scanTree_word hWord hOpen
      exact ⟨hTree ▸ .flag, hAfter⟩
  | .number n => by
      intro _ _ _ _ hv
      exact absurd hv id
  | .text s => by
      intro level front after cur _ hFront h
      rw [write, writeText, List.cons_append, List.cons_append, List.append_assoc] at h
      exact scanTree_text (Cursor.skipBlanks_rest h hFront (by decide))
  | .list [] => by
      intro level front after cur _ hFront h
      rw [write] at h
      refine scanTree_list (Cursor.skipBlanks_rest h hFront (by decide)) fun q => ?_
      exact scanItems_closed (Cursor.skipBlanks_head rfl (by decide))
  | .list (v :: vs) => by
      intro level front after cur hvs hFront h
      simp only [write, List.cons_append, List.append_assoc, List.nil_append] at h
      refine scanTree_list (Cursor.skipBlanks_rest h hFront (by decide)) fun q => ?_
      obtain ⟨c, cs, hWrite, hc, hBracket⟩ := write_head layout (level + 1) hvs.1
      rw [hWrite, List.cons_append]
      refine scanItems_item (Cursor.skipBlanks_rest rfl (hLayout.line _) hc) hBracket ?_
      intro here hHere
      apply scanItem_writeItems hLayout vs v (level + 1) level after here hvs.2
      apply scanTree_write hLayout v (level + 1) [] _ here hvs.1 (List.forall_mem_nil _)
      rw [hHere, hWrite]
      rfl
  | .object [] => by
      intro level front after cur _ hFront h
      rw [write] at h
      refine scanTree_object (Cursor.skipBlanks_rest h hFront (by decide)) fun q => ?_
      exact scanMembers_closed (Cursor.skipBlanks_head rfl (by decide))
  | .object ((name, v) :: ms) => by
      intro level front after cur hms hFront h
      simp only [write, writeText, List.cons_append, List.append_assoc, List.nil_append] at h
      refine scanTree_object (Cursor.skipBlanks_rest h hFront (by decide)) fun q => ?_
      refine scanMembers_member
        (Cursor.skipBlanks_rest rfl (hLayout.line _) (by decide)) fun left p => ?_
      exact scanMember_written p
        (fun here hHere =>
          scanTree_write hLayout v (level + 1) layout.colon _ here hms.1 hLayout.colon hHere)
        (fun here hHere =>
          scanMoreMembers_writeMembers hLayout ms (level + 1) level after here hms.2 hHere)

/-- The texts of the items behind a value are scanned with it, up to behind the bracket. -/
theorem scanItem_writeItems (hLayout : layout.Blank) :
    ∀ (vs : List Value) (v : Value) (level close : Nat) (after : List Char) (cur : Cursor),
      NumberFreeItems vs →
      (scanTree cur).Reaches (·.Denotes v)
        (writeItems layout level vs ++ (layout.line close ++ ']' :: after)) →
      (scanItem cur).Reaches (·.Denote (v :: vs)) after
  | [] => by
      intro v level close after cur _ hValue
      exact scanItem_last (hLayout.line close) hValue
  | w :: vs => by
      intro v level close after cur hvs hValue
      obtain ⟨d, ds, hWrite, hd, hBracket⟩ := write_head layout level hvs.1
      simp only [writeItems, hWrite, List.cons_append, List.append_assoc] at hValue
      refine scanItem_more (hLayout.line level) hd hBracket hValue fun here hHere => ?_
      apply scanItem_writeItems hLayout vs w level close after here hvs.2
      apply scanTree_write hLayout w level [] _ here hvs.1 (List.forall_mem_nil _)
      rw [hHere, hWrite]
      rfl

/-- The texts of further members are scanned as these members, up to behind the brace. -/
theorem scanMoreMembers_writeMembers (hLayout : layout.Blank) :
    ∀ (ms : List (String × Value)) (level close : Nat) (after : List Char) (cur : Cursor),
      NumberFreeMembers ms →
      cur.rest = writeMembers layout level ms ++ (layout.line close ++ '\x7d' :: after) →
      (scanMoreMembers cur).Reaches (·.Denote ms) after
  | [] => by
      intro level close after cur _ h
      exact scanMoreMembers_closed (Cursor.skipBlanks_rest h (hLayout.line close) (by decide))
  | (name, v) :: ms => by
      intro level close after cur hms h
      simp only [writeMembers, writeText, List.cons_append, List.append_assoc,
        List.nil_append] at h
      refine scanMoreMembers_member (hLayout.line level)
        (Cursor.skipBlanks_head h (by decide)) fun left p => ?_
      exact scanMember_written p
        (fun here hHere =>
          scanTree_write hLayout v level layout.colon _ here hms.1 hLayout.colon hHere)
        (fun here hHere =>
          scanMoreMembers_writeMembers hLayout ms level close after here hms.2 hHere)

end

/-- The text of a value is scanned as a tree of that value, with nothing behind it. -/
theorem ofString_render (hLayout : layout.Blank) {v : Value} (hv : v.NumberFree) :
    (Tree.ofString (v.render layout)).value.Denotes v ∧
      (Tree.ofString (v.render layout)).trailing = none := by
  have hText : (Cursor.ofString (v.render layout)).rest = [] ++ (v.write layout 0 ++ []) := by
    rw [Cursor.ofString, render, String.toList_ofList, List.append_nil, List.nil_append]
  obtain ⟨hDenotes, next, hNext, hAfter⟩ :=
    scanTree_write hLayout v 0 [] [] _ hv (List.forall_mem_nil _) hText
  unfold Tree.ofString
  split
  · next t hScan => exact absurd (hNext.symm.trans (congrArg Prod.snd hScan)) (by simp)
  · next t here shorter hScan =>
      rw [hScan] at hDenotes
      cases Option.some.inj (hNext.symm.trans (congrArg Prod.snd hScan))
      refine ⟨hDenotes, if_pos ?_⟩
      rw [Cursor.skipBlanks, hAfter]
      rfl

end Value

end TypedClient.Json
