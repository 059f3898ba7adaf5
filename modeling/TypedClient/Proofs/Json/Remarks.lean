import TypedClient.Proofs.Json.Ends
import TypedClient.Proofs.Json.Fields

/-!
Remarks of a reading, in the order of the text. The names that are remarked upon stand at places of
the tree. Main statement: if each reader that a reader is made of remarks upon just those of its
names that stand in front of what is wrong, and upon all of them if nothing is, then so does the
whole; for a reading ends in the first part with something wrong, and parts follow one another.
-/

namespace TypedClient.Json

/-- A name, and the place behind it. -/
structure PlacedName where
  name : String
  place : Position

/-- Names behind the one place and up to the other, in the order of the text. -/
structure NamesWithin (p : Position) (q : Option Position) (ns : List PlacedName) : Prop where
  within : ∀ n ∈ ns, p < n.place ∧ ∀ e ∈ q, n.place ≤ e
  sorted : ns.Pairwise (·.place < ·.place)

/-- Whether what ended so went on up to a place. -/
def reaches {α : Type} : Except Fault α → Position → Bool
  | .ok _, _ => true
  | .error fault, place => place ≤ fault.position

/-- A reading of a part of the text that remarks upon its names, as far as it gets. -/
structure Reading.Notes {α : Type} (p : Position) (q : Option Position) (ns : List PlacedName)
    (r : Reading α) : Prop where
  ends : EndsBetween p q r.result
  names : NamesWithin p q ns
  remarks : r.remarks = (ns.filter fun n => reaches r.result n.place).map (·.name)

variable {α β : Type} {p p' m : Position} {q : Option Position} {ns ms : List PlacedName}

theorem NamesWithin.nil : NamesWithin p q [] :=
  ⟨List.forall_mem_nil _, .nil⟩

theorem NamesWithin.append (h : NamesWithin p (some m) ns) (h' : NamesWithin m q ms) (hLe : p ≤ m)
    (hEnd : ∀ e ∈ q, m ≤ e) : NamesWithin p q (ns ++ ms) where
  within := by
    intro n hn
    rcases List.mem_append.mp hn with hn | hn
    · exact ⟨(h.within n hn).1, fun e he => ((h.within n hn).2 m rfl).trans (hEnd e he)⟩
    · exact ⟨hLe.trans_lt (h'.within n hn).1, (h'.within n hn).2⟩
  sorted := by
    rw [List.pairwise_append]
    exact ⟨h.sorted, h'.sorted,
      fun n hn n' hn' => ((h.within n hn).2 m rfl).trans_lt (h'.within n' hn').1⟩

theorem NamesWithin.mono (h : NamesWithin p q ns) (hp : p' ≤ p) : NamesWithin p' q ns :=
  ⟨fun n hn => ⟨hp.trans_lt (h.within n hn).1, (h.within n hn).2⟩, h.sorted⟩

/-- What is wrong in front of names keeps a reading from all of them. -/
theorem NamesWithin.filter_of_le {fault : Fault} (h : NamesWithin m q ns)
    (hFault : fault.position ≤ m) :
    ns.filter (fun n => reaches (.error fault : Except Fault α) n.place) = [] := by
  rw [List.filter_eq_nil_iff]
  intro n hn hReach
  have hBefore : n.place ≤ fault.position := of_decide_eq_true hReach
  exact absurd ((h.within n hn).1.trans_le (hBefore.trans hFault)) (lt_irrefl _)

/-- What is wrong behind names keeps a reading from none of them. -/
theorem NamesWithin.filter_of_ge {fault : Fault} (h : NamesWithin p (some m) ns)
    (hFault : m ≤ fault.position) :
    ns.filter (fun n => reaches (.error fault : Except Fault α) n.place) = ns := by
  rw [List.filter_eq_self]
  intro n hn
  exact decide_eq_true (((h.within n hn).2 m rfl).trans hFault)

theorem filter_reaches_ok (a : α) (ns : List PlacedName) :
    ns.filter (fun n => reaches (.ok a : Except Fault α) n.place) = ns :=
  List.filter_eq_self.mpr fun _ _ => rfl

namespace Reading

/-! ### Steps -/

theorem Notes.of {r : Except Fault α} (h : EndsBetween p q r) : (of r).Notes p q [] :=
  ⟨h, .nil, rfl⟩

/-- A fault in front of all names. -/
theorem Notes.fail_of_le {fault : Fault} (h : p.Between q fault.position)
    (hNames : NamesWithin fault.position q ns) : (fail fault : Reading α).Notes p q ns where
  ends := h
  names := hNames.mono h.1
  remarks := by
    rw [fail_result, hNames.filter_of_le (le_refl _)]
    rfl

theorem Notes.fail {fault : Fault} (h : p.Between q fault.position) :
    (fail fault : Reading α).Notes p q [] :=
  fail_of_le h .nil

theorem Notes.ok (h : q ≠ none) (a : α) : (ok a : Reading α).Notes p q [] :=
  .of h

theorem Notes.mono {r : Reading α} (h : r.Notes p q ns) (hp : p' ≤ p) : r.Notes p' q ns :=
  ⟨h.ends.mono hp, h.names.mono hp, h.remarks⟩

/-- Two parts, one behind the other. -/
theorem Notes.bind {r : Reading α} {f : α → Reading β} (h : r.Notes p (some m) ns)
    (hf : ∀ a, (f a).Notes m q ms) (hMore : NamesWithin m q ms) (hLe : p ≤ m)
    (hEnd : ∀ e ∈ q, m ≤ e) : (r >>= f).Notes p q (ns ++ ms) := by
  obtain ⟨hEnds, hNames, hRemarks⟩ := h
  change (Reading.bind r f).Notes p q (ns ++ ms)
  unfold Reading.bind
  cases hResult : r.result with
  | error fault =>
      rw [hResult] at hEnds hRemarks
      refine ⟨⟨hEnds.1, fun e he => (hEnds.2 m rfl).trans (hEnd e he)⟩,
        hNames.append hMore hLe hEnd, ?_⟩
      dsimp only
      rw [List.filter_append, hMore.filter_of_le (hEnds.2 m rfl), List.append_nil]
      exact hRemarks
  | ok a =>
      obtain ⟨hNext, -, hNextRemarks⟩ := hf a
      rw [hResult, filter_reaches_ok] at hRemarks
      dsimp only
      rw [hRemarks, hNextRemarks]
      refine ⟨?_, hNames.append hMore hLe hEnd, ?_⟩
      · cases hStop : (f a).result with
        | ok b => rwa [hStop] at hNext
        | error fault =>
            rw [hStop] at hNext
            exact hNext.mono hLe
      · dsimp only
        rw [List.filter_append, List.map_append]
        congr 2
        cases hStop : (f a).result with
        | ok b => exact (filter_reaches_ok b ns).symm
        | error fault =>
            rw [hStop] at hNext
            rw [hNames.filter_of_ge hNext.1]

/-- A part without an end: nothing behind it is read. -/
theorem Notes.bind_cut {r : Reading α} {f : α → Reading β} (h : r.Notes p none ns) :
    (r >>= f).Notes p none ns := by
  obtain ⟨hEnds, hNames, hRemarks⟩ := h
  change (Reading.bind r f).Notes p none ns
  unfold Reading.bind
  cases hResult : r.result with
  | error fault =>
      rw [hResult] at hEnds hRemarks
      exact ⟨hEnds, hNames, hRemarks⟩
  | ok a =>
      rw [hResult] at hEnds
      exact absurd rfl hEnds

/-- A step that only makes something of what was read. -/
theorem Notes.bind_ok {r : Reading α} {f : α → Reading β} (h : r.Notes p q ns)
    (hf : ∀ a, ∃ b, f a = .ok b) : (r >>= f).Notes p q ns := by
  obtain ⟨hEnds, hNames, hRemarks⟩ := h
  change (Reading.bind r f).Notes p q ns
  unfold Reading.bind
  cases hResult : r.result with
  | error fault =>
      rw [hResult] at hEnds hRemarks
      exact ⟨hEnds, hNames, hRemarks⟩
  | ok a =>
      obtain ⟨b, hb⟩ := hf a
      rw [hResult] at hEnds hRemarks
      refine ⟨?_, hNames, ?_⟩
      · dsimp only
        rw [hb]
        exact hEnds
      · dsimp only
        rw [hb, hRemarks]
        exact List.append_nil _

theorem Notes.map {r : Reading α} (f : α → β) (h : r.Notes p q ns) :
    (do return f (← r) : Reading β).Notes p q ns :=
  h.bind_ok fun a => ⟨f a, rfl⟩

end Reading

/-- The reader remarks upon these names of a tree, as far as it gets. -/
def Remarks (read : Tree → Reading α) (names : Tree → List PlacedName) : Prop :=
  ∀ ⦃p : Position⦄ ⦃q : Option Position⦄ ⦃t : Tree⦄, t.Within p q → (read t).Notes p q (names t)

/-- The reader makes no remarks. -/
def Silent (read : Tree → Reading α) : Prop :=
  Remarks read fun _ => []

theorem Remarks.congr {read : Tree → Reading α} {names names' : Tree → List PlacedName}
    (h : Remarks read names) (hNames : ∀ t, names t = names' t) : Remarks read names' :=
  fun _ _ t ht => hNames t ▸ h ht

theorem Remarks.map {read : Tree → Reading α} {names : Tree → List PlacedName} (f : α → β)
    (h : Remarks read names) : Remarks (fun t => do return f (← read t)) names :=
  fun _ _ _ ht => (h ht).map f

/-! ### Scalars -/

theorem silent_text : Silent Tree.readText := by
  intro p q t ht
  have hWrong := ht.wrongKind_between "a string"
  unfold Tree.readText
  split
  · cases ht with
    | text hValue _ _ => exact .ok hValue _
  · exact .fail hWrong

theorem Silent.optional {read : Tree → Reading α} (h : Silent read) :
    Silent (Tree.readOptional read) := by
  intro p q t ht
  unfold Tree.readOptional
  split
  · cases ht with
    | word hValue _ => exact .ok hValue _
  · exact (h ht).map some

/-! ### Lists and objects of one kind of value -/

/-- The members of an object with the names that can be read and their places, in order. -/
def Members.placedEntries : Members → List (PlacedName × Tree)
  | .next _ (.ok name) _ nameStop _ value rest => (⟨name, nameStop⟩, value) :: rest.placedEntries
  | .next _ (.error _) _ _ _ _ rest => rest.placedEntries
  | _ => []

@[simp] theorem Members.entries_broken (b : Break) : (Members.broken b).entries = [] := rfl

@[simp] theorem Items.values_broken (b : Break) : (Items.broken b).values = [] := rfl

@[simp] theorem Members.placedEntries_broken (b : Break) :
    (Members.broken b).placedEntries = [] := rfl

/-- The members of an object with their names and places; none if it is no object. -/
def Tree.placedEntries : Tree → List (PlacedName × Tree)
  | .object _ members => members.placedEntries
  | _ => []

theorem Members.entries_eq_map : (members : Members) →
    members.entries = members.placedEntries.map fun e => (e.1.name, e.2)
  | .closed _ => rfl
  | .broken _ => rfl
  | .unnamed _ _ => rfl
  | .next _ (.ok _) _ _ _ _ rest => by
      rw [entries, placedEntries, List.map_cons, rest.entries_eq_map]
  | .next _ (.error _) _ _ _ _ rest => by
      rw [entries, placedEntries, rest.entries_eq_map]

theorem Tree.entries_eq_map (t : Tree) :
    t.entries = t.placedEntries.map fun e => (e.1.name, e.2) := by
  cases t with
  | object start members => exact members.entries_eq_map
  | absent | word | number | text | list => rfl

/-- The reader of a member remarks upon these names of it. -/
def MemberRemarks (read : String → Tree → Reading α)
    (names : PlacedName → Tree → List PlacedName) : Prop :=
  ∀ ⦃p nameStop behindName : Position⦄ ⦃q : Option Position⦄ ⦃name : String⦄ ⦃value : Tree⦄,
    p < nameStop → nameStop ≤ behindName → value.Within behindName q →
      (read name value).Notes p q (names ⟨name, nameStop⟩ value)

/-- The members of an object are remarked upon one after the other. -/
theorem Members.Within.readEach_notes {read : String → Tree → Reading α}
    {names : PlacedName → Tree → List PlacedName} (hRead : MemberRemarks read names)
    {members : Members} (h : members.Within p q) :
    (members.readEach read).Notes p q
      (members.placedEntries.flatMap fun e => names e.1 e.2) := by
  induction h using Members.Within.along with
  | closed _ =>
      rw [Members.readEach]
      exact .ok (by simp) _
  | broken hStop _ =>
      rw [Members.readEach]
      exact .fail ⟨hStop, by simp⟩
  | unnamed hFault =>
      rw [Members.readEach]
      exact .fail ⟨hFault, by simp⟩
  | @next _ _ _ _ _ _ name _ _ hName hPlace hBehind hValue hRest hMore =>
      have hLe := hPlace.le.trans (hBehind.trans hValue.le)
      rw [Members.readEach]
      cases name with
      | error fault =>
          refine .fail_of_le ⟨hName.1, fun e he => ?_⟩ ?_
          · exact (hName.2 _ rfl).trans (hBehind.trans (hValue.le.trans (hRest.le_end e he)))
          · exact hMore.names.mono ((hName.2 _ rfl).trans (hBehind.trans hValue.le))
      | ok name =>
          exact (hRead hPlace hBehind hValue).bind (fun a => hMore.map (a :: ·)) hMore.names hLe
            hRest.le_end
  | @cut _ _ _ _ name _ _ _ hName _ hPlace hBehind hValue =>
      rw [Members.readEach]
      cases name with
      | error fault => exact .fail ⟨hName fault rfl, by simp⟩
      | ok name =>
          rw [Members.placedEntries, List.flatMap_cons, Members.placedEntries_broken,
            List.flatMap_nil, List.append_nil]
          exact (hRead hPlace hBehind hValue).bind_cut

/-- An object in which the readers of the members make remarks. -/
theorem MemberRemarks.object {read : String → Tree → Reading α}
    {names : PlacedName → Tree → List PlacedName} (h : MemberRemarks read names)
    (expected : String) (room : Nat) :
    Remarks (Tree.readObject expected read room)
      fun t => t.placedEntries.flatMap fun e => names e.1 e.2 := by
  intro p q t ht
  cases t with
  | object start members =>
      have hWhole := ht
      cases ht with
      | object hStart hInside =>
          have hNotes := hInside.readEach_notes h
          cases room with
          | zero =>
              obtain ⟨hBetween, hBefore⟩ := hWhole.refuse_object false true expected
              exact .fail_of_le hBetween (hNotes.names.mono hBefore)
          | succ room => exact hNotes.mono (hStart.trans (Position.le_pastFirstByte _ _))
  | absent | word | number | text | list =>
      cases room with
      | zero => exact .fail (ht.refuse_between false true expected)
      | succ room => exact .fail (ht.wrongKind_between expected)

/-! ### Records -/

namespace Record

variable {σ : Type} {r : Record σ α} {fields : List (Field σ)} {k : String → Tree → List PlacedName}

/-- A record that is laid out as fields, in which the reader of each field makes remarks. Members
that are not known are passed over without any, and nothing has to be given. -/
structure Noted (r : Record σ α) (fields : List (Field σ)) (k : String → Tree → List PlacedName) :
    Prop where
  laid : r.Laid fields
  finish : ∀ s, ∃ a, r.finish s = .ok a
  read : ∀ f ∈ fields, Remarks f.read (k f.name)
  unknown : ∀ name, name ∉ fields.map (·.name) → ∀ t, k name t = []

theorem Noted.readMember_notes (h : r.Noted fields k) {value : Tree} (hValue : value.Within p q)
    (s : σ) (name : String) : (r.readMember s name p value).Notes p q (k name value) := by
  by_cases hKnown : name ∈ fields.map (·.name)
  · obtain ⟨f, hf, rfl⟩ := List.mem_map.mp hKnown
    have hNotes := h.read f hf hValue
    cases hSlot : f.slot s with
    | none =>
        rw [h.laid.readMember_empty hf hSlot]
        exact hNotes.map _
    | some b =>
        rw [h.laid.readMember_filled hf (by rw [hSlot, Option.isSome_some])]
        exact .fail_of_le ⟨le_refl p, hValue.le_end⟩ hNotes.names
  · rw [h.laid.readMember_unknown hKnown, h.unknown name hKnown]
    exact (Reading.Notes.of hValue.skip_ends).map fun _ => s

theorem Noted.readMembers_notes (h : r.Noted fields k) {members : Members}
    (hMembers : members.Within p q) (s : σ) :
    (r.readMembers s members).Notes p q (members.entries.flatMap fun e => k e.1 e.2) := by
  induction hMembers using Members.Within.along generalizing s with
  | closed _ =>
      rw [readMembers]
      exact .ok (by simp) _
  | broken hStop _ =>
      rw [readMembers]
      exact .fail ⟨hStop, by simp⟩
  | unnamed hFault =>
      rw [readMembers]
      exact .fail ⟨hFault, by simp⟩
  | @next _ _ _ _ _ _ name _ _ hName hPlace hBehind hValue hRest hMore =>
      have hFront := hPlace.le.trans hBehind
      cases name with
      | error fault =>
          rw [readMembers]
          refine .fail_of_le ⟨hName.1, fun e he => ?_⟩ ?_
          · exact (hName.2 _ rfl).trans (hBehind.trans (hValue.le.trans (hRest.le_end e he)))
          · exact (hMore s).names.mono ((hName.2 _ rfl).trans (hBehind.trans hValue.le))
      | ok name =>
          rw [readMembers_next]
          exact ((h.readMember_notes hValue s name).bind hMore (hMore s).names hValue.le
            hRest.le_end).mono hFront
  | @cut _ _ _ _ name _ _ _ hName _ hPlace hBehind hValue =>
      cases name with
      | error fault =>
          rw [readMembers]
          exact .fail ⟨hName fault rfl, by simp⟩
      | ok name =>
          rw [readMembers_next, Members.entries, List.flatMap_cons, Members.entries_broken,
            List.flatMap_nil, List.append_nil]
          exact (h.readMember_notes hValue s name).bind_cut.mono (hPlace.le.trans hBehind)

/-- The values in a list are remarked upon in the order of the members. -/
theorem readItems_notes {fs : List (Field σ)} (hRead : ∀ f ∈ fs, Remarks f.read (k f.name))
    {items : Items} (hItems : items.Within p q) (index : Nat) (s : σ) :
    (r.readItems index s (fs.map Field.member) items).Notes p q
      (((fs.map (·.name)).zip items.values).flatMap fun e => k e.1 e.2) := by
  induction fs generalizing p items index s with
  | nil =>
      rw [List.map_nil, List.map_nil, List.zip_nil_left, List.flatMap_nil]
      cases hItems with
      | closed _ => exact .ok (by simp) _
      | broken _ _ hLeft => exact .fail ⟨hLeft, by simp⟩
      | next hLeft hValue hRest =>
          refine .fail ⟨hLeft.1, fun e he => ?_⟩
          exact (hLeft.2 _ rfl).trans (hRest.le_end e he)
      | cut hLeft _ => exact .fail ⟨hLeft, by simp⟩
  | cons f fs ih =>
      have hHead := hRead f (List.mem_cons_self ..)
      have hTail : ∀ g ∈ fs, Remarks g.read (k g.name) :=
        fun g hg => hRead g (List.mem_cons_of_mem _ hg)
      cases hItems with
      | closed hStop =>
          have hMore := ih hTail (.closed hStop) (index + 1) s
          rw [Items.values_closed, List.zip_nil_right, List.flatMap_nil] at hMore ⊢
          rw [List.map_cons, readItems]
          split
          · exact hMore
          · exact .fail hStop
      | broken hStop _ _ => exact .fail ⟨hStop, by simp⟩
      | next _ hValue hRest =>
          have hMore := ih hTail hRest (index + 1)
          exact ((hHead hValue).map (f.put s)).bind hMore (hMore s).names hValue.le hRest.le_end
      | cut _ hValue =>
          rw [List.map_cons, List.map_cons, Items.values, Items.values_broken, List.zip_cons_cons,
            List.zip_nil_right, List.flatMap_cons, List.flatMap_nil, List.append_nil]
          exact ((hHead hValue).map (f.put s)).bind_cut

theorem Noted.finishAt_ok (h : r.Noted fields k) (read : σ × Position) :
    ∃ a, r.finishAt read = .ok a := by
  obtain ⟨a, ha⟩ := h.finish read.1
  refine ⟨a, ?_⟩
  rw [finishAt, ha]

theorem Noted.remarks_readInside (h : r.Noted fields k) :
    Remarks r.readInside fun t => (t.fields r.names).flatMap fun e => k e.1 e.2 := by
  intro p q t ht
  cases t with
  | object start members =>
      cases ht with
      | object hStart hInside =>
          have hNotes := (h.readMembers_notes hInside r.empty).bind_ok h.finishAt_ok
          exact hNotes.mono (hStart.trans (Position.le_pastFirstByte _ _))
  | list start items =>
      cases ht with
      | list hStart hInside =>
          have hNotes := readItems_notes (r := r) h.read hInside 0 r.empty
          rw [← h.laid.members, ← h.laid.names_eq] at hNotes
          exact (hNotes.bind_ok h.finishAt_ok).mono (hStart.trans (Position.le_pastFirstByte _ _))
  | absent | word | number | text => exact .fail (ht.wrongKind_between r.title)

/-- A record that is refused is refused in front of all names in it. -/
theorem Noted.fail_refuse_notes (h : r.Noted fields k) {t : Tree} (ht : t.Within p q)
    (expected : String) : (Reading.fail (t.refuse true true expected) : Reading β).Notes p q
      ((t.fields r.names).flatMap fun e => k e.1 e.2) := by
  cases t with
  | object start members =>
      obtain ⟨hBetween, hBefore⟩ := ht.refuse_object true true expected
      cases ht with
      | object hStart hInside =>
          exact .fail_of_le hBetween ((h.readMembers_notes hInside r.empty).names.mono hBefore)
  | list start items =>
      obtain ⟨hBetween, hBefore⟩ := ht.refuse_list true true expected
      cases ht with
      | list hStart hInside =>
          have hNotes := readItems_notes (r := r) h.read hInside 0 r.empty
          rw [← h.laid.names_eq] at hNotes
          exact .fail_of_le hBetween (hNotes.names.mono hBefore)
  | absent | word | number | text => exact .fail (ht.refuse_between true true expected)

end Record

/-- A record whose members make remarks, at any depth. -/
theorem Tree.remarks_readRecord {σ : Type} {inside : Nat → Record σ α}
    {fields : Nat → List (Field σ)} {k : String → Tree → List PlacedName} {names : List String}
    (h : ∀ room, (inside room).Noted (fields room) k) (hNames : ∀ room, (inside room).names = names)
    (room : Nat) :
    Remarks (Tree.readRecord inside room) fun t => (t.fields names).flatMap fun e => k e.1 e.2 := by
  intro p q t ht
  cases room with
  | zero =>
      rw [← hNames 0]
      exact (h 0).fail_refuse_notes ht _
  | succ room =>
      rw [← hNames room]
      exact (h room).remarks_readInside ht

section Silence

variable {σ : Type} {r : Record σ α} {fields : List (Field σ)}

/-- The names in a record whose members make no remarks. -/
theorem Record.Noted.of_silent (hLaid : r.Laid fields) (hFinish : ∀ s, ∃ a, r.finish s = .ok a)
    (hRead : ∀ f ∈ fields, Silent f.read) : r.Noted fields fun _ _ => [] :=
  ⟨hLaid, hFinish, hRead, fun _ _ _ => rfl⟩

theorem Record.Noted.silent_readInside (h : r.Noted fields fun _ _ => []) :
    Silent r.readInside :=
  h.remarks_readInside.congr fun _ => List.flatMap_eq_nil_iff.mpr fun _ _ => rfl

theorem Tree.silent_readRecord {inside : Nat → Record σ α} {fields : Nat → List (Field σ)}
    (h : ∀ room, (inside room).Noted (fields room) fun _ _ => []) (room : Nat) :
    Silent (Tree.readRecord inside room) := by
  intro p q t ht
  cases room with
  | zero => exact .fail (ht.refuse_between true true _)
  | succ room => exact (h room).silent_readInside ht

end Silence

/-! ### Whole texts -/

/-- The value of a text is remarked upon first, and only blanks may follow it. -/
theorem readString_notes {read : Nat → Tree → Reading α} {names : Tree → List PlacedName}
    (h : Remarks (read fullRoom) names) (text : String) :
    ∃ q, (readString read text).Notes .start q (names (Tree.ofString text).value) := by
  obtain ⟨q, hValue, hTrailing⟩ := Tree.within_ofString text
  have hNotes := h hValue
  unfold readString
  dsimp only
  cases hRest : (Tree.ofString text).trailing with
  | none => exact ⟨q, hNotes.bind_ok fun a => ⟨a, rfl⟩⟩
  | some fault =>
      obtain ⟨e, rfl, hLe⟩ := hTrailing fault hRest
      refine ⟨none, ?_⟩
      rw [← List.append_nil (names _)]
      exact hNotes.bind (fun _ => .fail ⟨hLe, by simp⟩) .nil hValue.le (by simp)

end TypedClient.Json
