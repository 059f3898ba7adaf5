import Mathlib.Data.List.Forall2
import Mathlib.Data.List.Nodup
import TypedClient.Json.Read
import TypedClient.Proofs.Keyed

/-!
What a successful reading says of the tree that was read. Every reader is taken apart here once, so
that what is said of a whole description never opens one: lists and objects are read entry by entry,
and a record has a slot for each of its members.
-/

namespace TypedClient.Json

/-! ### Steps -/

namespace Reading

variable {α β : Type}

@[simp] theorem pure_result (a : α) : (pure a : Reading α).result = .ok a := rfl

@[simp] theorem ok_result (a : α) : (ok a).result = .ok a := rfl

@[simp] theorem of_result (r : Except Fault α) : (of r).result = r := rfl

@[simp] theorem fail_result (fault : Fault) : (fail fault : Reading α).result = .error fault := rfl

@[simp] theorem remark_result (s : String) : (remark s).result = .ok () := rfl

theorem of_ok_bind (a : α) (f : α → Reading β) : (of (.ok a) >>= f) = f a := rfl

/-- A reading in two steps succeeds exactly if both do. -/
theorem bind_result_eq_ok {r : Reading α} {f : α → Reading β} {b : β} :
    (r >>= f).result = .ok b ↔ ∃ a, r.result = .ok a ∧ (f a).result = .ok b := by
  change (Reading.bind r f).result = .ok b ↔ _
  rw [Reading.bind]
  cases r.result with
  | error fault => simp
  | ok a => simp

/-- A reading followed by a function succeeds with what the function makes of its value. -/
theorem map_result_eq_ok {r : Reading α} {f : α → β} {b : β} :
    (do return f (← r) : Reading β).result = .ok b ↔ ∃ a, r.result = .ok a ∧ f a = b := by
  rw [bind_result_eq_ok]
  simp

end Reading

/-! ### Trees as entries -/

/-- The members of an object with the names that can be read, in order. -/
def Members.entries : Members → List (String × Tree)
  | .next _ (.ok name) _ _ _ value rest => (name, value) :: rest.entries
  | .next _ (.error _) _ _ _ _ rest => rest.entries
  | _ => []

/-- The values in a list. -/
def Items.values : Items → List Tree
  | .next _ value rest => value :: rest.values
  | _ => []

@[simp] theorem Items.values_closed (stop : Position) : (Items.closed stop).values = [] := rfl

namespace Tree

/-- The members of an object; none if it is no object. -/
def entries : Tree → List (String × Tree)
  | .object _ members => members.entries
  | _ => []

/-- The value itself, unless it is null. -/
def nonNull? : Tree → Option Tree
  | .word _ (.ok none) _ => none
  | t => some t

/-- What a record says of its members: an object names them, a list goes by their order. -/
def fields (names : List String) : Tree → List (String × Tree)
  | .object _ members => members.entries
  | .list _ items => names.zip items.values
  | _ => []

/-- The value of a member of a record with the given names. -/
def field? (names : List String) (t : Tree) (name : String) : Option Tree :=
  Keyed.get? (t.fields names) name

end Tree

/-! ### Objects of one kind of value -/

theorem map_eq_map_of_forall₂ {α β γ : Type*} {f : α → γ} {g : β → γ} {as : List α} {bs : List β}
    (h : List.Forall₂ (fun a b => f a = g b) as bs) : as.map f = bs.map g := by
  rw [← List.forall₂_eq_eq_eq, List.forall₂_map_left_iff, List.forall₂_map_right_iff]
  exact h

theorem exists_of_mem_left {α β : Type*} {R : α → β → Prop} {as : List α} {bs : List β}
    (h : List.Forall₂ R as bs) {a : α} (ha : a ∈ as) : ∃ b ∈ bs, R a b := by
  induction h with
  | nil => exact absurd ha List.not_mem_nil
  | @cons x y as bs hHead _ ih =>
      rcases List.mem_cons.mp ha with rfl | ha
      · exact ⟨y, List.mem_cons_self .., hHead⟩
      · obtain ⟨b, hb, hab⟩ := ih ha
        exact ⟨b, List.mem_cons_of_mem _ hb, hab⟩

theorem exists_of_mem_right {α β : Type*} {R : α → β → Prop} {as : List α} {bs : List β}
    (h : List.Forall₂ R as bs) {b : β} (hb : b ∈ bs) : ∃ a ∈ as, R a b :=
  exists_of_mem_left h.flip hb

section Entries

variable {α β : Type}

theorem Members.forall₂_of_readEach {read : String → Tree → Reading α} (members : Members)
    {as : List α} (h : (members.readEach read).result = .ok as) :
    List.Forall₂ (fun entry a => (read entry.1 entry.2).result = .ok a) members.entries as := by
  match members with
  | .closed _ =>
      cases h
      exact List.Forall₂.nil
  | .broken _ => exact absurd h (by simp [readEach])
  | .unnamed _ _ => exact absurd h (by simp [readEach])
  | .next _ (.error _) _ _ _ _ _ =>
      rw [readEach] at h
      obtain ⟨_, hName, _⟩ := Reading.bind_result_eq_ok.mp h
      exact absurd hName (by simp)
  | .next _ (.ok name) _ _ _ value rest =>
      rw [readEach] at h
      obtain ⟨_, hName, h⟩ := Reading.bind_result_eq_ok.mp h
      cases hName
      obtain ⟨a, hHead, h⟩ := Reading.bind_result_eq_ok.mp h
      obtain ⟨tail, hTail, h⟩ := Reading.bind_result_eq_ok.mp h
      cases h
      exact List.Forall₂.cons hHead (rest.forall₂_of_readEach hTail)

/-- An object is read where there is room for it, member by member. -/
theorem Tree.forall₂_of_readObject {expected : String} {read : String → Tree → Reading α}
    {room : Nat} {t : Tree} {as : List α} (h : (t.readObject expected read room).result = .ok as) :
    List.Forall₂ (fun entry a => (read entry.1 entry.2).result = .ok a) t.entries as := by
  unfold readObject at h
  split at h
  · exact absurd h (by simp)
  · exact Members.forall₂_of_readEach _ h
  · exact absurd h (by simp)

theorem rel_imp {R S : α → β → Prop} {a? : Option α} {b? : Option β} (h : Option.Rel R a? b?)
    (hImp : ∀ a b, R a b → S a b) : Option.Rel S a? b? := by
  cases h with
  | none => exact Option.Rel.none
  | some hab => exact Option.Rel.some (hImp _ _ hab)

theorem rel_isSome {R : α → β → Prop} {a? : Option α} {b? : Option β} (h : Option.Rel R a? b?) :
    b?.isSome = a?.isSome := by
  cases h with
  | none => rfl
  | some _ => rfl

/-- Where something was read, it is written. -/
theorem exists_of_rel {R : α → β → Prop} {a? : Option α} {b? : Option β} {b : β}
    (h : Option.Rel R a? b?) (hb : b? = some b) : ∃ a, a? = some a ∧ R a b := by
  cases h with
  | none => cases hb
  | some hRel =>
      cases hb
      exact ⟨_, rfl, hRel⟩

/-- What agrees, if it is there at all, still does so after one more step. -/
theorem rel_bind {γ δ : Type} {R : α → β → Prop} {S : γ → δ → Prop} {f : α → Option γ}
    {g : β → Option δ} {a? : Option α} {b? : Option β} (h : Option.Rel R a? b?)
    (hStep : ∀ a b, R a b → Option.Rel S (f a) (g b)) :
    Option.Rel S (a?.bind f) (b?.bind g) := by
  cases h with
  | none => exact Option.Rel.none
  | some hab => exact hStep _ _ hab

theorem rel_join {R : α → β → Prop} {a? : Option (Option α)} {b? : Option (Option β)}
    (h : Option.Rel (Option.Rel R) a? b?) : Option.Rel R a?.join b?.join :=
  rel_bind h fun _ _ hRel => hRel

theorem rel_or {R : α → β → Prop} {a? c? : Option α} {b? d? : Option β} (h : Option.Rel R a? b?)
    (h' : Option.Rel R c? d?) : Option.Rel R (a?.or c?) (b?.or d?) := by
  cases h with
  | none => exact h'
  | some hRel => exact Option.Rel.some hRel

theorem eq_of_rel {a? b? : Option α} (h : Option.Rel Eq a? b?) : a? = b? := by
  cases h with
  | none => rfl
  | some hEq => rw [hEq]

theorem Tree.nonNull?_of_not_null {t : Tree}
    (h : ∀ start stop, t ≠ .word start (.ok none) stop) : t.nonNull? = some t := by
  unfold nonNull?
  split
  · next start stop => exact absurd rfl (h start stop)
  · rfl

theorem Tree.eq_of_nonNull? {t value : Tree} (h : t.nonNull? = some value) : value = t := by
  unfold nonNull? at h
  split at h
  · exact absurd h (by simp)
  · exact (Option.some.inj h).symm

/-- What may be null is read as nothing exactly if it is. -/
theorem Tree.rel_of_readOptional {read : Tree → Reading α} {t : Tree} {a? : Option α}
    (h : (t.readOptional read).result = .ok a?) :
    Option.Rel (fun t a => (read t).result = .ok a) t.nonNull? a? := by
  unfold readOptional at h
  split at h
  · cases h
    exact Option.Rel.none
  · next hNull =>
      obtain ⟨a, hRead, h⟩ := Reading.bind_result_eq_ok.mp h
      cases h
      rw [nonNull?_of_not_null fun start stop => hNull start stop]
      exact Option.Rel.some hRead

end Entries

/-! ### Records -/

namespace Record

variable {σ α β : Type} {r : Record σ α} {name : String} {slot : σ → Option β}
  {read : Tree → Reading β}

/-- The names of the members. -/
def names (r : Record σ α) : List String :=
  r.members.map (·.name)

/-- A member that reads into a slot: it is given once the slot is filled, and fills it with what is
read. -/
structure FilledBy (slot : σ → Option β) (read : Tree → Reading β) (m : RecordMember σ) :
    Prop where
  given : ∀ s, m.given s = (slot s).isSome
  fills : ∀ t s s', (m.read t s).result = .ok s' →
    ∃ b, (read t).result = .ok b ∧ slot s' = some b

theorem FilledBy.of_put {m : RecordMember σ} {put : σ → β → σ}
    (hGiven : ∀ s, m.given s = (slot s).isSome)
    (hRead : m.read = fun t s => do return put s (← read t))
    (hPut : ∀ s b, slot (put s b) = some b) : FilledBy slot read m where
  given := hGiven
  fills := by
    intro t s s' h
    rw [hRead] at h
    obtain ⟨b, hb, rfl⟩ := Reading.map_result_eq_ok.mp h
    exact ⟨b, hb, hPut s b⟩

/-- A member that puts what it reads elsewhere leaves a slot alone. -/
theorem keeps_of_put {γ : Type} {m : RecordMember σ} {put : σ → γ → σ} {other : Tree → Reading γ}
    (hRead : m.read = fun t s => do return put s (← other t))
    (hPut : ∀ s c, slot (put s c) = slot s) (t : Tree) (s s' : σ)
    (h : (m.read t s).result = .ok s') : slot s' = slot s := by
  rw [hRead] at h
  obtain ⟨c, -, rfl⟩ := Reading.map_result_eq_ok.mp h
  exact hPut s c

/-- A slot of a record: the member of that name reads into it, and no other member changes it. -/
structure Slot (r : Record σ α) (name : String) (slot : σ → Option β) (read : Tree → Reading β) :
    Prop where
  nodup : r.names.Nodup
  empty : slot r.empty = none
  filled : ∃ m ∈ r.members, m.name = name ∧ FilledBy slot read m
  keeps : ∀ m ∈ r.members, m.name ≠ name → ∀ t s s', (m.read t s).result = .ok s' →
    slot s' = slot s

theorem Slot.filledBy (h : r.Slot name slot read) {m : RecordMember σ} (hm : m ∈ r.members)
    (hName : m.name = name) : FilledBy slot read m := by
  obtain ⟨l, hl, hOther, hFilled⟩ := h.filled
  rw [List.inj_on_of_nodup_map h.nodup hm hl (hName.trans hOther.symm)]
  exact hFilled

/-- What filling a slot from the first of some entries does: nothing if there is none under its
name, and otherwise the slot was empty before. -/
def Fills (slot : σ → Option β) (read : Tree → Reading β) (t? : Option Tree) (s s' : σ) : Prop :=
  match t? with
  | none => slot s' = slot s
  | some t => slot s = none ∧ ∃ b, (read t).result = .ok b ∧ slot s' = some b

theorem Fills.rel {t? : Option Tree} {s s' : σ} (h : Fills slot read t? s s')
    (hEmpty : slot s = none) : Option.Rel (fun t b => (read t).result = .ok b) t? (slot s') := by
  cases t? with
  | none =>
      have hSame : slot s' = slot s := h
      rw [hSame, hEmpty]
      exact Option.Rel.none
  | some t =>
      obtain ⟨-, b, hRead, hSlot⟩ := h
      rw [hSlot]
      exact Option.Rel.some hRead

/-- A slot that is filled stays as it is, for a second member of its name is a fault. -/
theorem Slot.fills_of_readMembers (h : r.Slot name slot read) (members : Members) (s : σ)
    {s' : σ} {p : Position} (hRead : (r.readMembers s members).result = .ok (s', p)) :
    Fills slot read (Keyed.get? members.entries name) s s' := by
  match members with
  | .closed _ =>
      cases hRead
      rfl
  | .broken _ => exact absurd hRead (by simp [readMembers])
  | .unnamed _ _ => exact absurd hRead (by simp [readMembers])
  | .next _ (.error _) _ _ _ _ _ =>
      rw [readMembers] at hRead
      obtain ⟨_, hName, _⟩ := Reading.bind_result_eq_ok.mp hRead
      exact absurd hName (by simp)
  | .next _ (.ok other) _ _ _ value rest =>
      rw [readMembers] at hRead
      obtain ⟨_, hName, hRead⟩ := Reading.bind_result_eq_ok.mp hRead
      cases hName
      rw [Members.entries, Keyed.get?]
      split at hRead
      · next hFind =>
          obtain ⟨_, _, hRead⟩ := Reading.bind_result_eq_ok.mp hRead
          have hOther : other ≠ name := by
            rintro rfl
            obtain ⟨m, hMem, hm, -⟩ := h.filled
            exact List.find?_eq_none.mp hFind m hMem (by simpa using hm)
          rw [if_neg hOther]
          exact h.fills_of_readMembers rest s hRead
      · next m hFind =>
          have hMem := List.mem_of_find?_eq_some hFind
          have hmName : m.name = other := by simpa using List.find?_some hFind
          split at hRead
          · exact absurd hRead (by simp)
          · next hGiven =>
              obtain ⟨next, hValue, hRead⟩ := Reading.bind_result_eq_ok.mp hRead
              have hRest := h.fills_of_readMembers rest next hRead
              by_cases hOther : other = name
              · subst hOther
                rw [if_pos rfl]
                have hFilled := h.filledBy hMem hmName
                obtain ⟨b, hb, hSlot⟩ := hFilled.fills value s next hValue
                refine ⟨?_, b, hb, ?_⟩
                · rw [hFilled.given s] at hGiven
                  simpa using hGiven
                · cases hMore : Keyed.get? rest.entries other with
                  | none =>
                      rw [hMore] at hRest
                      exact hRest.trans hSlot
                  | some t =>
                      rw [hMore] at hRest
                      exact absurd hRest.1 (by simp [hSlot])
              · rw [if_neg hOther]
                have hKept := h.keeps m hMem (hmName ▸ hOther) value s next hValue
                unfold Fills at hRest ⊢
                rw [hKept] at hRest
                exact hRest

/-- Reading values in the order of the members leaves a slot alone whose member is not among
them. -/
theorem Slot.keeps_of_readItems (h : r.Slot name slot read) {ms : List (RecordMember σ)}
    (hMembers : ∀ m ∈ ms, m ∈ r.members) (hName : name ∉ ms.map (·.name)) {items : Items}
    {index : Nat} {s s' : σ} {p : Position}
    (hRead : (r.readItems index s ms items).result = .ok (s', p)) : slot s' = slot s := by
  induction ms generalizing items index s with
  | nil =>
      cases items with
      | closed _ =>
          cases hRead
          rfl
      | broken _ => exact absurd hRead (by simp [readItems])
      | next _ _ _ => exact absurd hRead (by simp [readItems])
  | cons m ms ih =>
      rw [List.map_cons, List.mem_cons, not_or] at hName
      have hRest : ∀ m ∈ ms, m ∈ r.members := fun l hl => hMembers l (List.mem_cons_of_mem _ hl)
      cases items with
      | closed _ =>
          rw [readItems] at hRead
          split at hRead
          · exact ih hRest hName.2 hRead
          · exact absurd hRead (by simp)
      | broken _ => exact absurd hRead (by simp [readItems])
      | next _ value rest =>
          rw [readItems] at hRead
          obtain ⟨next, hValue, hRead⟩ := Reading.bind_result_eq_ok.mp hRead
          rw [ih hRest hName.2 hRead]
          exact h.keeps m (hMembers m (List.mem_cons_self ..)) (Ne.symm hName.1) value s next hValue

/-- In a list, the value that goes into a slot stands where its member does. -/
theorem Slot.rel_of_readItems (h : r.Slot name slot read) {ms : List (RecordMember σ)}
    (hMembers : ∀ m ∈ ms, m ∈ r.members) (hNodup : (ms.map (·.name)).Nodup) {items : Items}
    {index : Nat} {s s' : σ} {p : Position} (hEmpty : slot s = none)
    (hRead : (r.readItems index s ms items).result = .ok (s', p)) :
    Option.Rel (fun t b => (read t).result = .ok b)
      (Keyed.get? ((ms.map (·.name)).zip items.values) name) (slot s') := by
  induction ms generalizing items index s with
  | nil =>
      have hSame := h.keeps_of_readItems hMembers List.not_mem_nil hRead
      rw [hSame, hEmpty]
      exact Option.Rel.none
  | cons m ms ih =>
      rw [List.map_cons, List.nodup_cons] at hNodup
      have hMember : m ∈ r.members := hMembers m (List.mem_cons_self ..)
      have hRest : ∀ m ∈ ms, m ∈ r.members := fun l hl => hMembers l (List.mem_cons_of_mem _ hl)
      cases items with
      | closed _ =>
          rw [readItems] at hRead
          split at hRead
          · have hSlot := ih hRest hNodup.2 hEmpty hRead
            rwa [Items.values_closed, List.zip_nil_right] at hSlot ⊢
          · exact absurd hRead (by simp)
      | broken _ => exact absurd hRead (by simp [readItems])
      | next _ value rest =>
          rw [readItems] at hRead
          obtain ⟨next, hValue, hRead⟩ := Reading.bind_result_eq_ok.mp hRead
          rw [Items.values, List.map_cons, List.zip_cons_cons, Keyed.get?]
          by_cases hName : m.name = name
          · obtain ⟨b, hb, hSlot⟩ := (h.filledBy hMember hName).fills value s next hValue
            have hKept := h.keeps_of_readItems hRest (hName ▸ hNodup.1) hRead
            rw [if_pos hName, hKept, hSlot]
            exact Option.Rel.some hb
          · have hKept := h.keeps m hMember hName value s next hValue
            rw [if_neg hName]
            exact ih hRest hNodup.2 (hKept.trans hEmpty) hRead

theorem finishAt_result_eq_ok {read : σ × Position} {a : α} :
    (r.finishAt read).result = .ok a ↔ r.finish read.1 = .ok a := by
  unfold finishAt
  cases r.finish read.1 with
  | error name => simp
  | ok b => simp

/-- What a record makes of a tree it makes of slots that are filled from its members. -/
theorem Slot.of_readInside (h : r.Slot name slot read) {t : Tree} {a : α}
    (hRead : (r.readInside t).result = .ok a) :
    ∃ s, r.finish s = .ok a ∧
      Option.Rel (fun t b => (read t).result = .ok b) (t.field? r.names name) (slot s) := by
  unfold readInside at hRead
  split at hRead
  · next members =>
      obtain ⟨⟨s, p⟩, hMembers, hFinish⟩ := Reading.bind_result_eq_ok.mp hRead
      refine ⟨s, finishAt_result_eq_ok.mp hFinish, ?_⟩
      exact (h.fills_of_readMembers members r.empty hMembers).rel h.empty
  · next items =>
      obtain ⟨⟨s, p⟩, hItems, hFinish⟩ := Reading.bind_result_eq_ok.mp hRead
      refine ⟨s, finishAt_result_eq_ok.mp hFinish, ?_⟩
      exact h.rel_of_readItems (fun _ hm => hm) h.nodup h.empty hItems
  · exact absurd hRead (by simp)

end Record

/-- A record is only read where there is room for it. -/
theorem Tree.readInside_of_readRecord {σ α : Type} {inside : Nat → Record σ α} {room : Nat}
    {t : Tree} {a : α} (h : (t.readRecord inside room).result = .ok a) :
    ∃ left, room = left + 1 ∧ ((inside left).readInside t).result = .ok a := by
  cases room with
  | zero => exact absurd h (by simp [readRecord])
  | succ left => exact ⟨left, rfl, h⟩

/-! ### Values of any kind -/

theorem Tree.readValue_list_eq_ok {start : Position} {items : Items} {room : Nat} {v : Value} :
    (Tree.list start items).readValue room = .ok v ↔
      ∃ left vs, room = left + 1 ∧ items.readValues left = .ok vs ∧ v = .list vs := by
  cases room with
  | zero => simp [readValue]
  | succ left =>
      rw [readValue]
      cases hItems : items.readValues left <;> simp [hItems, Except.map, @eq_comm _ v]

theorem Tree.readValue_object_eq_ok {start : Position} {members : Members} {room : Nat}
    {v : Value} : (Tree.object start members).readValue room = .ok v ↔
      ∃ left ms, room = left + 1 ∧ members.readValues left = .ok ms ∧ v = .object ms := by
  cases room with
  | zero => simp [readValue]
  | succ left =>
      rw [readValue]
      cases hMembers : members.readValues left <;> simp [hMembers, Except.map, @eq_comm _ v]

theorem Items.readValues_next_eq_ok {left : Fault} {value : Tree} {rest : Items} {room : Nat}
    {vs : List Value} : (Items.next left value rest).readValues room = .ok vs ↔
      ∃ v tail, value.readValue room = .ok v ∧ rest.readValues room = .ok tail ∧
        vs = v :: tail := by
  rw [readValues]
  cases value.readValue room with
  | error fault => simp
  | ok v => cases rest.readValues room <;> simp [Except.map, @eq_comm _ vs]

theorem Members.readValues_next_eq_ok {left : Fault} {name : String}
    {nameSkipped : Except Fault Unit} {nameStop behindName : Position} {value : Tree}
    {rest : Members} {room : Nat} {ms : List (String × Value)} :
    (Members.next left (.ok name) nameSkipped nameStop behindName value rest).readValues room
        = .ok ms ↔
      ∃ v tail, value.readValue room = .ok v ∧ rest.readValues room = .ok tail ∧
        ms = (name, v) :: tail := by
  rw [readValues]
  cases value.readValue room with
  | error fault => simp
  | ok v => cases rest.readValues room <;> simp [Except.map, @eq_comm _ ms]

/-! ### Whole texts -/

/-- A text is read as a whole or not at all. -/
theorem readString_result_eq_ok {α : Type} {read : Nat → Tree → Reading α} {s : String} {a : α} :
    (readString read s).result = .ok a ↔
      (read fullRoom (Tree.ofString s).value).result = .ok a ∧
        (Tree.ofString s).trailing = none := by
  unfold readString
  dsimp only
  rw [Reading.bind_result_eq_ok]
  cases (Tree.ofString s).trailing with
  | none => simp
  | some fault => simp

end TypedClient.Json
