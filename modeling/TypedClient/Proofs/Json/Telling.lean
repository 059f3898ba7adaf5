import TypedClient.Proofs.Json.Admission
import TypedClient.Proofs.Json.Outline

/-!
Texts that can be passed over, and what they tell. What a reader does not look at may be anything
that can be passed over, at any depth: numbers out of range, or texts that are none. So a text tells
outlines that say of such parts what they are, or nothing. Main statement: a record that is laid out
is read of all objects that can be passed over, whose known members are there at most once, and are
read themselves.
-/

namespace TypedClient.Json

mutual

/-- A tree that can be passed over tells what is said in it, or leaves it open. -/
inductive Tree.Tells : Tree → Outline → Prop
  | open {t : Tree} (hSkip : t.skip = .ok ()) : Tree.Tells t .unreadable
  | null {start stop : Position} : Tree.Tells (.word start (.ok none) stop) .null
  | flag {start stop : Position} {b : Bool} : Tree.Tells (.word start (.ok (some b)) stop) (.flag b)
  | number {start stop : Position} {n : Number} :
      Tree.Tells (.number start (.ok n) (.ok ()) stop) (.number n)
  | text {start stop : Position} {s : String} :
      Tree.Tells (.text start (.ok s) (.ok ()) stop) (.text s)
  | list {start : Position} {items : Items} {os : List Outline} (hItems : items.Tell os) :
      Tree.Tells (.list start items) (.list os)
  | object {start : Position} {members : Members} {ms : List (String × Outline)}
      (hMembers : members.Tell ms) : Tree.Tells (.object start members) (.object ms)

/-- What follows inside a list that can be passed over. -/
inductive Items.Tell : Items → List Outline → Prop
  | closed {stop : Position} : Items.Tell (.closed stop) []
  | next {left : Fault} {t : Tree} {o : Outline} {rest : Items} {os : List Outline}
      (hValue : t.Tells o) (hRest : rest.Tell os) : Items.Tell (.next left t rest) (o :: os)

/-- What follows inside an object that can be passed over, with names that can be read. -/
inductive Members.Tell : Members → List (String × Outline) → Prop
  | closed {stop : Position} : Members.Tell (.closed stop) []
  | next {left : Fault} {nameStop behindName : Position} {name : String} {t : Tree} {o : Outline}
      {rest : Members} {ms : List (String × Outline)} (hValue : t.Tells o) (hRest : rest.Tell ms) :
      Members.Tell (.next left (.ok name) (.ok ()) nameStop behindName t rest) ((name, o) :: ms)

end

/-- Induction along the members of an object that can be passed over. -/
@[elab_as_elim]
theorem Members.Tell.along
    {motive : (members : Members) → (ms : List (String × Outline)) → members.Tell ms → Prop}
    (closed : ∀ {stop : Position}, motive (.closed stop) [] .closed)
    (next : ∀ {left : Fault} {nameStop behindName : Position} {name : String} {t : Tree}
      {o : Outline} {rest : Members} {ms : List (String × Outline)} (hValue : t.Tells o)
      (hRest : rest.Tell ms), motive rest ms hRest →
        motive (.next left (.ok name) (.ok ()) nameStop behindName t rest) ((name, o) :: ms)
          (.next hValue hRest)) :
    ∀ {members : Members} {ms : List (String × Outline)} (h : members.Tell ms),
      motive members ms h
  | _, _, .closed => closed
  | _, _, .next hValue hRest => next hValue hRest (hRest.along closed next)

/-- A whole text that can be passed over tells so much. -/
structure Tells (text : String) (o : Outline) : Prop where
  value : (Tree.ofString text).value.Tells o
  trailing : (Tree.ofString text).trailing = none

mutual

theorem Tree.Tells.skip_eq {t : Tree} {o : Outline} : t.Tells o → t.skip = .ok ()
  | .open hSkip => hSkip
  | .null => rfl
  | .flag => rfl
  | .number => rfl
  | .text => rfl
  | .list hItems => hItems.skip_eq
  | .object hMembers => hMembers.skip_eq

theorem Items.Tell.skip_eq {items : Items} {os : List Outline} :
    items.Tell os → items.skip = .ok ()
  | .closed => rfl
  | .next hValue hRest => by
      rw [Items.skip, hValue.skip_eq]
      exact hRest.skip_eq

theorem Members.Tell.skip_eq {members : Members} {ms : List (String × Outline)} :
    members.Tell ms → members.skip = .ok ()
  | .closed => rfl
  | .next hValue hRest => by
      rw [Members.skip, hValue.skip_eq]
      exact hRest.skip_eq

end

mutual

/-- What can be read can be passed over, and tells all that it says. -/
theorem Tree.Sound.tells {t : Tree} {room : Nat} {v : Value} : t.Sound room v → t.Tells v.outline
  | .null => .null
  | .flag => .flag
  | .number => .number
  | .text => .text
  | .list hItems => .list hItems.tell
  | .object hMembers => .object hMembers.tell

theorem Items.Sound.tell {items : Items} {room : Nat} {vs : List Value} :
    items.Sound room vs → items.Tell (Value.outlines vs)
  | .closed => .closed
  | .next hValue hRest => .next hValue.tells hRest.tell

theorem Members.Sound.tell {members : Members} {room : Nat} {ms : List (String × Value)} :
    members.Sound room ms → members.Tell (Value.memberOutlines ms)
  | .closed => .closed
  | .next hValue hRest => .next hValue.tells hRest.tell

end

theorem Says.tells {text : String} {v : Value} (h : Says text v) : Tells text v.outline :=
  ⟨h.sound.tells, h.trailing⟩

/-! ### Members -/

theorem Members.Tell.rel_get? {members : Members} {ms : List (String × Outline)}
    (h : members.Tell ms) (name : String) :
    Option.Rel Tree.Tells (Keyed.get? members.entries name) (Keyed.get? ms name) := by
  induction h using Members.Tell.along with
  | closed => exact Option.Rel.none
  | next hValue _ ih =>
      rw [Members.entries, Keyed.get?, Keyed.get?]
      split
      · exact Option.Rel.some hValue
      · exact ih

/-! ### Records -/

namespace Record

variable {σ α : Type} {r : Record σ α} {fields : List (Field σ)}

/-- An object is read to its end if no field is filled twice, and each field is read of what is told
of its member. -/
theorem Laid.readMembers_of_tell (h : r.Laid fields) {members : Members}
    {ms : List (String × Outline)} (hMembers : members.Tell ms) (s : σ)
    (hOnce : Keyed.Once (fields.map (·.name)) ms) (hFree : Free fields s (ms.map (·.1)))
    (hRead : ∀ f ∈ fields, ∀ t o, t.Tells o → (f.name, o) ∈ ms → (f.read t).Succeeds) :
    (r.readMembers s members).Succeeds := by
  induction hMembers using Members.Tell.along generalizing s with
  | closed => exact ⟨_, rfl⟩
  | @next _ _ _ name t o rest ms hValue _ ih =>
      have hReadRest : ∀ f ∈ fields, ∀ t o, t.Tells o → (f.name, o) ∈ ms → (f.read t).Succeeds :=
        fun f hf t o ht ho => hRead f hf t o ht (List.mem_cons_of_mem _ ho)
      rw [readMembers_next, Reading.bind_succeeds]
      by_cases hKnown : name ∈ fields.map (·.name)
      · obtain ⟨f, hf, rfl⟩ := List.mem_map.mp hKnown
        obtain ⟨hOther, hOnceRest⟩ := (Keyed.once_cons_known hKnown).mp hOnce
        have hEmpty : f.slot s = none := by
          rw [← Option.not_isSome_iff_eq_none]
          exact fun hFilled => hFree f hf hFilled (List.mem_cons_self ..)
        obtain ⟨b, hb⟩ := hRead f hf t o hValue (List.mem_cons_self ..)
        have hFreeRest := (h.free_put hf hEmpty b).mpr ⟨hOther, hFree.tail⟩
        refine ⟨f.put s b, ?_, ih _ hOnceRest hFreeRest hReadRest⟩
        rw [h.readMember_empty hf hEmpty, Reading.map_result_eq_ok]
        exact ⟨b, hb, rfl⟩
      · have hOnceRest := (Keyed.once_cons_unknown hKnown).mp hOnce
        refine ⟨s, ?_, ih s hOnceRest hFree.tail hReadRest⟩
        rw [h.readMember_unknown hKnown, hValue.skip_eq]
        rfl

end Record

end TypedClient.Json
