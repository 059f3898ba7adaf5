import TypedClient.Proofs.Json.Printing
import TypedClient.Proofs.Json.Reading

/-!
Texts in which nothing is wrong as such: they are JSON, their numbers are in range, and their
containers do not lie too deep. Such a text says a value, whatever a reader may think of it; what is
written of a value without numbers is such a text.
-/

namespace TypedClient.Json

mutual

/-- A tree in which nothing is wrong, of a value, where there is room for so many containers inside
one another. -/
inductive Tree.Sound : Tree → Nat → Value → Prop
  | null {start stop : Position} {room : Nat} : Tree.Sound (.word start (.ok none) stop) room .null
  | flag {start stop : Position} {b : Bool} {room : Nat} :
      Tree.Sound (.word start (.ok (some b)) stop) room (.flag b)
  | number {start stop : Position} {n : Number} {room : Nat} :
      Tree.Sound (.number start (.ok n) (.ok ()) stop) room (.number n)
  | text {start stop : Position} {s : String} {room : Nat} :
      Tree.Sound (.text start (.ok s) (.ok ()) stop) room (.text s)
  | list {start : Position} {items : Items} {vs : List Value} {room : Nat} :
      Items.Sound items room vs → Tree.Sound (.list start items) (room + 1) (.list vs)
  | object {start : Position} {members : Members} {ms : List (String × Value)} {room : Nat} :
      Members.Sound members room ms → Tree.Sound (.object start members) (room + 1) (.object ms)

/-- What follows inside a list, with nothing wrong in it. -/
inductive Items.Sound : Items → Nat → List Value → Prop
  | closed {stop : Position} {room : Nat} : Items.Sound (.closed stop) room []
  | next {left : Fault} {t : Tree} {v : Value} {rest : Items} {vs : List Value} {room : Nat} :
      Tree.Sound t room v → Items.Sound rest room vs →
        Items.Sound (.next left t rest) room (v :: vs)

/-- What follows inside an object, with nothing wrong in it. -/
inductive Members.Sound : Members → Nat → List (String × Value) → Prop
  | closed {stop : Position} {room : Nat} : Members.Sound (.closed stop) room []
  | next {left : Fault} {nameStop behindName : Position} {name : String} {t : Tree} {v : Value}
      {rest : Members} {ms : List (String × Value)} {room : Nat} :
      Tree.Sound t room v → Members.Sound rest room ms →
        Members.Sound (.next left (.ok name) (.ok ()) nameStop behindName t rest) room
          ((name, v) :: ms)

end

/-- Induction along the members of an object in which nothing is wrong. -/
@[elab_as_elim]
theorem Members.Sound.along {room : Nat}
    {motive : (members : Members) → (ms : List (String × Value)) → members.Sound room ms → Prop}
    (closed : ∀ stop, motive (.closed stop) [] .closed)
    (next : ∀ (left : Fault) (nameStop behindName : Position) (name : String) (t : Tree) (v : Value)
      (rest : Members) (ms : List (String × Value)) (hValue : t.Sound room v)
      (hRest : rest.Sound room ms), motive rest ms hRest →
        motive (.next left (.ok name) (.ok ()) nameStop behindName t rest) ((name, v) :: ms)
          (.next hValue hRest)) :
    ∀ {members : Members} {ms : List (String × Value)} (h : members.Sound room ms),
      motive members ms h
  | _, _, .closed => closed _
  | _, _, .next hValue hRest => next _ _ _ _ _ _ _ _ hValue hRest (hRest.along closed next)

/-- The text says a value, and nothing is wrong with it as such. -/
structure Says (text : String) (v : Value) : Prop where
  sound : (Tree.ofString text).value.Sound fullRoom v
  trailing : (Tree.ofString text).trailing = none

/-! ### Passing over and reading -/

mutual

theorem Tree.Sound.skip_eq {t : Tree} {room : Nat} {v : Value} :
    t.Sound room v → t.skip = .ok ()
  | .null => rfl
  | .flag => rfl
  | .number => rfl
  | .text => rfl
  | .list hItems => hItems.skip_eq
  | .object hMembers => hMembers.skip_eq

theorem Items.Sound.skip_eq {items : Items} {room : Nat} {vs : List Value} :
    items.Sound room vs → items.skip = .ok ()
  | .closed => rfl
  | .next hValue hRest => by
      rw [Items.skip, hValue.skip_eq]
      exact hRest.skip_eq

theorem Members.Sound.skip_eq {members : Members} {room : Nat} {ms : List (String × Value)} :
    members.Sound room ms → members.skip = .ok ()
  | .closed => rfl
  | .next hValue hRest => by
      rw [Members.skip, hValue.skip_eq]
      exact hRest.skip_eq

end

mutual

theorem Tree.Sound.readValue_eq {t : Tree} {room : Nat} {v : Value} :
    t.Sound room v → t.readValue room = .ok v
  | .null => rfl
  | .flag => rfl
  | .number => rfl
  | .text => rfl
  | .list hItems => Tree.readValue_list_eq_ok.mpr ⟨_, _, rfl, hItems.readValues_eq, rfl⟩
  | .object hMembers => Tree.readValue_object_eq_ok.mpr ⟨_, _, rfl, hMembers.readValues_eq, rfl⟩

theorem Items.Sound.readValues_eq {items : Items} {room : Nat} {vs : List Value} :
    items.Sound room vs → items.readValues room = .ok vs
  | .closed => rfl
  | .next hValue hRest =>
    Items.readValues_next_eq_ok.mpr ⟨_, _, hValue.readValue_eq, hRest.readValues_eq, rfl⟩

theorem Members.Sound.readValues_eq {members : Members} {room : Nat}
    {ms : List (String × Value)} : members.Sound room ms → members.readValues room = .ok ms
  | .closed => rfl
  | .next hValue hRest =>
    Members.readValues_next_eq_ok.mpr ⟨_, _, hValue.readValue_eq, hRest.readValues_eq, rfl⟩

end

/-! ### Written values -/

mutual

/-- How many containers lie inside one another. -/
def Value.depth : Value → Nat
  | .list vs => Value.itemsDepth vs + 1
  | .object ms => Value.membersDepth ms + 1
  | _ => 0

/-- How many lie inside one another in a list. -/
def Value.itemsDepth : List Value → Nat
  | [] => 0
  | v :: vs => max v.depth (Value.itemsDepth vs)

/-- How many lie inside one another in an object. -/
def Value.membersDepth : List (String × Value) → Nat
  | [] => 0
  | (_, v) :: ms => max v.depth (Value.membersDepth ms)

end

mutual

theorem Tree.Denotes.sound {t : Tree} {v : Value} {room : Nat} :
    t.Denotes v → v.depth ≤ room → t.Sound room v
  | .null, _ => .null
  | .flag, _ => .flag
  | .text, _ => .text
  | .list hItems, hDepth => by
      rw [Value.depth] at hDepth
      cases room with
      | zero => exact absurd hDepth (Nat.not_succ_le_zero _)
      | succ left => exact .list (hItems.sound (Nat.le_of_succ_le_succ hDepth))
  | .object hMembers, hDepth => by
      rw [Value.depth] at hDepth
      cases room with
      | zero => exact absurd hDepth (Nat.not_succ_le_zero _)
      | succ left => exact .object (hMembers.sound (Nat.le_of_succ_le_succ hDepth))

theorem Items.Denote.sound {items : Items} {vs : List Value} {room : Nat} :
    items.Denote vs → Value.itemsDepth vs ≤ room → items.Sound room vs
  | .closed, _ => .closed
  | .next hValue hRest, hDepth => by
      rw [Value.itemsDepth, Nat.max_le] at hDepth
      exact .next (hValue.sound hDepth.1) (hRest.sound hDepth.2)

theorem Members.Denote.sound {members : Members} {ms : List (String × Value)} {room : Nat} :
    members.Denote ms → Value.membersDepth ms ≤ room → members.Sound room ms
  | .closed, _ => .closed
  | .next hValue hRest, hDepth => by
      rw [Value.membersDepth, Nat.max_le] at hDepth
      exact .next (hValue.sound hDepth.1) (hRest.sound hDepth.2)

end

/-- What is written of a value says the value. -/
theorem says_render {layout : Layout} (hLayout : layout.Blank) {v : Value} (hv : v.NumberFree)
    (hDepth : v.depth ≤ fullRoom) : Says (v.render layout) v := by
  obtain ⟨hDenotes, hTrailing⟩ := Value.ofString_render hLayout hv
  exact ⟨hDenotes.sound hDepth, hTrailing⟩

end TypedClient.Json
