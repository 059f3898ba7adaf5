import TypedClient.Proofs.Json.Printing
import TypedClient.Proofs.Json.Reading

/-!
What a text says, without regard to where it says it. A reader may pass over what it could not
read, such as a number out of range, and so an outline has a place for that too. What was read of a
tree only depends on its outline.
-/

namespace TypedClient.Json

/-- What a value says. -/
inductive Outline where
  /-- It is not said what this is. -/
  | unreadable
  | null
  | flag (value : Bool)
  | number (value : Number)
  | text (value : String)
  | list (items : List Outline)
  | object (members : List (String × Outline))

mutual

/-- The outline of a value. -/
def Tree.outline : Tree → Outline
  | .word _ (.ok none) _ => .null
  | .word _ (.ok (some b)) _ => .flag b
  | .number _ (.ok n) _ _ => .number n
  | .text _ (.ok s) _ _ => .text s
  | .list _ items => .list items.outlines
  | .object _ members => .object members.outlines
  | _ => .unreadable

/-- The outlines of the values in a list. -/
def Items.outlines : Items → List Outline
  | .next _ value rest => value.outline :: rest.outlines
  | _ => []

/-- The outlines of the members of an object with a name that can be read. -/
def Members.outlines : Members → List (String × Outline)
  | .next _ (.ok name) _ _ _ value rest => (name, value.outline) :: rest.outlines
  | .next _ (.error _) _ _ _ _ rest => rest.outlines
  | _ => []

end

/-- The outline of a whole text. -/
def Outline.ofString (text : String) : Outline :=
  (Tree.ofString text).value.outline

theorem Items.outlines_eq_map : (items : Items) → items.outlines = items.values.map Tree.outline
  | .closed _ => rfl
  | .broken _ => rfl
  | .next _ _ rest => by
      rw [outlines, values, List.map_cons, rest.outlines_eq_map]

theorem Members.outlines_eq_map : (members : Members) →
    members.outlines = members.entries.map (Prod.map id Tree.outline)
  | .closed _ => rfl
  | .broken _ => rfl
  | .unnamed _ _ => rfl
  | .next _ (.error _) _ _ _ _ rest => by
      rw [outlines, entries, rest.outlines_eq_map]
  | .next _ (.ok _) _ _ _ _ rest => by
      rw [outlines, entries, List.map_cons, rest.outlines_eq_map]
      rfl

/-! ### Parts of an outline -/

namespace Outline

/-- The outline itself, unless it is that of null. -/
def nonNull? : Outline → Option Outline
  | .null => none
  | o => some o

/-- What a record says of its members: an object names them, a list goes by their order. -/
def fields (names : List String) : Outline → List (String × Outline)
  | .object members => members
  | .list items => names.zip items
  | _ => []

/-- The member of a record with the given names. -/
def field? (names : List String) (o : Outline) (name : String) : Option Outline :=
  Keyed.get? (o.fields names) name

/-- The names of the members of an object. -/
def names : Outline → List String
  | .object members => members.map (·.1)
  | _ => []

/-- The text, if it is one. -/
def text? : Outline → Option String
  | .text s => some s
  | _ => none

/-- The texts that a list holds; none if it is not a list. -/
def texts : Outline → List String
  | .list items => items.filterMap text?
  | _ => []

end Outline

namespace Tree

variable {t : Tree}

theorem fields_outline (names : List String) (t : Tree) :
    t.outline.fields names = (t.fields names).map (Prod.map id outline) := by
  cases t with
  | object start members => exact members.outlines_eq_map
  | list start items =>
      change names.zip items.outlines = (names.zip items.values).map (Prod.map id outline)
      rw [items.outlines_eq_map, List.zip_map_right]
  | absent fault => rfl
  | word start value stop => rcases value with _ | _ | _ <;> rfl
  | number start value skipped stop => cases value <;> rfl
  | text start value skipped stop => cases value <;> rfl

theorem field?_outline (names : List String) (t : Tree) (name : String) :
    t.outline.field? names name = (t.field? names name).map outline := by
  rw [Outline.field?, fields_outline, Keyed.get?_map]
  rfl

theorem nonNull?_outline (t : Tree) : t.outline.nonNull? = t.nonNull?.map outline := by
  cases t with
  | word start value stop => rcases value with _ | _ | _ <;> rfl
  | number start value skipped stop => cases value <;> rfl
  | text start value skipped stop => cases value <;> rfl
  | absent fault => rfl
  | list start items => rfl
  | object start members => rfl

/-! ### What was read -/

theorem outline_of_readText {s : String} (h : t.readText.result = .ok s) :
    t.outline = .text s := by
  unfold readText at h
  split at h
  · cases h
    rfl
  · exact absurd h (by simp)

/-- Only an object is read as one. -/
theorem outline_of_readObject {α : Type} {expected : String} {read : String → Tree → Reading α}
    {room : Nat} {as : List α} (h : (t.readObject expected read room).result = .ok as) :
    t.outline = .object (t.entries.map (Prod.map id outline)) := by
  unfold readObject at h
  split at h
  · exact absurd h (by simp)
  · next members => exact congrArg Outline.object members.outlines_eq_map
  · exact absurd h (by simp)

end Tree

/-! ### Values of any kind -/

mutual

/-- The outline of a value that can be read. -/
def Value.outline : Value → Outline
  | .null => .null
  | .flag b => .flag b
  | .number n => .number n
  | .text s => .text s
  | .list vs => .list (Value.outlines vs)
  | .object ms => .object (Value.memberOutlines ms)

/-- The outlines of values. -/
def Value.outlines : List Value → List Outline
  | [] => []
  | v :: vs => v.outline :: Value.outlines vs

/-- The outlines of the members of an object. -/
def Value.memberOutlines : List (String × Value) → List (String × Outline)
  | [] => []
  | (name, v) :: ms => (name, v.outline) :: Value.memberOutlines ms

end

mutual

theorem Tree.outline_of_readValue {room : Nat} {v : Value} :
    (t : Tree) → t.readValue room = .ok v → t.outline = v.outline
  | .absent _, h => by cases h
  | .word _ (.ok none) _, h => by cases h; rfl
  | .word _ (.ok (some _)) _, h => by cases h; rfl
  | .word _ (.error _) _, h => by cases h
  | .number _ (.ok _) _ _, h => by cases h; rfl
  | .number _ (.error _) _ _, h => by cases h
  | .text _ (.ok _) _ _, h => by cases h; rfl
  | .text _ (.error _) _ _, h => by cases h
  | .list _ items, h => by
      obtain ⟨left, vs, -, hItems, rfl⟩ := Tree.readValue_list_eq_ok.mp h
      rw [Tree.outline, items.outlines_of_readValues hItems, Value.outline]
  | .object _ members, h => by
      obtain ⟨left, ms, -, hMembers, rfl⟩ := Tree.readValue_object_eq_ok.mp h
      rw [Tree.outline, members.outlines_of_readValues hMembers, Value.outline]

theorem Items.outlines_of_readValues {room : Nat} {vs : List Value} :
    (items : Items) → items.readValues room = .ok vs → items.outlines = Value.outlines vs
  | .closed _, h => by cases h; rfl
  | .broken _, h => by cases h
  | .next _ value rest, h => by
      obtain ⟨v, vs, hValue, hRest, rfl⟩ := Items.readValues_next_eq_ok.mp h
      rw [Items.outlines, value.outline_of_readValue hValue, rest.outlines_of_readValues hRest,
        Value.outlines]

theorem Members.outlines_of_readValues {room : Nat} {ms : List (String × Value)} :
    (members : Members) → members.readValues room = .ok ms →
      members.outlines = Value.memberOutlines ms
  | .closed _, h => by cases h; rfl
  | .broken _, h => by cases h
  | .unnamed _ _, h => by cases h
  | .next _ (.error _) _ _ _ _ _, h => by cases h
  | .next _ (.ok name) _ _ _ value rest, h => by
      obtain ⟨v, ms, hValue, hRest, rfl⟩ := Members.readValues_next_eq_ok.mp h
      rw [Members.outlines, value.outline_of_readValue hValue, rest.outlines_of_readValues hRest,
        Value.memberOutlines]

end

theorem Value.texts_outline (v : Value) : v.outline.texts = v.texts := by
  have hItems : ∀ vs, (outlines vs).filterMap Outline.text? = textsOf vs := by
    intro vs
    induction vs with
    | nil => rfl
    | cons v vs ih =>
        rw [outlines, List.filterMap_cons, ih]
        cases v <;> rfl
  cases v with
  | list vs => exact hItems vs
  | null | flag | number | text | object => rfl

/-! ### Written values -/

mutual

theorem Tree.Denotes.outline_eq {t : Tree} {v : Value} : t.Denotes v → t.outline = v.outline
  | .null => rfl
  | .flag => rfl
  | .text => rfl
  | .list hItems => by rw [Tree.outline, hItems.outlines_eq, Value.outline]
  | .object hMembers => by rw [Tree.outline, hMembers.outlines_eq, Value.outline]

theorem Items.Denote.outlines_eq {items : Items} {vs : List Value} :
    items.Denote vs → items.outlines = Value.outlines vs
  | .closed => rfl
  | .next hValue hRest => by
      rw [Items.outlines, hValue.outline_eq, hRest.outlines_eq, Value.outlines]

theorem Members.Denote.outlines_eq {members : Members} {ms : List (String × Value)} :
    members.Denote ms → members.outlines = Value.memberOutlines ms
  | .closed => rfl
  | .next hValue hRest => by
      rw [Members.outlines, hValue.outline_eq, hRest.outlines_eq, Value.memberOutlines]

end

/-- A written value says just that. -/
theorem Outline.ofString_render {layout : Layout} (hLayout : layout.Blank) {v : Value}
    (hv : v.NumberFree) : ofString (v.render layout) = v.outline :=
  (Value.ofString_render hLayout hv).1.outline_eq

end TypedClient.Json
