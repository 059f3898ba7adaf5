import TypedClient.Proofs.Json.Printing
import TypedClient.Proofs.Json.Reading

/-!
Reading trees of known values. What a reader gives for such a tree depends on the value alone, so
these statements are about values: a record accepts the members of an object one by one.
-/

namespace TypedClient.Json

/-! ### Scalars and lists -/

namespace Tree.Denotes

variable {α : Type} {t : Tree}

theorem readText {s : String} (h : t.Denotes (.text s)) : t.readText.result = .ok s := by
  cases h
  rfl

theorem readFlag {b : Bool} (h : t.Denotes (.flag b)) : t.readFlag.result = .ok b := by
  cases h
  rfl

/-- What is not null is read for what it is. -/
theorem readOptional {v : Value} {read : Tree → Reading α} {a : α} (h : t.Denotes v)
    (hv : v ≠ .null) (hRead : (read t).result = .ok a) :
    (t.readOptional read).result = .ok (some a) := by
  unfold Tree.readOptional
  split
  · cases h
    exact absurd rfl hv
  · exact Reading.map_result_eq_ok.mpr ⟨a, hRead, rfl⟩

theorem readName {names : List (String × α)} {name : String} {a : α} {room : Nat}
    (h : t.Denotes (.text name)) (hName : names.lookup name = some a) :
    (t.readName names room).result = .ok a := by
  cases h
  rw [Tree.readName, nameValue, hName]
  rfl

end Tree.Denotes

theorem Items.Denote.readTexts {items : Items} {ss : List String}
    (h : items.Denote (ss.map .text)) : (items.readEach Tree.readText).result = .ok ss := by
  induction ss generalizing items with
  | nil =>
      cases h
      rfl
  | cons s ss ih =>
      cases h with
      | next hText hRest =>
          rw [Items.readEach, Reading.bind_result_eq_ok]
          refine ⟨s, hText.readText, ?_⟩
          exact Reading.map_result_eq_ok.mpr ⟨ss, ih hRest, rfl⟩

/-- A list of texts is read where there is room for it. -/
theorem Tree.Denotes.readTexts {t : Tree} {ss : List String} {room : Nat}
    (h : t.Denotes (.list (ss.map .text))) :
    (t.readList Tree.readText (room + 1)).result = .ok ss := by
  cases h with
  | list hItems => exact hItems.readTexts

/-! ### Records -/

namespace Record

variable {σ α : Type} {r : Record σ α}

/-- The members of an object take a record from one state to another: each is known, was not given
before, and is read. -/
inductive Accepts (r : Record σ α) : σ → List (String × Value) → σ → Prop
  | nil {s : σ} : Accepts r s [] s
  | cons {s s' s'' : σ} {name : String} {v : Value} {ms : List (String × Value)}
      {m : RecordMember σ} (hFind : r.members.find? (·.name = name) = some m)
      (hGiven : m.given s = false)
      (hRead : ∀ t : Tree, t.Denotes v → (m.read t s).result = .ok s')
      (hRest : Accepts r s' ms s'') : Accepts r s ((name, v) :: ms) s''

theorem Accepts.readMembers {s s' : σ} {ms : List (String × Value)} (h : r.Accepts s ms s')
    {members : Members} (hMembers : members.Denote ms) :
    ∃ stop, (r.readMembers s members).result = .ok (s', stop) := by
  induction h generalizing members with
  | nil =>
      cases hMembers
      exact ⟨_, rfl⟩
  | cons hFind hGiven hRead _ ih =>
      cases hMembers with
      | next hDenotes hDenote =>
          obtain ⟨stop, hStop⟩ := ih hDenote
          refine ⟨stop, ?_⟩
          rw [Record.readMembers, Reading.bind_result_eq_ok]
          refine ⟨_, rfl, ?_⟩
          rw [hFind]
          dsimp only
          rw [if_neg (by rw [hGiven]; decide), Reading.bind_result_eq_ok]
          exact ⟨_, hRead _ hDenotes, hStop⟩

/-- A record is read of an object whose members it accepts. -/
theorem Accepts.readInside {s : σ} {ms : List (String × Value)} {a : α}
    (h : r.Accepts r.empty ms s) (hFinish : r.finish s = .ok a) {t : Tree}
    (ht : t.Denotes (.object ms)) : (r.readInside t).result = .ok a := by
  cases ht with
  | object hMembers =>
      obtain ⟨stop, hStop⟩ := h.readMembers hMembers
      rw [Record.readInside, Reading.bind_result_eq_ok]
      exact ⟨_, hStop, finishAt_result_eq_ok.mpr hFinish⟩

theorem Accepts.readRecord {inside : Nat → Record σ α} {room : Nat} {s : σ}
    {ms : List (String × Value)} {a : α} (h : (inside room).Accepts (inside room).empty ms s)
    (hFinish : (inside room).finish s = .ok a) {t : Tree} (ht : t.Denotes (.object ms)) :
    (t.readRecord inside (room + 1)).result = .ok a :=
  h.readInside hFinish ht

end Record

/-- A reader that is right about every tree of a value is right about its text. -/
theorem readString_render {α : Type} {read : Nat → Tree → Reading α} {layout : Layout}
    (hLayout : layout.Blank) {v : Value} (hv : v.NumberFree) {a : α}
    (hRead : ∀ t : Tree, t.Denotes v → (read fullRoom t).result = .ok a) :
    (readString read (v.render layout)).result = .ok a := by
  obtain ⟨hDenotes, hTrailing⟩ := Value.ofString_render hLayout hv
  exact readString_result_eq_ok.mpr ⟨hRead _ hDenotes, hTrailing⟩

end TypedClient.Json
