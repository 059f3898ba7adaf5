import TypedClient.Proofs.Json.Reading
import TypedClient.Proofs.Json.Spans

/-!
Where a walk over a tree ends. A value that is refused is refused in front of all that lies in it;
one that is passed over, or read whatever it is, ends where it does in the text or at something
wrong with it.
-/

namespace TypedClient.Json

variable {α β : Type} {p m : Position} {q : Option Position}

/-! ### Refusals -/

namespace Tree.Within

variable {t : Tree} {start : Position} {items : Items} {members : Members}

theorem wrongKind_between (h : t.Within p q) (expected : String) :
    p.Between q (t.wrongKind expected).position := by
  cases h with
  | absent hFault => exact ⟨hFault, by simp⟩
  | @word _ _ _ _ value hValue hStop =>
      rcases value with fault | _ | b
      · exact hValue
      · exact hStop
      · exact hStop
  | @number _ _ _ _ value _ hValue _ hStop =>
      cases value with
      | error fault => exact hValue
      | ok n => exact hStop
  | @text _ _ _ _ value _ hValue _ hStop =>
      cases value with
      | error fault => exact hValue
      | ok s => exact hStop
  | list hStart hInside =>
      refine ⟨hStart, ?_⟩
      rintro e rfl
      exact (Position.le_pastFirstByte _ _).trans hInside.le
  | object hStart hInside =>
      refine ⟨hStart, ?_⟩
      rintro e rfl
      exact (Position.le_pastFirstByte _ _).trans hInside.le

/-- A list that is refused is refused in front of all that lies in it. -/
theorem refuse_list (h : (Tree.list start items).Within p q) (lists objects : Bool)
    (expected : String) :
    p.Between q ((Tree.list start items).refuse lists objects expected).position ∧
      ((Tree.list start items).refuse lists objects expected).position ≤ start.inside := by
  have hWrong := h.wrongKind_between expected
  cases h with
  | list hStart hInside =>
      cases lists with
      | false => exact ⟨hWrong, Position.le_pastFirstByte _ _⟩
      | true =>
          refine ⟨⟨hStart.trans (Position.le_pastFirstByte _ _), ?_⟩, le_refl _⟩
          rintro e rfl
          exact hInside.le

/-- An object that is refused is refused in front of all that lies in it. -/
theorem refuse_object (h : (Tree.object start members).Within p q) (lists objects : Bool)
    (expected : String) :
    p.Between q ((Tree.object start members).refuse lists objects expected).position ∧
      ((Tree.object start members).refuse lists objects expected).position ≤ start.inside := by
  have hWrong := h.wrongKind_between expected
  cases h with
  | object hStart hInside =>
      cases objects with
      | false => exact ⟨hWrong, Position.le_pastFirstByte _ _⟩
      | true =>
          refine ⟨⟨hStart.trans (Position.le_pastFirstByte _ _), ?_⟩, le_refl _⟩
          rintro e rfl
          exact hInside.le

theorem refuse_between (h : t.Within p q) (lists objects : Bool) (expected : String) :
    p.Between q (t.refuse lists objects expected).position := by
  cases t with
  | list start items => exact (h.refuse_list lists objects expected).1
  | object start members => exact (h.refuse_object lists objects expected).1
  | absent | word | number | text => exact h.wrongKind_between expected

end Tree.Within

/-! ### Values of any kind -/

theorem EndsBetween.map {r : Except Fault α} (f : α → β) (h : EndsBetween p q r) :
    EndsBetween p q (r.map f) := by
  cases r with
  | error fault => exact h
  | ok a => exact h

/-- Two parts of a text, one behind the other. -/
theorem EndsBetween.andThen {r : Except Fault α} {f : α → Except Fault β}
    (h : EndsBetween p (some m) r) (hf : ∀ a, EndsBetween m q (f a)) (hLe : p ≤ m)
    (hEnd : ∀ e ∈ q, m ≤ e) : EndsBetween p q (r.bind f) := by
  cases r with
  | error fault => exact ⟨h.1, fun e he => (h.2 m rfl).trans (hEnd e he)⟩
  | ok a => exact (hf a).mono hLe

/-- A part without an end: nothing behind it is read. -/
theorem EndsBetween.andThen_cut {r : Except Fault α} (f : α → Except Fault β)
    (h : EndsBetween p none r) : EndsBetween p none (r.bind f) := by
  cases r with
  | error fault => exact h
  | ok a => exact absurd rfl h

theorem Tree.Within.le_end {t : Tree} (h : t.Within p q) : ∀ e ∈ q, p ≤ e := by
  rintro e rfl
  exact h.le

theorem Items.Within.le_end {items : Items} (h : items.Within p q) : ∀ e ∈ q, p ≤ e := by
  rintro e rfl
  exact h.le

theorem Members.Within.le_end {members : Members} (h : members.Within p q) : ∀ e ∈ q, p ≤ e := by
  rintro e rfl
  exact h.le

theorem Items.skip_next {left : Fault} {value : Tree} {rest : Items} :
    (Items.next left value rest).skip = value.skip.bind fun _ => rest.skip := by
  rw [skip]
  cases value.skip <;> rfl

theorem Members.skip_next {left : Fault} {name : Except Fault String}
    {nameSkipped : Except Fault Unit} {nameStop behindName : Position} {value : Tree}
    {rest : Members} : (Members.next left name nameSkipped nameStop behindName value rest).skip =
      nameSkipped.bind fun _ => value.skip.bind fun _ => rest.skip := by
  cases nameSkipped with
  | error fault => rw [skip, Except.bind]
  | ok _ =>
      rw [skip, Except.bind]
      cases value.skip <;> rfl

mutual

/-- Passing over a value ends in it. -/
theorem Tree.Within.skip_ends : {p : Position} → {q : Option Position} → {t : Tree} →
    t.Within p q → EndsBetween p q t.skip
  | _, _, _, .absent hFault => by
      rw [Tree.skip]
      exact ⟨hFault, by simp⟩
  | _, _, _, .word hValue _ => by
      rw [Tree.skip]
      exact hValue.map _
  | _, _, _, .number _ hSkipped _ => by
      rw [Tree.skip]
      exact hSkipped
  | _, _, _, .text _ hSkipped _ => by
      rw [Tree.skip]
      exact hSkipped
  | _, _, _, .list hStart hInside => by
      rw [Tree.skip]
      exact hInside.skip_ends.mono (hStart.trans (Position.le_pastFirstByte _ _))
  | _, _, _, .object hStart hInside => by
      rw [Tree.skip]
      exact hInside.skip_ends.mono (hStart.trans (Position.le_pastFirstByte _ _))

theorem Items.Within.skip_ends : {p : Position} → {q : Option Position} → {items : Items} →
    items.Within p q → EndsBetween p q items.skip
  | _, _, _, .closed _ => by simp [Items.skip, EndsBetween]
  | _, _, _, .broken _ hSkipped _ => by
      rw [Items.skip]
      exact ⟨hSkipped, by simp⟩
  | _, _, _, .next _ hValue hRest => by
      rw [Items.skip_next]
      exact hValue.skip_ends.andThen (fun _ => hRest.skip_ends) hValue.le hRest.le_end
  | _, _, _, .cut _ hValue => by
      rw [Items.skip_next]
      exact hValue.skip_ends.andThen_cut _

theorem Members.Within.skip_ends : {p : Position} → {q : Option Position} →
    {members : Members} → members.Within p q → EndsBetween p q members.skip
  | _, _, _, .closed _ => by simp [Members.skip, EndsBetween]
  | _, _, _, .broken _ hSkipped => by
      rw [Members.skip]
      exact ⟨hSkipped, by simp⟩
  | _, _, _, .unnamed hFault => by
      rw [Members.skip]
      exact ⟨hFault, by simp⟩
  | _, _, _, .next _ hPlace hBehind hValue hRest => by
      rw [Members.skip_next]
      have hValueRest :=
        hValue.skip_ends.andThen (fun _ => hRest.skip_ends) hValue.le hRest.le_end
      exact hValueRest.mono (hPlace.le.trans hBehind)
  | _, _, _, @Members.Within.cut _ _ _ _ _ nameSkipped _ _ _ hSkipped hPlace hBehind hValue => by
      rw [Members.skip_next]
      cases nameSkipped with
      | error fault => exact ⟨hSkipped fault rfl, by simp⟩
      | ok _ => exact (hValue.skip_ends.andThen_cut _).mono (hPlace.le.trans hBehind)

end

theorem Items.readValues_next {left : Fault} {value : Tree} {rest : Items} {room : Nat} :
    (Items.next left value rest).readValues room =
      (value.readValue room).bind fun v => (rest.readValues room).map (v :: ·) := by
  rw [readValues]
  cases value.readValue room <;> rfl

theorem Members.readValues_next {left : Fault} {name : Except Fault String}
    {nameSkipped : Except Fault Unit} {nameStop behindName : Position} {value : Tree}
    {rest : Members} {room : Nat} :
    (Members.next left name nameSkipped nameStop behindName value rest).readValues room =
      name.bind fun name => (value.readValue room).bind fun v =>
        (rest.readValues room).map ((name, v) :: ·) := by
  cases name with
  | error fault => rw [readValues, Except.bind]
  | ok name =>
      rw [readValues, Except.bind]
      cases value.readValue room <;> rfl

mutual

/-- Reading a value of any kind ends in it. -/
theorem Tree.Within.readValue_ends : {p : Position} → {q : Option Position} → {t : Tree} →
    t.Within p q → (room : Nat) → EndsBetween p q (t.readValue room)
  | _, _, _, .absent hFault, _ => by
      rw [Tree.readValue]
      exact ⟨hFault, by simp⟩
  | _, _, _, .word hValue _, _ => by
      rw [Tree.readValue]
      exact hValue.map _
  | _, _, _, .number hValue _ _, _ => by
      rw [Tree.readValue]
      exact hValue.map _
  | _, _, _, .text hValue _ _, _ => by
      rw [Tree.readValue]
      exact hValue.map _
  | _, _, _, .list hStart hInside, 0 => by
      rw [Tree.readValue]
      exact ((Tree.Within.list hStart hInside).refuse_list true true "").1
  | _, _, _, .list hStart hInside, room + 1 => by
      rw [Tree.readValue]
      exact ((hInside.readValues_ends room).map _).mono
        (hStart.trans (Position.le_pastFirstByte _ _))
  | _, _, _, .object hStart hInside, 0 => by
      rw [Tree.readValue]
      exact ((Tree.Within.object hStart hInside).refuse_object true true "").1
  | _, _, _, .object hStart hInside, room + 1 => by
      rw [Tree.readValue]
      exact ((hInside.readValues_ends room).map _).mono
        (hStart.trans (Position.le_pastFirstByte _ _))

theorem Items.Within.readValues_ends : {p : Position} → {q : Option Position} → {items : Items} →
    items.Within p q → (room : Nat) → EndsBetween p q (items.readValues room)
  | _, _, _, .closed _, _ => by simp [Items.readValues, EndsBetween]
  | _, _, _, .broken hRead _ _, _ => by
      rw [Items.readValues]
      exact ⟨hRead, by simp⟩
  | _, _, _, .next _ hValue hRest, room => by
      rw [Items.readValues_next]
      exact (hValue.readValue_ends room).andThen (fun _ => (hRest.readValues_ends room).map _)
        hValue.le hRest.le_end
  | _, _, _, .cut _ hValue, room => by
      rw [Items.readValues_next]
      exact (hValue.readValue_ends room).andThen_cut _

theorem Members.Within.readValues_ends : {p : Position} → {q : Option Position} →
    {members : Members} → members.Within p q → (room : Nat) →
    EndsBetween p q (members.readValues room)
  | _, _, _, .closed _, _ => by simp [Members.readValues, EndsBetween]
  | _, _, _, .broken hRead _, _ => by
      rw [Members.readValues]
      exact ⟨hRead, by simp⟩
  | _, _, _, .unnamed hFault, _ => by
      rw [Members.readValues]
      exact ⟨hFault, by simp⟩
  | _, _, _, .next hName hPlace hBehind hValue hRest, room => by
      rw [Members.readValues_next]
      have hLe := hBehind.trans hValue.le
      have hValueRest := fun name => ((hValue.readValue_ends room).andThen
        (fun v => (hRest.readValues_ends room).map ((name, v) :: ·)) hValue.le hRest.le_end).mono
          hBehind
      exact hName.andThen hValueRest hPlace.le fun e he => hLe.trans (hRest.le_end e he)
  | _, _, _, @Members.Within.cut _ _ _ _ name _ _ _ hName _ hPlace hBehind hValue, room => by
      rw [Members.readValues_next]
      cases name with
      | error fault => exact ⟨hName fault rfl, by simp⟩
      | ok name =>
          exact ((hValue.readValue_ends room).andThen_cut _).mono (hPlace.le.trans hBehind)

end

end TypedClient.Json
