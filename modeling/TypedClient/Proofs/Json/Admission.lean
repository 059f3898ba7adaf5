import TypedClient.Proofs.Json.Fields
import TypedClient.Proofs.Json.Sound

/-!
Which values a reader takes. Of the tree of a value in which nothing is wrong as such, a reader can
only fail because the value is not of the shape that it looks for; so each reader is said to admit
the values of a shape. Main statement: a record that is laid out admits the objects that give none
of its members twice, and the lists of their values in order, as long as each is of the member's
shape.
-/

namespace TypedClient.Json

/-- The reading gives a value. -/
def Reading.Succeeds {α : Type} (r : Reading α) : Prop :=
  ∃ a, r.result = .ok a

theorem Reading.bind_succeeds {α β : Type} {r : Reading α} {f : α → Reading β} :
    (r >>= f).Succeeds ↔ ∃ a, r.result = .ok a ∧ (f a).Succeeds := by
  constructor
  · rintro ⟨b, hb⟩
    obtain ⟨a, ha, hb⟩ := bind_result_eq_ok.mp hb
    exact ⟨a, ha, b, hb⟩
  · rintro ⟨a, ha, b, hb⟩
    exact ⟨b, bind_result_eq_ok.mpr ⟨a, ha, hb⟩⟩

theorem Reading.of_ok_bind_succeeds {α β : Type} {a : α} {f : α → Reading β} :
    (of (.ok a) >>= f).Succeeds ↔ (f a).Succeeds := by
  simp [bind_succeeds]

theorem Reading.map_succeeds {α β : Type} {r : Reading α} {f : α → β} :
    (do return f (← r) : Reading β).Succeeds ↔ r.Succeeds := by
  constructor
  · rintro ⟨b, hb⟩
    obtain ⟨a, ha, -⟩ := map_result_eq_ok.mp hb
    exact ⟨a, ha⟩
  · rintro ⟨a, ha⟩
    exact ⟨f a, map_result_eq_ok.mpr ⟨a, ha, rfl⟩⟩

theorem Reading.not_fail_succeeds {α : Type} (fault : Fault) :
    ¬ (fail fault : Reading α).Succeeds := by
  rintro ⟨a, ha⟩
  exact absurd ha (by simp)

/-! ### Shapes -/

/-- What is asked of a value. -/
abbrev Shape : Type :=
  Value → Prop

/-- What is asked of a member of a record. -/
structure FieldShape where
  name : String
  shape : Shape
  /-- Whether a list may end in front of it. -/
  mayLack : Bool

namespace Shape

def any : Shape := fun _ => True

def text : Shape := fun v => ∃ s, v = .text s

/-- Null, or of a shape. -/
def orNull (P : Shape) : Shape := fun v => v = .null ∨ P v

/-- An object, in which the shape of a member may depend on its name. -/
def mapOf (P : String → Shape) : Shape := fun v => ∃ ms, v = .object ms ∧ ∀ e ∈ ms, P e.1 e.2

/-- No member that is asked for is there twice, and each is of its shape. -/
def members (fields : List FieldShape) (ms : List (String × Value)) : Prop :=
  ((ms.map (·.1)).filter (fields.map (·.name)).contains).Nodup ∧
    ∀ g ∈ fields, ∀ v, (g.name, v) ∈ ms → g.shape v

/-- The values are of the shapes of the members in this order, and only members that may lack are
lacking behind them. -/
def items : List FieldShape → List Value → Prop
  | [], [] => True
  | [], _ :: _ => False
  | g :: fields, [] => g.mayLack = true ∧ items fields []
  | g :: fields, v :: vs => g.shape v ∧ items fields vs

/-- A record: an object with its members, or a list of their values. -/
def record (fields : List FieldShape) : Shape
  | .object ms => members fields ms
  | .list vs => items fields vs
  | _ => False

theorem orNull_mono {P Q : Shape} (h : ∀ v, P v → Q v) {v : Value} (hv : P.orNull v) :
    Q.orNull v :=
  hv.imp_right (h v)

theorem mapOf_mono {P Q : String → Shape} (h : ∀ name v, P name v → Q name v) {v : Value}
    (hv : mapOf P v) : mapOf Q v := by
  obtain ⟨ms, rfl, hAll⟩ := hv
  exact ⟨ms, rfl, fun e he => h e.1 e.2 (hAll e he)⟩

/-- A record that asks less of each of its members asks less of the whole. -/
theorem record_mono {fields fields' : List FieldShape}
    (h : List.Forall₂ (fun g g' => g.name = g'.name ∧ g.mayLack = g'.mayLack ∧
      ∀ v, g.shape v → g'.shape v) fields fields') {v : Value} (hv : record fields v) :
    record fields' v := by
  cases v with
  | object ms =>
      obtain ⟨hOnce, hAll⟩ := hv
      have hNames : fields.map (·.name) = fields'.map (·.name) :=
        map_eq_map_of_forall₂ (h.imp fun _ _ hField => hField.1)
      refine ⟨hNames ▸ hOnce, fun g' hg' w hw => ?_⟩
      obtain ⟨g, hg, hName, -, hShape⟩ := exists_of_mem_right h hg'
      exact hShape w (hAll g hg w (hName ▸ hw))
  | list vs =>
      change items fields vs at hv
      change items fields' vs
      induction h generalizing vs with
      | nil => exact hv
      | cons hHead _ ih =>
          cases vs with
          | nil => exact ⟨hHead.2.1 ▸ hv.1, ih _ hv.2⟩
          | cons w vs => exact ⟨hHead.2.2 w hv.1, ih _ hv.2⟩
  | null | flag | number | text => exact hv

end Shape

/-- The reader takes exactly the values of a shape. -/
def Admits {α : Type} (room : Nat) (read : Tree → Reading α) (P : Shape) : Prop :=
  ∀ t v, t.Sound room v → ((read t).Succeeds ↔ P v)

section Admits

variable {α β : Type} {room : Nat}

theorem Admits.map {read : Tree → Reading α} {P : Shape} (f : α → β) (h : Admits room read P) :
    Admits room (fun t => do return f (← read t)) P := by
  intro t v ht
  rw [Reading.map_succeeds]
  exact h t v ht

theorem admits_text : Admits room Tree.readText Shape.text := by
  intro t v ht
  cases ht with
  | text => exact ⟨fun _ => ⟨_, rfl⟩, fun _ => ⟨_, rfl⟩⟩
  | null | flag | number | list | object =>
      refine ⟨fun hFail => absurd hFail (Reading.not_fail_succeeds _), ?_⟩
      rintro ⟨s, hs⟩
      cases hs

theorem Admits.optional {read : Tree → Reading α} {P : Shape} (h : Admits room read P) :
    Admits room (Tree.readOptional read) P.orNull := by
  intro t v ht
  have hRead := h t v ht
  cases ht with
  | null => exact ⟨fun _ => .inl rfl, fun _ => ⟨none, rfl⟩⟩
  | flag | number | text | list | object =>
      refine (Reading.map_succeeds (f := some)).trans (hRead.trans ⟨.inr, ?_⟩)
      exact fun hNull => hNull.resolve_left (by simp)

/-! ### Objects -/

theorem Members.Sound.readEach_succeeds {read : String → Tree → Reading α} {P : String → Shape}
    (h : ∀ name, Admits room (read name) (P name)) {members : Members}
    {ms : List (String × Value)} (hms : members.Sound room ms) :
    (members.readEach read).Succeeds ↔ ∀ e ∈ ms, P e.1 e.2 := by
  induction hms using Members.Sound.along with
  | closed => exact ⟨fun _ => List.forall_mem_nil _, fun _ => ⟨[], rfl⟩⟩
  | next _ _ _ _ _ _ _ _ hValue _ hTail =>
      rw [List.forall_mem_cons, ← h _ _ _ hValue, ← hTail, Members.readEach,
        Reading.of_ok_bind_succeeds, Reading.bind_succeeds]
      constructor
      · rintro ⟨a, ha, hRead⟩
        exact ⟨⟨a, ha⟩, Reading.map_succeeds.mp hRead⟩
      · rintro ⟨⟨a, ha⟩, hRead⟩
        exact ⟨a, ha, Reading.map_succeeds.mpr hRead⟩

theorem Tree.eq_object_of_readObject {expected : String} {read : String → Tree → Reading α}
    {t : Tree} (h : (t.readObject expected read room).Succeeds) :
    ∃ start members, t = .object start members := by
  unfold readObject at h
  split at h
  · exact absurd h (Reading.not_fail_succeeds _)
  · exact ⟨_, _, rfl⟩
  · exact absurd h (Reading.not_fail_succeeds _)

/-- An object is taken if its members are. -/
theorem admits_object {read : String → Tree → Reading α} {P : String → Shape} (expected : String)
    (h : ∀ left, room = left + 1 → ∀ name, Admits left (read name) (P name)) :
    Admits room (Tree.readObject expected read room) (Shape.mapOf P) := by
  intro t v ht
  cases ht with
  | object hMembers =>
      refine (hMembers.readEach_succeeds (h _ rfl)).trans ⟨fun hAll => ⟨_, rfl, hAll⟩, ?_⟩
      rintro ⟨ms, hms, hAll⟩
      cases hms
      exact hAll
  | null | flag | number | text | list =>
      refine ⟨fun hRead => ?_, ?_⟩
      · obtain ⟨start, members, ht⟩ := Tree.eq_object_of_readObject hRead
        cases ht
      · rintro ⟨ms, hms, -⟩
        cases hms

/-! ### Records -/

namespace Shape

variable {fields : List FieldShape} {g : FieldShape} {name : String} {v : Value}
  {ms : List (String × Value)}

theorem members_iff : members fields ms ↔ Keyed.Once (fields.map (·.name)) ms ∧
    ∀ g ∈ fields, ∀ v, (g.name, v) ∈ ms → g.shape v := Iff.rfl

theorem members_cons_unknown (h : name ∉ fields.map (·.name)) :
    members fields ((name, v) :: ms) ↔ members fields ms := by
  have hOther : ∀ g ∈ fields, g.name ≠ name := by
    rintro g hg rfl
    exact h (List.mem_map_of_mem hg)
  have hMem : ∀ g ∈ fields, ∀ w, (g.name, w) ∈ (name, v) :: ms ↔ (g.name, w) ∈ ms := by
    intro g hg w
    rw [List.mem_cons, Prod.mk.injEq, or_iff_right]
    rintro ⟨hName, -⟩
    exact hOther g hg hName
  rw [members_iff, members_iff, Keyed.once_cons_unknown h]
  refine and_congr_right fun _ => ?_
  constructor
  · intro hAll g hg w hw
    exact hAll g hg w ((hMem g hg w).mpr hw)
  · intro hAll g hg w hw
    exact hAll g hg w ((hMem g hg w).mp hw)

theorem members_cons_known (hFields : (fields.map (·.name)).Nodup) (hg : g ∈ fields) :
    members fields ((g.name, v) :: ms) ↔
      g.name ∉ ms.map (·.1) ∧ g.shape v ∧ members fields ms := by
  rw [members_iff, members_iff, Keyed.once_cons_known (List.mem_map_of_mem hg)]
  constructor
  · rintro ⟨⟨hOnce, hRest⟩, hAll⟩
    refine ⟨hOnce, hAll g hg v (List.mem_cons_self ..), hRest, ?_⟩
    intro l hl w hw
    exact hAll l hl w (List.mem_cons_of_mem _ hw)
  · rintro ⟨hOnce, hv, hRest, hAll⟩
    refine ⟨⟨hOnce, hRest⟩, ?_⟩
    intro l hl w hw
    rcases List.mem_cons.mp hw with hEq | hw
    · obtain ⟨hSame, rfl⟩ := Prod.mk.inj hEq
      rw [List.inj_on_of_nodup_map hFields hl hg hSame]
      exact hv
    · exact hAll l hl w hw

end Shape

/-- Each field is read of values of a shape. -/
def Shaped {σ : Type} (room : Nat) (fields : List (Field σ)) (shapes : List FieldShape) : Prop :=
  List.Forall₂ (fun f g => f.name = g.name ∧ f.mayLack = g.mayLack ∧ Admits room f.read g.shape)
    fields shapes

namespace Record

variable {σ : Type} {r : Record σ α} {fields : List (Field σ)} {shapes : List FieldShape}
  {f : Field σ}

/-- A list is taken if its values are, in the order of the members. -/
theorem readItems_succeeds (hShaped : Shaped room fields shapes) {items : Items}
    {vs : List Value} (hItems : items.Sound room vs) (index : Nat) (s : σ) :
    (r.readItems index s (fields.map Field.member) items).Succeeds ↔ Shape.items shapes vs := by
  induction hShaped generalizing items vs index s with
  | nil =>
      cases hItems with
      | closed => exact ⟨fun _ => trivial, fun _ => ⟨_, rfl⟩⟩
      | next _ _ => exact ⟨fun h => absurd h (Reading.not_fail_succeeds _), False.elim⟩
  | @cons f g fields shapes hHead _ ih =>
      obtain ⟨-, hLack, hAdmits⟩ := hHead
      cases hItems with
      | closed =>
          rw [List.map_cons, readItems, Shape.items, ← ih .closed (index + 1) s, ← hLack]
          change (if f.mayLack = true then _ else _ : Reading (σ × Position)).Succeeds ↔ _
          split
          · next hMay => exact ⟨fun h => ⟨hMay, h⟩, fun h => h.2⟩
          · next hMay =>
              exact ⟨fun h => absurd h (Reading.not_fail_succeeds _), fun h => absurd h.1 hMay⟩
      | next hValue hRest =>
          rw [List.map_cons, readItems, Shape.items, ← hAdmits _ _ hValue, Reading.bind_succeeds]
          constructor
          · rintro ⟨next, hNext, hMore⟩
            obtain ⟨b, hb, -⟩ := Reading.map_result_eq_ok.mp hNext
            exact ⟨⟨b, hb⟩, (ih hRest _ _).mp hMore⟩
          · rintro ⟨⟨b, hb⟩, hMore⟩
            exact ⟨_, Reading.map_result_eq_ok.mpr ⟨b, hb, rfl⟩, (ih hRest _ _).mpr hMore⟩

/-- No field that is filled is among the names to come. -/
def Free (fields : List (Field σ)) (s : σ) (names : List String) : Prop :=
  ∀ f ∈ fields, (f.slot s).isSome = true → f.name ∉ names

theorem Free.tail {name : String} {names : List String} {s : σ}
    (h : Free fields s (name :: names)) : Free fields s names :=
  fun f hf hFilled hMem => h f hf hFilled (List.mem_cons_of_mem _ hMem)

theorem free_cons {name : String} {names : List String} {s : σ}
    (h : ∀ f ∈ fields, f.name = name → f.slot s = none) :
    Free fields s (name :: names) ↔ Free fields s names := by
  refine ⟨Free.tail, fun hFree f hf hFilled hMem => ?_⟩
  rcases List.mem_cons.mp hMem with hName | hMem
  · rw [h f hf hName] at hFilled
    exact absurd hFilled (by simp)
  · exact hFree f hf hFilled hMem

theorem Laid.free_empty (h : r.Laid fields) (names : List String) : Free fields r.empty names := by
  intro f hf hFilled
  rw [h.empty f hf] at hFilled
  exact absurd hFilled (by simp)

theorem Laid.free_put (h : r.Laid fields) (hf : f ∈ fields) {s : σ} (hEmpty : f.slot s = none)
    (b : f.Value) {names : List String} :
    Free fields (f.put s b) names ↔ f.name ∉ names ∧ Free fields s names := by
  have hSame : ∀ g ∈ fields, g.name ≠ f.name → g.slot (f.put s b) = g.slot s := by
    intro g hg hName
    exact (h.apart_of_ne hf hg hName).2 s b
  constructor
  · intro hFree
    refine ⟨hFree f hf (by rw [h.own f hf]; rfl), ?_⟩
    intro g hg hFilled
    by_cases hName : g.name = f.name
    · cases List.inj_on_of_nodup_map h.nodup hg hf hName
      rw [hEmpty] at hFilled
      exact absurd hFilled (by simp)
    · exact hFree g hg (by rw [hSame g hg hName]; exact hFilled)
  · rintro ⟨hOnce, hFree⟩ g hg hFilled
    by_cases hName : g.name = f.name
    · rw [hName]
      exact hOnce
    · rw [hSame g hg hName] at hFilled
      exact hFree g hg hFilled

/-- The members of an object are taken if none that is known is there twice, or fills what is
filled already, and each is taken. -/
theorem Laid.readMembers_succeeds (h : r.Laid fields) (hShaped : Shaped room fields shapes)
    {members : Members} {ms : List (String × Value)} (hms : members.Sound room ms) (s : σ) :
    (r.readMembers s members).Succeeds ↔
      Free fields s (ms.map (·.1)) ∧ Shape.members shapes ms := by
  induction hms using Members.Sound.along generalizing s with
  | closed =>
      refine ⟨fun _ => ⟨?_, ?_⟩, fun _ => ⟨_, rfl⟩⟩
      · exact fun _ _ _ => List.not_mem_nil
      · exact ⟨List.nodup_nil, fun _ _ _ hMem => absurd hMem List.not_mem_nil⟩
  | next _ _ _ name value v rest _ hValue _ ih =>
      have hNames : shapes.map (·.name) = fields.map (·.name) :=
        (map_eq_map_of_forall₂ (hShaped.imp fun _ _ hField => hField.1)).symm
      rw [readMembers_next, Reading.bind_succeeds, List.map_cons]
      by_cases hKnown : name ∈ fields.map (·.name)
      · obtain ⟨f, hf, rfl⟩ := List.mem_map.mp hKnown
        obtain ⟨g, hg, hgName, -, hAdmits⟩ := exists_of_mem_left hShaped hf
        cases hSlot : f.slot s with
        | some b =>
            have hFilled : (f.slot s).isSome = true := by rw [hSlot, Option.isSome_some]
            rw [h.readMember_filled hf hFilled]
            refine ⟨?_, fun hFree => absurd (List.mem_cons_self ..) (hFree.1 f hf hFilled)⟩
            rintro ⟨_, hFail, -⟩
            cases hFail
        | none =>
            have hOnly : ∀ l ∈ fields, l.name = f.name → l.slot s = none := by
              intro l hl hName
              rw [List.inj_on_of_nodup_map h.nodup hl hf hName]
              exact hSlot
            rw [h.readMember_empty hf hSlot, free_cons hOnly, hgName,
              Shape.members_cons_known (hNames ▸ h.nodup) hg, ← hAdmits value v hValue, ← hgName]
            constructor
            · rintro ⟨next, hNext, hMore⟩
              obtain ⟨b, hb, rfl⟩ := Reading.map_result_eq_ok.mp hNext
              obtain ⟨hFree, hMembers⟩ := (ih (f.put s b)).mp hMore
              obtain ⟨hOnce, hFree⟩ := (h.free_put hf hSlot b).mp hFree
              exact ⟨hFree, hOnce, ⟨b, hb⟩, hMembers⟩
            · rintro ⟨hFree, hOnce, ⟨b, hb⟩, hMembers⟩
              refine ⟨f.put s b, Reading.map_result_eq_ok.mpr ⟨b, hb, rfl⟩, ?_⟩
              exact (ih (f.put s b)).mpr ⟨(h.free_put hf hSlot b).mpr ⟨hOnce, hFree⟩, hMembers⟩
      · have hOther : ∀ f ∈ fields, f.name = name → f.slot s = none := by
          rintro f hf rfl
          exact absurd (List.mem_map_of_mem hf) hKnown
        rw [h.readMember_unknown hKnown, hValue.skip_eq, free_cons hOther,
          Shape.members_cons_unknown (hNames ▸ hKnown), ← ih s]
        constructor
        · rintro ⟨next, hNext, hMore⟩
          cases hNext
          exact hMore
        · exact fun hMore => ⟨s, rfl, hMore⟩

/-- A record takes the values of its shape, where there is room for what lies inside. -/
theorem Laid.admits (h : r.Laid fields) (hShaped : Shaped room fields shapes)
    (hFinish : ∀ s, ∃ a, r.finish s = .ok a) :
    Admits (room + 1) r.readInside (Shape.record shapes) := by
  intro t v ht
  have hEnd : ∀ read : Reading (σ × Position),
      (do r.finishAt (← read) : Reading α).Succeeds ↔ read.Succeeds := by
    intro read
    rw [Reading.bind_succeeds]
    constructor
    · rintro ⟨q, hq, -⟩
      exact ⟨q, hq⟩
    · rintro ⟨q, hq⟩
      obtain ⟨a, ha⟩ := hFinish q.1
      exact ⟨q, hq, a, finishAt_result_eq_ok.mpr ha⟩
  cases ht with
  | object hMembers =>
      rw [readInside, hEnd, h.readMembers_succeeds hShaped hMembers r.empty]
      exact and_iff_right (h.free_empty _)
  | list hItems =>
      rw [readInside, hEnd, h.members]
      exact readItems_succeeds hShaped hItems 0 r.empty
  | null | flag | number | text =>
      exact ⟨fun hFail => absurd hFail (Reading.not_fail_succeeds _), False.elim⟩

/-- A record takes the values of its shape. -/
theorem admits_readRecord {inside : Nat → Record σ α} {fields : Nat → List (Field σ)}
    (hLaid : ∀ room, (inside room).Laid (fields room))
    (hFinish : ∀ room s, ∃ a, (inside room).finish s = .ok a)
    (hShaped : ∀ left, room = left + 1 → Shaped left (fields left) shapes) :
    Admits room (Tree.readRecord inside room) (Shape.record shapes) := by
  cases room with
  | zero =>
      intro t v ht
      cases ht with
      | null | flag | number | text =>
          exact ⟨fun hFail => absurd hFail (Reading.not_fail_succeeds _), False.elim⟩
  | succ left => exact (hLaid left).admits (hShaped left rfl) (hFinish left)

end Record

end Admits

end TypedClient.Json
