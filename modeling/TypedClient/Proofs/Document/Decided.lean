import TypedClient.Proofs.Client.Interchange
import TypedClient.Proofs.Document.Essential
import TypedClient.Proofs.Document.Shape
import TypedClient.Proofs.Schema.Written

/-!
What counts in the text of a description decides its client. Each part is read by a reader of its
own, and for each of these it is said once what it makes of two trees of which the same counts. Main
statement: two texts that can be read, and that say the same as soon as all that does not count is
left out, give the same client.
-/

namespace TypedClient

open Json

namespace Part

variable {α σ : Type}

/-- It was read of a tree of which so much counts. -/
def ReadAs (p : Part) (read : Tree → Reading α) (k : Outline) (a : α) : Prop :=
  ∃ t : Tree, p.keep t.outline = k ∧ (read t).result = .ok a

/-- What counts decides what is read, up to a relation. -/
def Decides (p : Part) (read : Tree → Reading α) (R : α → α → Prop) : Prop :=
  ∀ k a a', p.ReadAs read k a → p.ReadAs read k a' → R a a'

theorem rel_getD {R : α → α → Prop} {a? a'? : Option α} {b b' : α} (h : Option.Rel R a? a'?)
    (hNone : R b b') : R (a?.getD b) (a'?.getD b') := by
  cases h with
  | none => exact hNone
  | some hSome => exact hSome

theorem rel_of_common {κ : Type} {P : κ → α → Prop} {R : α → α → Prop}
    (h : ∀ k a a', P k a → P k a' → R a a') {k? : Option κ} {a? a'? : Option α}
    (ha : Option.Rel P k? a?) (ha' : Option.Rel P k? a'?) : Option.Rel R a? a'? := by
  cases ha with
  | none =>
      cases ha'
      exact Option.Rel.none
  | some hk =>
      cases ha' with
      | some hk' => exact Option.Rel.some (h _ _ _ hk hk')

theorem forall₂_of_common {κ : Type} {P : κ → α → Prop} {R : α → α → Prop}
    (h : ∀ k a a', P k a → P k a' → R a a') {ks : List κ} {as as' : List α}
    (ha : List.Forall₂ P ks as) (ha' : List.Forall₂ P ks as') : List.Forall₂ R as as' := by
  induction ha generalizing as' with
  | nil =>
      cases ha'
      exact List.Forall₂.nil
  | cons hk _ ih =>
      cases ha' with
      | cons hk' hRest => exact List.Forall₂.cons (h _ _ _ hk hk') (ih hRest)

/-- What may be null is decided by what decides it if it is not. -/
theorem Decides.optional {p : Part} {read : Tree → Reading α} {R : α → α → Prop}
    (h : p.Decides read R) : p.Decides (Tree.readOptional read) (Option.Rel R) := by
  have hRel : ∀ k a?, p.ReadAs (Tree.readOptional read) k a? →
      Option.Rel (p.ReadAs read) k.nonNull? a? := by
    rintro _ a? ⟨t, rfl, hRead⟩
    rw [nonNull?_keep, Tree.nonNull?_outline, Option.map_map]
    have hSome := Tree.rel_of_readOptional hRead
    generalize t.nonNull? = t? at hSome
    cases hSome with
    | none => exact Option.Rel.none
    | some hValue => exact Option.Rel.some ⟨_, rfl, hValue⟩
  intro k a? a'? ha ha'
  exact rel_of_common h (hRel k a? ha) (hRel k a'? ha')

theorem decides_text : whole.Decides Tree.readText Eq := by
  rintro k s s' ⟨t, rfl, hRead⟩ ⟨t', hKeep, hRead'⟩
  rw [keep_whole, keep_whole, Tree.outline_of_readText hRead,
    Tree.outline_of_readText hRead'] at hKeep
  cases hKeep
  rfl

/-- What is read of a member of a record is read of what counts in it. -/
theorem rel_of_slot {p q : Part} {r : Record σ α} {fs : List (Json.Field σ)} {f : Json.Field σ}
    {k : Outline} {a : α} (hLaid : r.Laid fs) (hf : f ∈ fs)
    (hNames : ∀ own, (p.fields own).map (·.1) = r.names)
    (hPart : ∀ o, p.keep o = k → Keyed.get? (p.fields o.propertyNames) f.name = some q)
    (h : p.ReadAs r.readInside k a) :
    ∃ s, r.finish s = .ok a ∧
      Option.Rel (q.ReadAs f.read) (k.field? r.names f.name) (f.slot s) := by
  obtain ⟨t, rfl, hRead⟩ := h
  obtain ⟨s, hFinish, hSlot⟩ := (hLaid.slot hf).of_readInside hRead
  refine ⟨s, hFinish, ?_⟩
  rw [← hNames, field?_keep (hPart t.outline rfl), hNames, Tree.field?_outline, Option.map_map]
  generalize t.field? r.names f.name = t? at hSlot
  generalize f.slot s = b? at hSlot ⊢
  cases hSlot with
  | none => exact Option.Rel.none
  | some hRead => exact Option.Rel.some ⟨_, rfl, hRead⟩

/-- A member of a record is decided by what counts in what the member is read as. -/
theorem Decides.slot {p q : Part} {r : Record σ α} {fs : List (Json.Field σ)} {f : Json.Field σ}
    {R : f.Value → f.Value → Prop} (h : q.Decides f.read R) (hLaid : r.Laid fs) (hf : f ∈ fs)
    {k : Outline} {a a' : α} (hNames : ∀ own, (p.fields own).map (·.1) = r.names)
    (hPart : ∀ o, p.keep o = k → Keyed.get? (p.fields o.propertyNames) f.name = some q)
    (ha : p.ReadAs r.readInside k a) (ha' : p.ReadAs r.readInside k a') :
    ∃ s s', r.finish s = .ok a ∧ r.finish s' = .ok a' ∧ Option.Rel R (f.slot s) (f.slot s') := by
  obtain ⟨s, hFinish, hRel⟩ := rel_of_slot hLaid hf hNames hPart ha
  obtain ⟨s', hFinish', hRel'⟩ := rel_of_slot hLaid hf hNames hPart ha'
  exact ⟨s, s', hFinish, hFinish', rel_of_common h hRel hRel'⟩

/-- A record is only read where there is room for it. -/
theorem Decides.readRecord {p : Part} {inside : Nat → Record σ α} {room : Nat}
    {R : α → α → Prop} (h : ∀ left, room = left + 1 → p.Decides (inside left).readInside R) :
    p.Decides (Tree.readRecord inside room) R := by
  rintro k a a' ⟨t, hKeep, ha⟩ ⟨t', hKeep', ha'⟩
  obtain ⟨left, rfl, ha⟩ := Tree.readInside_of_readRecord ha
  obtain ⟨_, hLeft, ha'⟩ := Tree.readInside_of_readRecord ha'
  cases hLeft
  exact h left rfl k a a' ⟨t, hKeep, ha⟩ ⟨t', hKeep', ha'⟩

/-! ### Objects of one kind of value -/

theorem outline_of_readKeyed {read : Tree → Reading α} {room : Nat} {t : Tree}
    {entries : Keyed String α} (h : (readKeyed read room t).result = .ok entries) :
    t.outline = .object (t.entries.map (Prod.map id Tree.outline)) := by
  obtain ⟨pairs, hPairs, -⟩ := Reading.map_result_eq_ok.mp h
  exact Tree.outline_of_readObject hPairs

/-- Where all members count, what counts in each decides all entries. -/
theorem Decides.keyed {p q : Part} {read : Tree → Reading α} {R : α → α → Prop} {room : Nat}
    (hKeep : ∀ ms, p.keep (.object ms) = .object (ms.map (Prod.map id q.keep)))
    (h : q.Decides read R) :
    p.Decides (readKeyed read room) (List.Forall₂ fun x y => x.1 = y.1 ∧ R x.2 y.2) := by
  have hAll : ∀ k entries, p.ReadAs (readKeyed read room) k entries → ∃ ms, k = .object ms ∧
      List.Forall₂ (fun x y => x.1 = y.1 ∧ q.ReadAs read x.2 y.2) (Keyed.ofEntries ms) entries := by
    rintro _ entries ⟨t, rfl, hRead⟩
    rw [outline_of_readKeyed hRead, hKeep]
    obtain ⟨pairs, hPairs, rfl⟩ := Reading.map_result_eq_ok.mp hRead
    refine ⟨_, rfl, ?_⟩
    apply Keyed.forall₂_ofEntries (R := q.ReadAs read)
    rw [List.map_map, List.forall₂_map_left_iff]
    refine (Tree.forall₂_of_readObject hPairs).imp ?_
    rintro ⟨name, value⟩ y hEntry
    obtain ⟨a, ha, rfl⟩ := Reading.map_result_eq_ok.mp hEntry
    exact ⟨rfl, value, rfl, ha⟩
  intro k entries entries' hEntries hEntries'
  obtain ⟨ms, rfl, hRead⟩ := hAll k entries hEntries
  obtain ⟨_, hEq, hRead'⟩ := hAll _ entries' hEntries'
  cases hEq
  refine forall₂_of_common ?_ hRead hRead'
  rintro x y y' ⟨hName, hy⟩ ⟨hName', hy'⟩
  exact ⟨hName.symm.trans hName', h _ _ _ hy hy'⟩

/-- What is found under a key is read of what counts in the last member of that name. -/
theorem rel_last?_of_readKeyed {p q : Part} {read : Tree → Reading α} {room : Nat} {t : Tree}
    {entries : Keyed String α} {own : List String} {key : String}
    (hMember : p.member? own key = some q) (h : (readKeyed read room t).result = .ok entries) :
    Option.Rel (q.ReadAs read)
      (Keyed.last? (p.keepMembers own (t.entries.map (Prod.map id Tree.outline))) key)
      (entries.get? key) := by
  have hRel := rel_of_readKeyed h key
  rw [last?_keepMembers hMember, Keyed.last?_map, Option.map_map]
  generalize Keyed.last? t.entries key = t? at hRel
  generalize entries.get? key = a? at hRel ⊢
  cases hRel with
  | none => exact Option.Rel.none
  | some hRead => exact Option.Rel.some ⟨_, rfl, hRead⟩

/-! ### Schemas -/

theorem decides_keyword (room : Nat) : whole.Decides (Schema.readKeyword room) Eq := by
  rintro k a a' ⟨t, rfl, ha⟩ ⟨t', hKeep, ha'⟩
  rw [keep_whole, keep_whole] at hKeep
  rw [Schema.keyword_of_readKeyword ha, Schema.keyword_of_readKeyword ha', hKeep]

theorem decides_required (own : List String) (room : Nat) :
    (required own).Decides (Schema.readRequired room)
      fun names names' => ∀ name ∈ own, names.contains name = names'.contains name := by
  have hNames : ∀ t names, (Schema.readRequired room t).result = .ok names →
      ∀ name ∈ own, names.contains name = ((required own).keep t.outline).texts.contains name := by
    intro t names h name hOwn
    rw [keep_required, Outline.texts_keepTexts, ← Schema.required_of_readRequired h]
    simp [hOwn]
  rintro k names names' ⟨t, rfl, h⟩ ⟨t', hKeep, h'⟩ name hOwn
  rw [hNames t names h name hOwn, hNames t' names' h' name hOwn, hKeep]

end Part

/-- Two schemas that say the same, but for required names that no property has. -/
structure Schema.Like (s s' : Schema) : Prop where
  reference : s.reference = s'.reference
  keyword : s.keyword = s'.keyword
  items : Option.Rel Alike s.items s'.items
  properties : Option.Rel (List.Forall₂ fun x y => x.1 = y.1 ∧ Alike x.2 y.2)
    s.properties s'.properties
  required : ∀ p ∈ s.properties.getD [], s.required.contains p.1 = s'.required.contains p.1

theorem Schema.Like.alike {s s' : Schema} (h : s.Like s') : s.Alike s' := by
  rcases s with ⟨reference, keyword, items, properties, required⟩
  rcases s' with ⟨_, _, items', properties', required'⟩
  obtain ⟨rfl, rfl, hItems, hProperties, hRequired⟩ := h
  cases reference with
  | some r => exact .reference
  | none =>
      cases hProperties with
      | none => exact .bare (itemsAlike_iff.mpr hItems)
      | some hAll =>
          exact .object (itemsAlike_iff.mpr hItems) (propertiesAlike_iff.mpr hAll) hRequired

theorem Schema.Like.sameAnswer {s s' : Schema} (h : s.Like s') : s.SameAnswer s' := by
  apply h.alike.sameAnswer
  · rw [kind, kind, h.keyword]
  · exact h.properties

theorem Schema.Like.sameShared {s s' : Schema} (h : s.Like s') : s.SameShared s' := by
  apply h.alike.sameShared
  rw [isInterface, isInterface, kind, kind, h.keyword, rel_isSome h.properties]

namespace Part

/-- The names of all properties that are read of a schema are left in its outline. -/
theorem propertyNames_of_readAs {room : Nat} {readItems readProperty : Tree → Reading Schema}
    {k : Outline} {s : Schema}
    (h : schema.ReadAs (Schema.record room readItems readProperty).readInside k s) :
    ∀ e ∈ s.properties.getD [], e.1 ∈ k.propertyNames := by
  obtain ⟨t, rfl, hRead⟩ := h
  have hLaid := Schema.laid room readItems readProperty
  obtain ⟨p, hp, hRel⟩ := (hLaid.slot (List.mem_of_getElem? (i := 3) rfl)).of_readInside hRead
  cases hp
  rw [propertyNames_keep, Outline.propertyNames, Tree.field?_outline]
  change Option.Rel _ (t.field? ["$ref", "type", "items", "properties", "required"] "properties")
    p.properties at hRel
  dsimp only
  generalize t.field? ["$ref", "type", "items", "properties", "required"] "properties" = t? at hRel
  generalize p.properties = p? at hRel ⊢
  intro e he
  cases hRel with
  | none => exact absurd he List.not_mem_nil
  | @some value a? hRead =>
      have hNonNull := Tree.rel_of_readOptional hRead
      generalize hValue : value.nonNull? = value? at hNonNull
      cases hNonNull with
      | none => exact absurd he List.not_mem_nil
      | @some value' entries hEntries =>
          cases Tree.eq_of_nonNull? hValue
          have hKeys : (Keyed.lastAtFirst value.entries).map (·.1) = entries.map (·.1) :=
            map_eq_map_of_forall₂ ((forall₂_of_readKeyed hEntries).imp fun _ _ hEntry => hEntry.1)
          have hKey : e.1 ∈ (Keyed.lastAtFirst value.entries).map (·.1) := by
            rw [hKeys]
            exact List.mem_map_of_mem he
          rw [Keyed.lastAtFirst_keys, List.mem_eraseDups] at hKey
          rw [Option.map_some]
          dsimp only
          rw [outline_of_readKeyed hEntries, Outline.names, List.map_map]
          exact hKey

/-- A schema is decided by what counts in its members, if the schemas inside are. -/
theorem decides_schemaRecord {room : Nat} {readItems readProperty : Tree → Reading Schema}
    (hItems : schema.Decides readItems Schema.Alike)
    (hProperty : schema.Decides readProperty Schema.Alike) :
    schema.Decides (Schema.record room readItems readProperty).readInside Schema.Like := by
  intro k s s' ha ha'
  have hLaid := Schema.laid room readItems readProperty
  constructor
  case reference =>
    obtain ⟨p, p', hp, hp', hRel⟩ := decides_text.optional.slot hLaid
      (List.mem_of_getElem? (i := 0) rfl) (fun _ => rfl) (fun _ _ => rfl) ha ha'
    cases hp
    cases hp'
    exact eq_of_rel (rel_join hRel)
  case keyword =>
    obtain ⟨p, p', hp, hp', hRel⟩ := (decides_keyword room).optional.slot hLaid
      (List.mem_of_getElem? (i := 1) rfl) (fun _ => rfl) (fun _ _ => rfl) ha ha'
    cases hp
    cases hp'
    exact eq_of_rel (rel_join hRel)
  case items =>
    obtain ⟨p, p', hp, hp', hRel⟩ := hItems.optional.slot hLaid
      (List.mem_of_getElem? (i := 2) rfl) (fun _ => rfl) (fun _ _ => rfl) ha ha'
    cases hp
    cases hp'
    exact rel_join hRel
  case properties =>
    obtain ⟨p, p', hp, hp', hRel⟩ := (hProperty.keyed keep_schemas).optional.slot hLaid
      (List.mem_of_getElem? (i := 3) rfl) (fun _ => rfl) (fun _ _ => rfl) ha ha'
    cases hp
    cases hp'
    exact rel_join hRel
  case required =>
    -- which names count here depends on the properties, and these are the same in both
    have hPart : ∀ o, schema.keep o = k →
        Keyed.get? (schema.fields o.propertyNames) "required" =
          some (required k.propertyNames) := by
      intro o ho
      rw [← ho, propertyNames_keep]
      rfl
    obtain ⟨p, p', hp, hp', hRel⟩ := (decides_required k.propertyNames room).slot hLaid
      (List.mem_of_getElem? (i := 4) rfl) (fun _ => rfl) hPart ha ha'
    have hNames := propertyNames_of_readAs ha
    cases hp
    cases hp'
    intro e he
    exact rel_getD hRel (fun _ _ => rfl) e.1 (hNames e he)

theorem decides_schema (room : Nat) : schema.Decides (Schema.read room) Schema.Like := by
  induction room using Nat.strongRecOn with
  | ind room ih =>
      cases room with
      | zero =>
          rintro k s s' ⟨t, -, h⟩ -
          exact absurd h (by simp [Schema.read, Schema.refuse])
      | succ room =>
          have hItems : schema.Decides (Schema.read room) Schema.Alike := by
            intro k s s' hs hs'
            exact (ih room (Nat.lt_succ_self room) k s s' hs hs').alike
          have hProperty : schema.Decides (Schema.readProperty room) Schema.Alike := by
            cases room with
            | zero =>
                rintro k s s' ⟨t, -, h⟩ -
                exact absurd h (by simp [Schema.readProperty, Schema.refuse])
            | succ room =>
                intro k s s' hs hs'
                exact (ih room (by omega) k s s' hs hs').alike
          have hRead : Schema.read (room + 1) =
              (Schema.record room (Schema.read room) (Schema.readProperty room)).readInside :=
            funext (Schema.read_succ room)
          rw [hRead]
          exact decides_schemaRecord hItems hProperty

/-! ### Media types, bodies and operations -/

theorem decides_mediaType (room : Nat) :
    mediaType.Decides (MediaType.read room)
      fun m m' => Option.Rel Schema.Like m.schema m'.schema := by
  refine Decides.readRecord fun left _ k m m' ha ha' => ?_
  obtain ⟨s, s', hs, hs', hRel⟩ := (decides_schema left).optional.slot (MediaType.laid left)
    (List.mem_of_getElem? (i := 0) rfl) (fun _ => rfl) (fun _ _ => rfl) ha ha'
  cases hs
  cases hs'
  exact rel_join hRel

theorem decides_content {read : Tree → Reading MediaType} {R : MediaType → MediaType → Prop}
    (h : mediaType.Decides read R) (room : Nat) :
    content.Decides (readKeyed read room) fun c c' =>
      Option.Rel R (c.get? jsonMediaType) (c'.get? jsonMediaType) := by
  have hRel : ∀ k c, content.ReadAs (readKeyed read room) k c → ∃ ms, k = .object ms ∧
      Option.Rel (mediaType.ReadAs read) (Keyed.last? ms jsonMediaType)
        (c.get? jsonMediaType) := by
    rintro _ c ⟨t, rfl, hRead⟩
    rw [outline_of_readKeyed hRead]
    exact ⟨_, rfl, rel_last?_of_readKeyed (member?_content _) hRead⟩
  intro k c c' hc hc'
  obtain ⟨ms, rfl, hRead⟩ := hRel k c hc
  obtain ⟨_, hEq, hRead'⟩ := hRel _ c' hc'
  cases hEq
  exact rel_of_common h hRead hRead'

theorem decides_body (name : String) (room : Nat) :
    body.Decides (Tree.readRecord (Body.record name) room) fun b b' =>
      Option.Rel Schema.Like b.jsonSchema? b'.jsonSchema? := by
  refine Decides.readRecord fun left _ k b b' ha ha' => ?_
  obtain ⟨s, s', hs, hs', hRel⟩ := (decides_content (decides_mediaType (left - 1)) left).slot
    (Body.laid name left) (List.mem_of_getElem? (i := 0) rfl) (fun _ => rfl) (fun _ _ => rfl) ha ha'
  cases hs
  cases hs'
  have hMedia : Option.Rel (fun m m' => Option.Rel Schema.Like m.schema m'.schema)
      ((s.getD []).get? jsonMediaType) ((s'.getD []).get? jsonMediaType) :=
    rel_getD hRel Option.Rel.none
  exact rel_bind hMedia fun _ _ hSchema => hSchema

theorem decides_responses {read : Tree → Reading Body} {R : Body → Body → Prop}
    (h : body.Decides read R) (room : Nat) :
    responses.Decides (readKeyed read room) fun c c' =>
      Option.Rel R ((c.get? "200").or (c.get? "201")) ((c'.get? "200").or (c'.get? "201")) := by
  have hRel : ∀ k c, responses.ReadAs (readKeyed read room) k c →
      ∃ ms, k = .object (responses.select ms) ∧ Option.Rel (body.ReadAs read)
        ((Keyed.last? ms "200").or (Keyed.last? ms "201")) ((c.get? "200").or (c.get? "201")) := by
    rintro _ c ⟨t, rfl, hRead⟩
    rw [outline_of_readKeyed hRead]
    refine ⟨_, rfl, rel_or ?_ ?_⟩
    · exact rel_last?_of_readKeyed (p := responses) (q := body) rfl hRead
    · exact rel_last?_of_readKeyed (p := responses) (q := body) rfl hRead
  intro k c c' hc hc'
  obtain ⟨ms, rfl, hRead⟩ := hRel k c hc
  obtain ⟨ms', hEq, hRead'⟩ := hRel _ c' hc'
  have hSelect := Outline.object.inj hEq
  rw [last?_of_select hSelect] at hRead
  exact rel_of_common h hRead hRead'

end Part

/-- Two operations with the same summary that send and answer JSON of schemas that say the same. -/
structure Operation.Like (op op' : Operation) : Prop where
  summary : op.summary = op'.summary
  request : Option.Rel Schema.Like op.requestSchema? op'.requestSchema?
  response : Option.Rel Schema.Like op.responseSchema? op'.responseSchema?

/-- The same methods in the same order, with operations that send and answer the same. -/
def PathItem.Like (item item' : PathItem) : Prop :=
  List.Forall₂ (fun x y => x.1 = y.1 ∧ Operation.Like x.2 y.2) item item'

theorem Document.routes_match {d d' : Document}
    (h : List.Forall₂ (fun x y => x.1 = y.1 ∧ PathItem.Like x.2 y.2) d.paths d'.paths) :
    List.Forall₂ (Route.Matches Schema.Like Schema.Like) d.routes d'.routes := by
  refine List.rel_flatMap h ?_
  rintro ⟨path, item⟩ ⟨_, item'⟩ ⟨rfl, hItem⟩
  rw [List.forall₂_map_left_iff, List.forall₂_map_right_iff]
  refine List.Forall₂.imp ?_ hItem
  rintro ⟨method, op⟩ ⟨_, op'⟩ ⟨rfl, hOp⟩
  exact ⟨rfl, rfl, hOp.summary, hOp.request, hOp.response⟩

namespace Part

theorem decides_operation (room : Nat) :
    operation.Decides (Operation.read room) Operation.Like := by
  refine Decides.readRecord fun left _ k op op' ha ha' => ?_
  have hLaid := Operation.laid left
  constructor
  case summary =>
    obtain ⟨s, s', hs, hs', hRel⟩ := decides_text.optional.slot hLaid
      (List.mem_of_getElem? (i := 0) rfl) (fun _ => rfl) (fun _ _ => rfl) ha ha'
    cases hs
    cases hs'
    exact eq_of_rel (rel_join hRel)
  case request =>
    obtain ⟨s, s', hs, hs', hRel⟩ := (decides_body "RequestBody" left).optional.slot hLaid
      (List.mem_of_getElem? (i := 1) rfl) (fun _ => rfl) (fun _ _ => rfl) ha ha'
    cases hs
    cases hs'
    exact rel_bind (rel_join hRel) fun _ _ hBody => hBody
  case response =>
    obtain ⟨s, s', hs, hs', hRel⟩ :=
      (decides_responses (decides_body "Response" (left - 1)) left).slot hLaid
        (List.mem_of_getElem? (i := 2) rfl) (fun _ => rfl) (fun _ _ => rfl) ha ha'
    cases hs
    cases hs'
    have hSuccess : Option.Rel
        (fun b b' : Body => Option.Rel Schema.Like b.jsonSchema? b'.jsonSchema?)
        (((s.responses.getD []).get? "200").or ((s.responses.getD []).get? "201"))
        (((s'.responses.getD []).get? "200").or ((s'.responses.getD []).get? "201")) :=
      rel_getD hRel Option.Rel.none
    exact rel_bind hSuccess fun _ _ hBody => hBody

/-! ### Paths and the whole -/

theorem decides_pathItem (room : Nat) :
    pathItem.Decides (PathItem.read room) PathItem.Like := by
  have hAll : ∀ k item, pathItem.ReadAs (PathItem.read room) k item → ∃ ms, k = .object ms ∧
      List.Forall₂ (fun x y => Method.ofKey? x.1 = some y.1 ∧
        operation.ReadAs (Operation.read (room - 1)) x.2 y.2) ms item := by
    rintro _ item ⟨t, rfl, hRead⟩
    obtain ⟨entries, hEntries, rfl⟩ := Reading.map_result_eq_ok.mp hRead
    rw [Tree.outline_of_readObject hEntries]
    refine ⟨_, rfl, ?_⟩
    change List.Forall₂ _ (pathItem.keepMembers _ _) _
    rw [keepMembers_eq_filterMap, List.filterMap_map]
    refine List.rel_filterMap ?_ (Tree.forall₂_of_readObject hEntries)
    rintro ⟨key, value⟩ entry hEntry
    dsimp only [PathItem.readMember, Function.comp_apply, Prod.map, id, member?] at hEntry ⊢
    cases hKey : Method.ofKey? key with
    | none =>
        rw [hKey] at hEntry
        obtain ⟨_, _, hEntry⟩ := Reading.bind_result_eq_ok.mp hEntry
        obtain ⟨_, _, rfl⟩ := Reading.map_result_eq_ok.mp hEntry
        exact Option.Rel.none
    | some method =>
        rw [hKey] at hEntry
        obtain ⟨op, hOp, rfl⟩ := Reading.map_result_eq_ok.mp hEntry
        exact Option.Rel.some ⟨hKey, value, rfl, hOp⟩
  intro k item item' hItem hItem'
  obtain ⟨ms, rfl, hRead⟩ := hAll k item hItem
  obtain ⟨_, hEq, hRead'⟩ := hAll _ item' hItem'
  cases hEq
  refine forall₂_of_common ?_ hRead hRead'
  rintro x y y' ⟨hMethod, hy⟩ ⟨hMethod', hy'⟩
  exact ⟨Option.some.inj (hMethod.symm.trans hMethod'), decides_operation _ _ _ _ hy hy'⟩

theorem decides_info (room : Nat) : info.Decides (Info.read room) Eq := by
  refine Decides.readRecord fun left _ k i i' ha ha' => ?_
  have hTitle : i.title = i'.title := by
    obtain ⟨s, s', hs, hs', hRel⟩ := decides_text.slot (Info.laid left)
      (List.mem_of_getElem? (i := 0) rfl) (fun _ => rfl) (fun _ _ => rfl) ha ha'
    cases hs
    cases hs'
    exact rel_getD hRel rfl
  have hVersion : i.version = i'.version := by
    obtain ⟨s, s', hs, hs', hRel⟩ := decides_text.slot (Info.laid left)
      (List.mem_of_getElem? (i := 1) rfl) (fun _ => rfl) (fun _ _ => rfl) ha ha'
    cases hs
    cases hs'
    exact rel_getD hRel rfl
  rcases i with ⟨title, version⟩
  rcases i' with ⟨title', version'⟩
  cases hTitle
  cases hVersion
  rfl

theorem decides_components (room : Nat) :
    components.Decides (Tree.readRecord Document.componentsRecord room)
      (List.Forall₂ fun x y => x.1 = y.1 ∧ Schema.Like x.2 y.2) := by
  refine Decides.readRecord fun left _ k c c' ha ha' => ?_
  obtain ⟨s, s', hs, hs', hRel⟩ := ((decides_schema (left - 1)).keyed keep_schemas).slot
    (Document.componentsLaid left) (List.mem_of_getElem? (i := 0) rfl) (fun _ => rfl)
    (fun _ _ => rfl) ha ha'
  cases hs
  cases hs'
  exact rel_getD hRel .nil

theorem decides_document (room : Nat) :
    document.Decides (Document.read room)
      (Document.Matches Schema.Like Schema.Like Schema.Like) := by
  refine Decides.readRecord fun left _ k d d' ha ha' => ?_
  have hLaid := Document.laid left
  constructor
  case info =>
    obtain ⟨s, s', hs, hs', hRel⟩ := (decides_info left).slot hLaid
      (List.mem_of_getElem? (i := 0) rfl) (fun _ => rfl) (fun _ _ => rfl) ha ha'
    cases hs
    cases hs'
    exact rel_getD hRel rfl
  case routes =>
    obtain ⟨s, s', hs, hs', hRel⟩ := ((decides_pathItem (left - 1)).keyed keep_paths).slot hLaid
      (List.mem_of_getElem? (i := 1) rfl) (fun _ => rfl) (fun _ _ => rfl) ha ha'
    cases hs
    cases hs'
    exact Document.routes_match (rel_getD hRel .nil)
  case shared =>
    obtain ⟨s, s', hs, hs', hRel⟩ := (decides_components left).optional.slot hLaid
      (List.mem_of_getElem? (i := 2) rfl) (fun _ => rfl) (fun _ _ => rfl) ha ha'
    cases hs
    cases hs'
    exact rel_getD (rel_join hRel) .nil

end Part

/-- Whatever else two texts say, as long as they can be read and the same counts in them, they give
the same client, for as many operations. -/
theorem generate_determined_by_essence {text text' : String} {d d' : Document}
    (h : Document.parse text = .ok d) (h' : Document.parse text' = .ok d')
    (hEssence : Document.essence text = Document.essence text') (o : Options) :
    ∃ g, generate text o = .ok g ∧ generate text' o = .ok g := by
  obtain ⟨hRead, -⟩ := readString_result_eq_ok.mp (Document.parse_eq_ok.mp h)
  obtain ⟨hRead', -⟩ := readString_result_eq_ok.mp (Document.parse_eq_ok.mp h')
  have hMatches := Part.decides_document fullRoom _ d d' ⟨_, rfl, hRead⟩ ⟨_, hEssence.symm, hRead'⟩
  have hSame : d.generate o = d'.generate o := by
    apply Document.generate_eq
    apply hMatches.imp
    · intro s s' hLike
      exact hLike.alike.members_eq
    · intro s s' hLike
      exact hLike.sameAnswer
    · intro s s' hLike
      exact hLike.sameShared
  refine ⟨d.generate o, ?_, ?_⟩
  · rw [generate, h]
  · rw [generate, h', hSame]

/-- A description that says no more than counts. -/
def plainStock : Value :=
  .object [
    ("info", .object [("title", .text "Stock")]),
    ("paths", .object [("/items", .object [("GET", .object [
      ("responses", .object [("200", .object [("content", .object [(jsonMediaType, .object [
        ("schema", .object [("type", .text "object"),
          ("properties", .object [("id", .object [])]),
          ("required", .list [.text "id"])])])])])])])])])]

/-- The same among all that may be said besides. -/
def crowdedStock : Value :=
  .object [
    ("openapi", .text "3.1.0"),
    ("info", .object [("license", .null), ("title", .text "Stock")]),
    ("paths", .object [("/items", .object [("summary", .flag true), ("GET", .object [
      ("tags", .list []),
      ("responses", .object [("404", .object []), ("201", .object []),
        ("200", .object [("content", .object [("text/plain", .object []),
          (jsonMediaType, .object [("example", .null),
            ("schema", .object [("type", .text "object"),
              ("properties", .object [("id", .object [("format", .text "uuid")])]),
              ("required", .list [.null, .text "gone", .text "id"])])])])])])])])])]

/-- What is said besides in the two descriptions does not spoil their shape. -/
theorem stock_shape : ∀ v ∈ [plainStock, crowdedStock], Document.shape Schema.Fits v := by
  have hId : Schema.Fits (.object []) := by
    rw [Schema.fits_iff]
    simp [Shape.record, Shape.members]
  have hUuid : Schema.Fits (.object [("format", .text "uuid")]) := by
    rw [Schema.fits_iff]
    simp [Schema.shapes, Shape.record, Shape.members]
  have hItem : ∀ id names, Schema.Fits id → Schema.Fits (.object [("type", .text "object"),
      ("properties", .object [("id", id)]), ("required", .list names)]) := by
    intro id names h
    rw [Schema.fits_iff]
    simp [Schema.shapes, Shape.record, Shape.members, Shape.mapOf, Shape.orNull, Shape.any, h]
  have hGet : (Method.ofKey? "GET").isSome = true := by decide
  have hSummary : (Method.ofKey? "summary").isSome = false := by decide
  simp [plainStock, crowdedStock, Document.shape, Info.shapes, PathItem.shape, hGet, hSummary,
    Operation.shapes, Body.shapes, MediaType.shapes, hItem, hId, hUuid, jsonMediaType,
    Shape.record, Shape.members, Shape.mapOf, Shape.orNull, Shape.text, Shape.any, -Prod.forall]

theorem stock_determined_by_essence :
    ∃ d d', Document.parse (plainStock.render .compact) = .ok d ∧
      Document.parse (crowdedStock.render .compact) = .ok d' ∧
      Document.essence (plainStock.render .compact) =
        Document.essence (crowdedStock.render .compact) ∧
      ∃ g, generate (plainStock.render .compact) .standard = .ok g ∧
        generate (crowdedStock.render .compact) .standard = .ok g := by
  have hFree : ∀ v ∈ [plainStock, crowdedStock], v.NumberFree := by
    simp [plainStock, crowdedStock, Value.NumberFree, Value.NumberFreeMembers,
      Value.NumberFreeItems]
  have hDepth : ∀ v ∈ [plainStock, crowdedStock], v.depth ≤ fullRoom := by decide
  have hParse : ∀ v ∈ [plainStock, crowdedStock],
      ∃ d, Document.parse (v.render .compact) = .ok d := by
    intro v hv
    have hSays := says_render Layout.compact_blank (hFree v hv) (hDepth v hv)
    exact (Document.parse_succeeds_iff hSays).mpr (stock_shape v hv)
  have hPlain : plainStock ∈ [plainStock, crowdedStock] := List.mem_cons_self ..
  have hCrowded : crowdedStock ∈ [plainStock, crowdedStock] :=
    List.mem_cons_of_mem _ (List.mem_cons_self ..)
  have hEssence : Document.essence (plainStock.render .compact) =
      Document.essence (crowdedStock.render .compact) := by
    rw [Document.essence, Document.essence,
      Outline.ofString_render Layout.compact_blank (hFree _ hPlain),
      Outline.ofString_render Layout.compact_blank (hFree _ hCrowded)]
    rfl
  obtain ⟨d, hd⟩ := hParse plainStock hPlain
  obtain ⟨d', hd'⟩ := hParse crowdedStock hCrowded
  exact ⟨d, d', hd, hd', hEssence, generate_determined_by_essence hd hd' hEssence .standard⟩

end TypedClient
