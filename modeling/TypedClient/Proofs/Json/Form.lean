import Mathlib.Logic.Relation
import TypedClient.Proofs.Json.Telling

/-!
Values of which only a part has to be written. A form says how each part is written and what it is
where it is not given, so that what is written is laid over what is standard. Main statement: what
results does not change if names are written in another order, if names are added that the form does
not know, or if something is left out that is as it is standard, however deep inside.
-/

namespace TypedClient.Json

/-- How a value is written, and what it is where it is not given. -/
inductive Form where
  /-- A value as a whole: what is meant by what is written, if it means anything. -/
  | leaf (meant? : Outline → Option Value) (standard : Value)
  /-- A value member by member. -/
  | record (members : List (String × Form))

namespace Form

mutual

/-- The value if nothing is given. -/
def standard : Form → Value
  | .leaf _ v => v
  | .record fs => .object (standards fs)

/-- The members if none is given. -/
def standards : List (String × Form) → List (String × Value)
  | [] => []
  | (name, f) :: fs => (name, f.standard) :: standards fs

end

mutual

/-- What is written, laid over what is standard; nothing if it is not of the form. An object may
have any members that are not known, and of those that are known any, in any order, but each just
once. -/
def over? : Form → Outline → Option Value
  | .leaf meant? _, o => meant? o
  | .record fs, .object ms =>
    if Keyed.Once (fs.map (·.1)) ms then (membersOver? fs ms).map .object else none
  | .record _, _ => none

/-- The members of an object, laid over the standard ones. -/
def membersOver? : List (String × Form) → List (String × Outline) → Option (List (String × Value))
  | [], _ => some []
  | (name, f) :: fs, ms =>
    (match Keyed.get? ms name with
      | none => some f.standard
      | some o => f.over? o).bind fun v => (membersOver? fs ms).map ((name, v) :: ·)

end

/-- A change to what is written: members change their places, one that is not known is added, one
that is as it is standard is left out, or one is changed inside. -/
inductive Edits : Form → Outline → Outline → Prop
  | permute {fs : List (String × Form)} {ms ms' : List (String × Outline)} (hPerm : ms.Perm ms') :
      Edits (.record fs) (.object ms) (.object ms')
  | add {fs : List (String × Form)} {ms : List (String × Outline)} {name : String}
      (hName : name ∉ fs.map (·.1)) (o : Outline) :
      Edits (.record fs) (.object ms) (.object ((name, o) :: ms))
  | leaveOut {fs : List (String × Form)} {ms : List (String × Outline)} {name : String} {f : Form}
      (hName : (name, f) ∈ fs) :
      Edits (.record fs) (.object ((name, f.standard.outline) :: ms)) (.object ms)
  | inside {fs : List (String × Form)} {ms : List (String × Outline)} {name : String} {f : Form}
      {o o' : Outline} (hName : (name, f) ∈ fs) (hInside : Edits f o o') :
      Edits (.record fs) (.object ((name, o) :: ms)) (.object ((name, o') :: ms))

/-- What is standard can be written as it is, and members have names of their own. -/
inductive Coherent : Form → Prop
  | leaf {meant? : Outline → Option Value} {v : Value} (hMeant : meant? v.outline = some v) :
      Coherent (.leaf meant? v)
  | record {fs : List (String × Form)} (hNodup : (fs.map (·.1)).Nodup)
      (hMembers : ∀ e ∈ fs, Coherent e.2) : Coherent (.record fs)

/-! ### Members -/

/-- What a member is, given or not. -/
def given? (f : Form) : Option Outline → Option Value
  | none => some f.standard
  | some o => f.over? o

variable {f : Form} {fs : List (String × Form)} {ms ms' : List (String × Outline)} {o o' : Outline}
  {v : Value}

theorem membersOver?_cons (name : String) (f : Form) (fs : List (String × Form))
    (ms : List (String × Outline)) : membersOver? ((name, f) :: fs) ms =
      (f.given? (Keyed.get? ms name)).bind fun v => (membersOver? fs ms).map ((name, v) :: ·) := by
  rw [membersOver?]
  cases Keyed.get? ms name <;> rfl

theorem over?_record_eq_some : (record fs).over? (.object ms) = some v ↔
    Keyed.Once (fs.map (·.1)) ms ∧ ∃ vs, membersOver? fs ms = some vs ∧ v = .object vs := by
  rw [over?, Option.ite_none_right_eq_some, Option.map_eq_some_iff]
  simp only [@eq_comm _ v]

/-- Members that are the same, given or not, come out the same. -/
theorem membersOver?_congr
    (h : ∀ e ∈ fs, e.2.given? (Keyed.get? ms e.1) = e.2.given? (Keyed.get? ms' e.1)) :
    membersOver? fs ms = membersOver? fs ms' := by
  induction fs with
  | nil => rfl
  | cons e fs ih =>
      rcases e with ⟨name, f⟩
      rw [membersOver?_cons, membersOver?_cons, h _ (List.mem_cons_self ..),
        ih fun e he => h e (List.mem_cons_of_mem _ he)]

/-- If it is known what each member is, then so it is what they are together. -/
theorem membersOver?_map_eq_some {ι : Type*} {is : List ι} {name : ι → String} {form : ι → Form}
    {w : ι → Value} (h : ∀ i ∈ is, (form i).given? (Keyed.get? ms (name i)) = some (w i)) :
    membersOver? (is.map fun i => (name i, form i)) ms = some (is.map fun i => (name i, w i)) := by
  induction is with
  | nil => rfl
  | cons i is ih =>
      rw [List.map_cons, membersOver?_cons, h _ (List.mem_cons_self ..),
        ih fun j hj => h j (List.mem_cons_of_mem _ hj)]
      rfl

theorem exists_given_of_membersOver? {vs : List (String × Value)}
    (h : membersOver? fs ms = some vs) {e : String × Form} (he : e ∈ fs) :
    ∃ w, e.2.given? (Keyed.get? ms e.1) = some w ∧ (e.1, w) ∈ vs := by
  induction fs generalizing vs with
  | nil => exact absurd he List.not_mem_nil
  | cons d fs ih =>
      rcases d with ⟨name, f⟩
      rw [membersOver?_cons, Option.bind_eq_some_iff] at h
      obtain ⟨w, hw, hRest⟩ := h
      obtain ⟨ws, hws, rfl⟩ := Option.map_eq_some_iff.mp hRest
      rcases List.mem_cons.mp he with rfl | he
      · exact ⟨w, hw, List.mem_cons_self ..⟩
      · obtain ⟨w', hw', hMem⟩ := ih hws he
        exact ⟨w', hw', List.mem_cons_of_mem _ hMem⟩

/-! ### What is standard -/

theorem standards_eq_map (fs : List (String × Form)) :
    standards fs = fs.map fun e => (e.1, e.2.standard) := by
  induction fs with
  | nil => rfl
  | cons e fs ih =>
      rcases e with ⟨name, f⟩
      rw [standards, ih, List.map_cons]

theorem names_memberOutlines (vs : List (String × Value)) :
    (Value.memberOutlines vs).map (·.1) = vs.map (·.1) := by
  induction vs with
  | nil => rfl
  | cons e vs ih =>
      rcases e with ⟨name, v⟩
      rw [Value.memberOutlines, List.map_cons, List.map_cons, ih]

theorem get?_standards (hNodup : (fs.map (·.1)).Nodup) {e : String × Form} (he : e ∈ fs) :
    Keyed.get? (Value.memberOutlines (standards fs)) e.1 = some e.2.standard.outline := by
  induction fs with
  | nil => exact absurd he List.not_mem_nil
  | cons d fs ih =>
      rcases d with ⟨name, f⟩
      rw [List.map_cons, List.nodup_cons] at hNodup
      rw [standards, Value.memberOutlines, Keyed.get?]
      rcases List.mem_cons.mp he with rfl | he
      · rw [if_pos rfl]
      · rw [if_neg, ih hNodup.2 he]
        intro hSame
        exact hNodup.1 (List.mem_map.mpr ⟨e, he, hSame.symm⟩)

/-- To write what is standard changes nothing. -/
theorem over?_standard (h : f.Coherent) : f.over? f.standard.outline = some f.standard := by
  induction h with
  | leaf hMeant => exact hMeant
  | @record fs hNodup _ ih =>
      have hMembers :
          membersOver? fs (Value.memberOutlines (standards fs)) = some (standards fs) := by
        have hEach : membersOver? (fs.map fun e => (e.1, e.2))
            (Value.memberOutlines (standards fs)) = some (fs.map fun e => (e.1, e.2.standard)) :=
          membersOver?_map_eq_some fun e he => by
            rw [get?_standards hNodup he]
            exact ih e he
        rwa [← standards_eq_map, List.map_id'] at hEach
      rw [standard, Value.outline, over?_record_eq_some]
      refine ⟨?_, standards fs, hMembers, rfl⟩
      rw [Keyed.Once, names_memberOutlines, standards_eq_map, List.map_map]
      exact hNodup.filter _

/-! ### Changes -/

theorem Coherent.of_mem (h : (Form.record fs).Coherent) {e : String × Form} (he : e ∈ fs) :
    e.2.Coherent := by
  cases h with
  | record _ hMembers => exact hMembers e he

theorem Coherent.eq_of_mem (h : (Form.record fs).Coherent) {e e' : String × Form} (he : e ∈ fs)
    (he' : e' ∈ fs) (hName : e.1 = e'.1) : e = e' := by
  cases h with
  | record hNodup _ => exact List.inj_on_of_nodup_map hNodup he he' hName

/-- Other members are read as the same record if each member is the same. -/
theorem over?_record_congr (hv : (record fs).over? (.object ms) = some v)
    (hOnce : Keyed.Once (fs.map (·.1)) ms')
    (hSame : ∀ e ∈ fs, e.2.given? (Keyed.get? ms e.1) = e.2.given? (Keyed.get? ms' e.1)) :
    (record fs).over? (.object ms') = some v := by
  rw [over?_record_eq_some] at hv ⊢
  exact ⟨hOnce, membersOver?_congr hSame ▸ hv.2⟩

/-- A change to what is written changes nothing. -/
theorem Edits.over?_eq (h : f.Edits o o') (hf : f.Coherent) (hv : f.over? o = some v) :
    f.over? o' = some v := by
  induction h generalizing v with
  | @permute fs ms ms' hPerm =>
      have hOnce := (over?_record_eq_some.mp hv).1
      refine over?_record_congr hv (hOnce.perm hPerm) fun e he => ?_
      rw [hOnce.get?_perm hPerm (List.mem_map_of_mem he)]
  | @add fs ms name hName o =>
      have hOnce := (over?_record_eq_some.mp hv).1
      refine over?_record_congr hv ((Keyed.once_cons_unknown hName).mpr hOnce) fun e he => ?_
      rw [Keyed.get?, if_neg]
      rintro rfl
      exact hName (List.mem_map_of_mem he)
  | @leaveOut fs ms name f hName =>
      obtain ⟨hOther, hOnce⟩ :=
        (Keyed.once_cons_known (List.mem_map_of_mem hName)).mp (over?_record_eq_some.mp hv).1
      refine over?_record_congr hv hOnce fun e he => ?_
      rw [Keyed.get?]
      split
      · next hSame =>
          rw [hf.eq_of_mem he hName hSame.symm, Keyed.get?_eq_none_iff.mpr hOther]
          exact over?_standard (hf.of_mem hName)
      · rfl
  | @inside fs ms name f o o' hName _ ih =>
      obtain ⟨hOnce, vs, hvs, -⟩ := over?_record_eq_some.mp hv
      obtain ⟨w, hw, -⟩ := exists_given_of_membersOver? hvs hName
      rw [Keyed.get?, if_pos rfl] at hw
      refine over?_record_congr hv hOnce fun e he => ?_
      rw [Keyed.get?, Keyed.get?]
      split
      · next hSame =>
          rw [hf.eq_of_mem he hName hSame.symm]
          exact hw.trans (ih (hf.of_mem hName) hw).symm
      · rfl

/-- Any number of changes changes nothing. -/
theorem over?_of_edits (h : Relation.ReflTransGen f.Edits o o') (hf : f.Coherent)
    (hv : f.over? o = some v) : f.over? o' = some v := by
  induction h with
  | refl => exact hv
  | tail _ hEdit ih => exact hEdit.over?_eq hf ih

end Form

/-! ### Reading -/

/-- A reader reads just what the form makes of what is told; what it reads is written as a value. -/
def Reads {α : Type} (read : Tree → Reading α) (form : Form) (written : α → Value) : Prop :=
  ∀ t o v, t.Tells o → form.over? o = some v → ∃ a, (read t).result = .ok a ∧ written a = v

/-- A field of a record, and the form in which its member is written. -/
structure FormField (σ : Type) where
  field : Field σ
  form : Form
  /-- What is read, as a value. -/
  written : field.Value → Value

namespace FormField

variable {σ : Type}

/-- The name of the field with its form. -/
def entry (ff : FormField σ) : String × Form :=
  (ff.field.name, ff.form)

/-- What the field comes to. -/
def value (ff : FormField σ) (s : σ) : Value :=
  ((ff.field.slot s).map ff.written).getD ff.form.standard

end FormField

theorem Tree.Tells.eq_object {t : Tree} {ms : List (String × Outline)} (h : t.Tells (.object ms)) :
    ∃ start members, t = .object start members ∧ members.Tell ms := by
  cases h with
  | object hMembers => exact ⟨_, _, rfl, hMembers⟩

theorem Form.eq_object_of_over? {fs : List (String × Form)} {o : Outline} {v : Value}
    (h : (Form.record fs).over? o = some v) : ∃ ms, o = .object ms := by
  cases o with
  | object ms => exact ⟨ms, rfl⟩
  | unreadable | null | flag | number | text | list => cases h

namespace Record

variable {σ α : Type} {r : Record σ α} {ffs : List (FormField σ)}

/-- An object is read to its end if each field is read of what the form makes of it, and all that is
known comes out as the form says. -/
theorem Laid.reads_members (h : r.Laid (ffs.map (·.field)))
    (hRead : ∀ ff ∈ ffs, Reads ff.field.read ff.form ff.written) {members : Members}
    {ms : List (String × Outline)} {v : Value} (hMembers : members.Tell ms)
    (hOver : (Form.record (ffs.map (·.entry))).over? (.object ms) = some v) :
    ∃ s p, (r.readMembers r.empty members).result = .ok (s, p) ∧
      v = .object (ffs.map fun ff => (ff.field.name, ff.value s)) ∧
      ∀ ff ∈ ffs, ff.form.given? (Keyed.get? ms ff.field.name) = some (ff.value s) ∧
        (ff.field.slot s).isSome = (Keyed.get? ms ff.field.name).isSome := by
  obtain ⟨hOnce, vs, hvs, rfl⟩ := Form.over?_record_eq_some.mp hOver
  have hNames : (ffs.map (·.entry)).map (·.1) = (ffs.map (·.field)).map (·.name) := by
    rw [List.map_map, List.map_map]
    rfl
  have hGiven : ∀ ff ∈ ffs, ∃ w, ff.form.given? (Keyed.get? ms ff.field.name) = some w := by
    intro ff hff
    obtain ⟨w, hw, -⟩ := Form.exists_given_of_membersOver? hvs (List.mem_map_of_mem hff)
    exact ⟨w, hw⟩
  rw [hNames] at hOnce
  have hSucceeds : ∀ f ∈ ffs.map (·.field), ∀ t o, t.Tells o → (f.name, o) ∈ ms →
      (f.read t).Succeeds := by
    intro f hf t o ht ho
    obtain ⟨ff, hff, rfl⟩ := List.mem_map.mp hf
    obtain ⟨w, hw⟩ := hGiven ff hff
    rw [hOnce.get?_of_mem (List.mem_map_of_mem hf) ho] at hw
    obtain ⟨a, ha, -⟩ := hRead ff hff t o w ht hw
    exact ⟨a, ha⟩
  obtain ⟨⟨s, p⟩, hs⟩ :=
    h.readMembers_of_tell hMembers r.empty hOnce (h.free_empty _) hSucceeds
  have hSlots : ∀ ff ∈ ffs, Option.Rel (fun t b => (ff.field.read t).result = .ok b)
      (Keyed.get? members.entries ff.field.name) (ff.field.slot s) := by
    intro ff hff
    have hSlot := h.slot (List.mem_map_of_mem hff)
    exact (hSlot.fills_of_readMembers members r.empty hs).rel hSlot.empty
  have hValues : ∀ ff ∈ ffs,
      ff.form.given? (Keyed.get? ms ff.field.name) = some (ff.value s) := by
    intro ff hff
    obtain ⟨w, hw⟩ := hGiven ff hff
    have hTold := hMembers.rel_get? ff.field.name
    have hSlot := hSlots ff hff
    have hRead := hRead ff hff
    rw [hw]
    unfold FormField.value
    generalize Keyed.get? members.entries ff.field.name = t? at hTold hSlot
    generalize Keyed.get? ms ff.field.name = o? at hTold hw
    generalize ff.field.slot s = b? at hSlot
    cases hTold with
    | none =>
        cases hSlot with
        | none => exact hw.symm
    | some ht =>
        cases hSlot with
        | some hb =>
            obtain ⟨a, ha, hWritten⟩ := hRead _ _ _ ht hw
            cases hb.symm.trans ha
            exact congrArg some hWritten.symm
  have hAll : Form.membersOver? (ffs.map (·.entry)) ms =
      some (ffs.map fun ff => (ff.field.name, ff.value s)) :=
    Form.membersOver?_map_eq_some hValues
  refine ⟨s, p, hs, congrArg Value.object ?_, fun ff hff => ⟨hValues ff hff, ?_⟩⟩
  · exact Option.some.inj (hvs.symm.trans hAll)
  · rw [rel_isSome (hSlots ff hff), rel_isSome (hMembers.rel_get? ff.field.name)]

/-- A record of which every part has a form is read in the form of a record. -/
theorem Laid.reads (h : r.Laid (ffs.map (·.field)))
    (hRead : ∀ ff ∈ ffs, Reads ff.field.read ff.form ff.written) {written : α → Value}
    (hFinish : ∀ s, ∃ a, r.finish s = .ok a ∧
      written a = .object (ffs.map fun ff => (ff.field.name, ff.value s))) :
    Reads r.readInside (.record (ffs.map (·.entry))) written := by
  intro t o v ht hOver
  obtain ⟨ms, rfl⟩ := Form.eq_object_of_over? hOver
  obtain ⟨start, members, rfl, hMembers⟩ := ht.eq_object
  obtain ⟨s, p, hs, rfl, -⟩ := h.reads_members hRead hMembers hOver
  obtain ⟨a, ha, hWritten⟩ := hFinish s
  refine ⟨a, ?_, hWritten⟩
  rw [readInside, Reading.bind_result_eq_ok]
  exact ⟨(s, p), hs, finishAt_result_eq_ok.mpr ha⟩

end Record

end TypedClient.Json
