import Mathlib.Data.List.Pairwise
import TypedClient.Proofs.Json.Reading

/-!
Records laid out as fields. A field says where what is read of a member goes; in a record that is
laid out, each member is that of one field, and no field gets in the way of another. So everything
that is said of a record is said of its list of fields.
-/

namespace TypedClient.Json

/-- Where what is read of a member goes, as long as the record is not read to its end. -/
structure Field (σ : Type) where
  name : String
  /-- What is read of the member. -/
  Value : Type
  read : Tree → Reading Value
  slot : σ → Option Value
  put : σ → Value → σ
  /-- Whether the record may be written as a list that ends in front of it. -/
  mayLack : Bool

/-- The member that reads into a field. -/
def Field.member {σ : Type} (f : Field σ) : RecordMember σ where
  name := f.name
  given := fun s => (f.slot s).isSome
  read := fun t s => do return f.put s (← f.read t)
  mayLack := f.mayLack

/-- Putting something into either of two fields leaves the other as it is. -/
def Field.Apart {σ : Type} (f g : Field σ) : Prop :=
  (∀ s b, f.slot (g.put s b) = f.slot s) ∧ ∀ s b, g.slot (f.put s b) = g.slot s

instance {σ : Type} : Std.Symm (@Field.Apart σ) where
  symm _ _ h := ⟨h.2, h.1⟩

namespace Record

variable {σ α : Type} {r : Record σ α} {fields : List (Field σ)} {f : Field σ}

/-- The members of a record are those of some fields: nothing is in a field before something is put
there, and nothing but what was put there. -/
structure Laid (r : Record σ α) (fields : List (Field σ)) : Prop where
  members : r.members = fields.map Field.member
  nodup : (fields.map (·.name)).Nodup
  empty : ∀ f ∈ fields, f.slot r.empty = none
  own : ∀ f ∈ fields, ∀ s b, f.slot (f.put s b) = some b
  apart : fields.Pairwise Field.Apart

theorem Laid.names_eq (h : r.Laid fields) : r.names = fields.map (·.name) := by
  rw [names, h.members, List.map_map]
  rfl

theorem Laid.apart_of_ne (h : r.Laid fields) {g : Field σ} (hf : f ∈ fields) (hg : g ∈ fields)
    (hName : g.name ≠ f.name) : f.Apart g := by
  apply h.apart.forall hf hg
  rintro rfl
  exact hName rfl

/-- A field is a slot of the record. -/
theorem Laid.slot (h : r.Laid fields) (hf : f ∈ fields) : r.Slot f.name f.slot f.read where
  nodup := h.names_eq ▸ h.nodup
  empty := h.empty f hf
  filled := by
    refine ⟨f.member, ?_, rfl, .of_put (fun _ => rfl) rfl (h.own f hf)⟩
    rw [h.members]
    exact List.mem_map_of_mem hf
  keeps := by
    intro m hm hName
    rw [h.members] at hm
    obtain ⟨g, hg, rfl⟩ := List.mem_map.mp hm
    exact keeps_of_put rfl (h.apart_of_ne hf hg hName).1

/-! ### Reading a member -/

/-- Reads a member of an object under its name. -/
def readMember (r : Record σ α) (s : σ) (name : String) (behindName : Position) (value : Tree) :
    Reading σ :=
  match r.members.find? (·.name = name) with
  | none => do
    Reading.of value.skip
    return s
  | some m => if m.given s then Reading.fail ⟨.repeatedMember name, behindName⟩ else m.read value s

theorem readMembers_next (s : σ) (left : Fault) (name : String) (nameSkipped : Except Fault Unit)
    (nameStop behindName : Position) (value : Tree) (rest : Members) :
    r.readMembers s (.next left (.ok name) nameSkipped nameStop behindName value rest) =
      (r.readMember s name behindName value >>= fun s => r.readMembers s rest) := by
  rw [readMembers, readMember, Reading.of_ok_bind]
  cases r.members.find? fun m => m.name = name with
  | none => cases value.skip <;> rfl
  | some m => cases hGiven : m.given s <;> simp only [hGiven] <;> rfl

variable {s : σ} {p : Position} {value : Tree}

/-- A member that is not known is passed over. -/
theorem Laid.readMember_unknown (h : r.Laid fields) {name : String}
    (hName : name ∉ fields.map (·.name)) :
    r.readMember s name p value = (do Reading.of value.skip; return s) := by
  have hFind : r.members.find? (·.name = name) = none := by
    rw [List.find?_eq_none]
    intro m hm hSame
    rw [← h.names_eq] at hName
    exact hName (List.mem_map.mpr ⟨m, hm, of_decide_eq_true hSame⟩)
  rw [readMember, hFind]

theorem Laid.find_member (h : r.Laid fields) (hf : f ∈ fields) :
    r.members.find? (·.name = f.name) = some f.member := by
  rw [h.members, List.find?_map, Option.map_eq_some_iff]
  refine ⟨f, ?_, rfl⟩
  change fields.find? (fun g => decide (g.name = f.name)) = some f
  cases hFind : fields.find? fun g => decide (g.name = f.name) with
  | none => exact absurd (decide_eq_true rfl) (List.find?_eq_none.mp hFind f hf)
  | some g =>
      have hSame : decide (g.name = f.name) = true := by simpa using List.find?_some hFind
      rw [List.inj_on_of_nodup_map h.nodup (List.mem_of_find?_eq_some hFind) hf
        (of_decide_eq_true hSame)]

/-- A field is not filled twice. -/
theorem Laid.readMember_filled (h : r.Laid fields) (hf : f ∈ fields)
    (hFilled : (f.slot s).isSome = true) :
    r.readMember s f.name p value = Reading.fail ⟨.repeatedMember f.name, p⟩ := by
  rw [readMember, h.find_member hf]
  exact if_pos hFilled

/-- A field is filled with what is read of its member. -/
theorem Laid.readMember_empty (h : r.Laid fields) (hf : f ∈ fields) (hEmpty : f.slot s = none) :
    r.readMember s f.name p value = (do return f.put s (← f.read value)) := by
  rw [readMember, h.find_member hf]
  refine if_neg ?_
  change ¬ (f.slot s).isSome = true
  rw [hEmpty]
  exact Bool.false_ne_true

end Record

end TypedClient.Json
