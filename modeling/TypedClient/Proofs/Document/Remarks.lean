import TypedClient.Proofs.Document.Fields
import TypedClient.Proofs.Json.Remarks

/-!
What is remarked upon while a description is read: the names of those members of path items that
are no methods. No other part of a description gives rise to remarks. Main statement: in the order
of the text, just the names in front of what is wrong are remarked upon, and all of them if nothing
is.
-/

namespace TypedClient

open Json

variable {α : Type} {p : Position} {q : Option Position} {t : Tree}

/-- An object of one kind of value is remarked upon value by value. -/
theorem remarks_readKeyed {read : Tree → Reading α} {names : Tree → List PlacedName}
    (h : Remarks read names) (room : Nat) :
    Remarks (readKeyed read room) fun t => t.entries.flatMap fun e => names e.2 := by
  have hMember : MemberRemarks (fun name value => do return (name, ← read value))
      fun _ value => names value := by
    intro p nameStop behindName q name value hPlace hBehind hValue
    exact ((h hValue).map _).mono (hPlace.le.trans hBehind)
  refine ((hMember.object "a map" room).map Keyed.ofEntries).congr fun t => ?_
  rw [Tree.entries_eq_map, List.flatMap_map]

theorem silent_readKeyed {read : Tree → Reading α} (h : Silent read) (room : Nat) :
    Silent (readKeyed read room) :=
  (remarks_readKeyed h room).congr fun _ => List.flatMap_eq_nil_iff.mpr fun _ _ => rfl

/-! ### Parts without remarks -/

namespace Schema

theorem silent_readKeyword (room : Nat) : Silent (readKeyword room) := by
  intro p q t ht
  have hEnds := ht.readValue_ends room
  unfold readKeyword
  split
  · next hValue => exact .ok (by rwa [hValue] at hEnds) _
  · next hValue => exact .ok (by rwa [hValue] at hEnds) _
  · next hValue => exact .fail (by rwa [hValue] at hEnds)

theorem silent_readRequired (room : Nat) : Silent (readRequired room) := by
  intro p q t ht
  have hEnds := ht.readValue_ends room
  unfold readRequired
  split
  · next hValue => exact .ok (by rwa [hValue] at hEnds) _
  · next hValue => exact .fail (by rwa [hValue] at hEnds)

theorem silent_refuse : Silent refuse :=
  fun _ _ _ ht => .fail (ht.refuse_between true true _)

theorem noted {readItems readProperty : Tree → Reading Schema} (hItems : Silent readItems)
    (hProperty : Silent readProperty) (room : Nat) :
    (record room readItems readProperty).Noted (fields room readItems readProperty)
      fun _ _ => [] := by
  refine .of_silent (laid room readItems readProperty) (fun s => ⟨_, rfl⟩) ?_
  simp only [fields, List.forall_mem_cons]
  exact ⟨silent_text.optional, (silent_readKeyword room).optional, hItems.optional,
    (silent_readKeyed hProperty room).optional, silent_readRequired room, List.forall_mem_nil _⟩

/-- A schema is read where there is room for it, the schema of a property one container deeper. -/
theorem silent_read_and_readProperty (room : Nat) :
    Silent (read room) ∧ Silent (readProperty room) := by
  induction room with
  | zero => exact ⟨silent_refuse, silent_refuse⟩
  | succ room ih =>
      refine ⟨?_, ih.1⟩
      intro p q t ht
      rw [read_succ]
      exact (noted ih.1 ih.2 room).silent_readInside ht

theorem silent_read (room : Nat) : Silent (read room) :=
  (silent_read_and_readProperty room).1

end Schema

theorem MediaType.silent_read (room : Nat) : Silent (read room) := by
  refine Tree.silent_readRecord (fun room => .of_silent (laid room) (fun s => ⟨_, rfl⟩) ?_) room
  simp only [fields, List.forall_mem_cons]
  exact ⟨(Schema.silent_read room).optional, List.forall_mem_nil _⟩

theorem Body.silent_readRecord (name : String) (room : Nat) :
    Silent (Tree.readRecord (record name) room) := by
  refine Tree.silent_readRecord
    (fun room => .of_silent (laid name room) (fun s => ⟨_, rfl⟩) ?_) room
  simp only [fields, List.forall_mem_cons]
  exact ⟨silent_readKeyed (MediaType.silent_read _) room, List.forall_mem_nil _⟩

theorem Operation.silent_read (room : Nat) : Silent (read room) := by
  refine Tree.silent_readRecord (fun room => .of_silent (laid room) (fun s => ⟨_, rfl⟩) ?_) room
  simp only [fields, List.forall_mem_cons]
  exact ⟨silent_text.optional, Silent.optional (Body.silent_readRecord _ room),
    silent_readKeyed (Body.silent_readRecord _ _) room, List.forall_mem_nil _⟩

theorem Info.silent_read (room : Nat) : Silent (read room) := by
  refine Tree.silent_readRecord (fun room => .of_silent (laid room) (fun s => ⟨_, rfl⟩) ?_) room
  simp only [fields, List.forall_mem_cons]
  exact ⟨silent_text, silent_text, List.forall_mem_nil _⟩

theorem Document.silent_readComponents (room : Nat) :
    Silent (Tree.readRecord componentsRecord room) := by
  refine Tree.silent_readRecord
    (fun room => .of_silent (componentsLaid room) (fun s => ⟨_, rfl⟩) ?_) room
  simp only [componentsFields, List.forall_mem_cons]
  exact ⟨silent_readKeyed (Schema.silent_read _) room, List.forall_mem_nil _⟩

/-! ### Path items -/

namespace PathItem

/-- The names of the members of a path item that are no methods, with their places. -/
def skippedKeys (t : Tree) : List PlacedName :=
  (t.placedEntries.map (·.1)).filter fun n => (Method.ofKey? n.name).isNone

theorem remarks_readMember (room : Nat) : MemberRemarks (readMember room)
    fun n _ => if (Method.ofKey? n.name).isNone then [n] else [] := by
  intro p nameStop behindName q name value hPlace hBehind hValue
  unfold readMember
  dsimp only
  cases Method.ofKey? name with
  | some method =>
      exact ((Operation.silent_read room hValue).map _).mono (hPlace.le.trans hBehind)
  | none =>
      have hRemark : (Reading.remark name).Notes p (some nameStop) [⟨name, nameStop⟩] := by
        refine ⟨by simp [EndsBetween], ⟨?_, List.pairwise_singleton ..⟩, rfl⟩
        simpa using hPlace
      have hSkip := ((Reading.Notes.of hValue.skip_ends).map
        fun _ => (none : Option (Method × Operation))).mono hBehind
      exact hRemark.bind (fun _ => hSkip) .nil hPlace.le
        fun e he => hBehind.trans (hValue.le_end e he)

theorem skippedKeys_eq_flatMap (t : Tree) : skippedKeys t =
    t.placedEntries.flatMap fun e => if (Method.ofKey? e.1.name).isNone then [e.1] else [] := by
  rw [skippedKeys]
  induction t.placedEntries with
  | nil => rfl
  | cons e es ih =>
      rw [List.map_cons, List.flatMap_cons, List.filter_cons, ih]
      split <;> rfl

theorem remarks_read (room : Nat) : Remarks (read room) skippedKeys :=
  (((remarks_readMember (room - 1)).object "an OpenAPI path item object" room).map
    (List.filterMap id)).congr fun t => (skippedKeys_eq_flatMap t).symm

end PathItem

/-! ### Descriptions -/

namespace Document

/-- The names of all members of path items that are no methods, with their places. -/
def skippedKeysIn (t : Tree) : List PlacedName :=
  (t.fields ["info", "paths", "components"]).flatMap fun e =>
    if e.1 = "paths" then e.2.entries.flatMap fun path => PathItem.skippedKeys path.2 else []

theorem noted (room : Nat) : (record room).Noted (fields room) fun name t =>
    if name = "paths" then t.entries.flatMap fun path => PathItem.skippedKeys path.2 else [] where
  laid := laid room
  finish := fun s => ⟨_, rfl⟩
  read := by
    simp only [fields, List.forall_mem_cons]
    exact ⟨Info.silent_read room, remarks_readKeyed (PathItem.remarks_read _) room,
      (silent_readComponents room).optional, List.forall_mem_nil _⟩
  unknown := by
    intro name hName t
    apply if_neg
    rintro rfl
    exact hName (by simp [fields])

theorem remarks_read (room : Nat) : Remarks (read room) skippedKeysIn :=
  Tree.remarks_readRecord noted (fun _ => rfl) room

/-- The names of all members of path items in a text that are no methods, with their places. -/
def skippedKeys (text : String) : List PlacedName :=
  skippedKeysIn (Tree.ofString text).value

/-- Names are remarked upon in the order of the text, as far as it is read. -/
theorem notes_ofString (text : String) :
    ∃ q, (ofString text).Notes .start q (skippedKeys text) :=
  readString_notes (remarks_read fullRoom) text

end Document

end TypedClient
