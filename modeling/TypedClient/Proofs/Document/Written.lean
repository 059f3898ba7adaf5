import TypedClient.Proofs.Document.Fields

/-!
The operations of a description as they stand in its text. They are found without reading any of
them: path by path in the order in which the paths first occur, and on each path in the order of
the text. Main statement: a description that can be read has exactly these operations, and sends
JSON of some schema where the text says so.
-/

namespace TypedClient

open Json

/-! ### In the text -/

/-- The schema of a media type, as it stands in the text. -/
def MediaType.writtenSchema? (t : Tree) : Option Tree :=
  (t.field? ["schema"] "schema").bind Tree.nonNull?

/-- The schema of JSON in a body, as it stands in the text. -/
def Body.writtenJsonSchema? (t : Tree) : Option Tree :=
  ((t.field? ["content"] "content").bind (Keyed.last? ·.entries jsonMediaType)).bind
    MediaType.writtenSchema?

/-- The schema of the JSON that an operation sends, as it stands in the text. -/
def Operation.writtenRequestSchema? (t : Tree) : Option Tree :=
  ((t.field? ["summary", "requestBody", "responses"] "requestBody").bind Tree.nonNull?).bind
    Body.writtenJsonSchema?

/-- The answer under a status, as it stands in the text. -/
def Operation.writtenResponse? (t : Tree) (status : String) : Option Tree :=
  (t.field? ["summary", "requestBody", "responses"] "responses").bind
    (Keyed.last? ·.entries status)

/-- The schema of the JSON that answers on success, as it stands in the text. -/
def Operation.writtenResponseSchema? (t : Tree) : Option Tree :=
  ((writtenResponse? t "200").or (writtenResponse? t "201")).bind Body.writtenJsonSchema?

/-- An operation as it stands in the text of a description. -/
structure WrittenOperation where
  path : String
  method : Method
  value : Tree

/-- The operations that stand in a path item: its members whose name is that of a method. -/
def PathItem.written (path : String) (item : Tree) : List WrittenOperation :=
  item.entries.filterMap fun (key, value) => (Method.ofKey? key).map (⟨path, ·, value⟩)

/-- The paths that stand in a description, each where it first occurs with its last item. -/
def Document.writtenPaths (root : Tree) : List (String × Tree) :=
  match root.field? ["info", "paths", "components"] "paths" with
  | some paths => Keyed.lastAtFirst paths.entries
  | none => []

/-- The operations that stand in the text of a description. -/
def Document.writtenOperations (text : String) : List WrittenOperation :=
  (writtenPaths (Tree.ofString text).value).flatMap fun (path, item) => PathItem.written path item

/-- The shared schemas that stand in the text of a description, each where its name first occurs
with the last schema under it. -/
def Document.writtenSchemas (text : String) : List (String × Tree) :=
  match (((Tree.ofString text).value.field? ["info", "paths", "components"] "components").bind
    Tree.nonNull?).bind (·.field? ["schemas"] "schemas") with
  | some schemas => Keyed.lastAtFirst schemas.entries
  | none => []

/-- A member of a path item stands for a method if its name is that of the method in any mixture
of upper and lower case. -/
theorem Method.ofKey?_eq_some {key : String} {m : Method} :
    Method.ofKey? key = some m ↔ Method.asciiLower key = m.lower := by
  constructor
  · intro h
    simpa [eq_comm] using List.find?_some h
  · intro h
    rw [ofKey?, h]
    cases m <;> decide

/-! ### Slots of the records -/

theorem MediaType.slot_schema (room : Nat) :
    (MediaType.record room).Slot "schema" id (Tree.readOptional (Schema.read room)) :=
  (laid room).slot (List.mem_of_getElem? (i := 0) rfl)

theorem Body.slot_content (name : String) (room : Nat) :
    (Body.record name room).Slot "content" id
      (readKeyed (MediaType.read (room - 1)) room) :=
  (laid name room).slot (List.mem_of_getElem? (i := 0) rfl)

theorem Operation.slot_requestBody (room : Nat) :
    (Operation.record room).Slot "requestBody" (·.requestBody)
      (Tree.readOptional (Body.readRequest room)) :=
  (laid room).slot (List.mem_of_getElem? (i := 1) rfl)

theorem Operation.slot_responses (room : Nat) :
    (Operation.record room).Slot "responses" (·.responses)
      (readKeyed (Body.readResponse (room - 1)) room) :=
  (laid room).slot (List.mem_of_getElem? (i := 2) rfl)

theorem Document.slot_paths (room : Nat) :
    (Document.record room).Slot "paths" (·.paths)
      (readKeyed (PathItem.read (room - 1)) room) :=
  (laid room).slot (List.mem_of_getElem? (i := 1) rfl)

theorem Document.slot_components (room : Nat) :
    (Document.record room).Slot "components" (·.schemas)
      (Tree.readOptional (Tree.readRecord componentsRecord room)) :=
  (laid room).slot (List.mem_of_getElem? (i := 2) rfl)

theorem Document.slot_schemas (room : Nat) :
    (componentsRecord room).Slot "schemas" id (readKeyed (Schema.read (room - 1)) room) :=
  (componentsLaid room).slot (List.mem_of_getElem? (i := 0) rfl)

/-! ### What is read of it -/

/-- What is read under keys stands in the text in this order, with the last entry of each key. -/
theorem forall₂_of_readKeyed {α : Type} {read : Tree → Reading α} {room : Nat} {t : Tree}
    {entries : Keyed String α} (h : (readKeyed read room t).result = .ok entries) :
    List.Forall₂ (fun x y => x.1 = y.1 ∧ (read x.2).result = .ok y.2)
      (Keyed.lastAtFirst t.entries) entries := by
  obtain ⟨pairs, hPairs, rfl⟩ := Reading.map_result_eq_ok.mp h
  rw [← Keyed.ofEntries_eq_lastAtFirst]
  apply Keyed.forall₂_ofEntries (R := fun value a => (read value).result = .ok a)
  refine (Tree.forall₂_of_readObject hPairs).imp ?_
  rintro ⟨name, value⟩ y hEntry
  obtain ⟨a, ha, rfl⟩ := Reading.map_result_eq_ok.mp hEntry
  exact ⟨rfl, ha⟩

theorem rel_of_readKeyed {α : Type} {read : Tree → Reading α} {room : Nat} {t : Tree}
    {entries : Keyed String α} (h : (readKeyed read room t).result = .ok entries) (key : String) :
    Option.Rel (fun t a => (read t).result = .ok a) (Keyed.last? t.entries key)
      (entries.get? key) := by
  have hAll := forall₂_of_readKeyed h
  rw [← Keyed.ofEntries_eq_lastAtFirst] at hAll
  rw [← Keyed.get?_ofEntries]
  exact Keyed.rel_get? hAll key

/-- A schema was read of a tree. -/
def Schema.IsReadOf (t : Tree) (s : Schema) : Prop :=
  ∃ room, (Schema.read room t).result = .ok s

theorem MediaType.rel_schema {room : Nat} {t : Tree} {m : MediaType}
    (h : (MediaType.read room t).result = .ok m) :
    Option.Rel Schema.IsReadOf (MediaType.writtenSchema? t) m.schema := by
  obtain ⟨left, -, hInside⟩ := Tree.readInside_of_readRecord h
  obtain ⟨schema?, hFinish, hRel⟩ := (slot_schema left).of_readInside hInside
  cases hFinish
  refine rel_bind hRel fun value schema hRead => ?_
  exact rel_imp (Tree.rel_of_readOptional hRead) fun _ _ hSchema => ⟨left, hSchema⟩

theorem Body.rel_jsonSchema? {name : String} {room : Nat} {t : Tree} {b : Body}
    (h : (Tree.readRecord (record name) room t).result = .ok b) :
    Option.Rel Schema.IsReadOf (writtenJsonSchema? t) b.jsonSchema? := by
  obtain ⟨left, -, hInside⟩ := Tree.readInside_of_readRecord h
  obtain ⟨content?, hFinish, hRel⟩ := (slot_content name left).of_readInside hInside
  cases hFinish
  have hMedia : Option.Rel (fun t m => (MediaType.read (left - 1) t).result = .ok m)
      ((t.field? ["content"] "content").bind (Keyed.last? ·.entries jsonMediaType))
      (content?.bind (·.get? jsonMediaType)) :=
    rel_bind hRel fun value content hContent => rel_of_readKeyed hContent jsonMediaType
  have hGet : (content?.getD []).get? jsonMediaType = content?.bind (·.get? jsonMediaType) := by
    cases content? <;> rfl
  rw [jsonSchema?, writtenJsonSchema?, hGet]
  exact rel_bind hMedia fun value media hRead => MediaType.rel_schema hRead

theorem Operation.rel_requestSchema? {room : Nat} {t : Tree} {op : Operation}
    (h : (Operation.read room t).result = .ok op) :
    Option.Rel Schema.IsReadOf (writtenRequestSchema? t) op.requestSchema? := by
  obtain ⟨left, -, hInside⟩ := Tree.readInside_of_readRecord h
  obtain ⟨s, hFinish, hRel⟩ := (slot_requestBody left).of_readInside hInside
  cases hFinish
  have hBody : Option.Rel (fun t b => (Body.readRequest left t).result = .ok b)
      ((t.field? ["summary", "requestBody", "responses"] "requestBody").bind Tree.nonNull?)
      s.requestBody.join :=
    rel_bind hRel fun value body hRead => Tree.rel_of_readOptional hRead
  exact rel_bind hBody fun value body hRead => Body.rel_jsonSchema? hRead

theorem Operation.rel_responseSchema? {room : Nat} {t : Tree} {op : Operation}
    (h : (Operation.read room t).result = .ok op) :
    Option.Rel Schema.IsReadOf (writtenResponseSchema? t) op.responseSchema? := by
  obtain ⟨left, -, hInside⟩ := Tree.readInside_of_readRecord h
  obtain ⟨s, hFinish, hRel⟩ := (slot_responses left).of_readInside hInside
  cases hFinish
  have hResponse : ∀ status, Option.Rel
      (fun t b => (Body.readResponse (left - 1) t).result = .ok b)
      (writtenResponse? t status) ((s.responses.getD []).get? status) := by
    intro status
    have hGet : (s.responses.getD []).get? status = s.responses.bind (·.get? status) := by
      cases s.responses <;> rfl
    rw [hGet]
    exact rel_bind hRel fun value responses hRead => rel_of_readKeyed hRead status
  exact rel_bind (rel_or (hResponse "200") (hResponse "201")) fun value body hRead =>
    Body.rel_jsonSchema? hRead

/-- A route was read of an operation. -/
structure WrittenOperation.IsReadAs (w : WrittenOperation) (r : Route) : Prop where
  path : r.path = w.path
  method : r.method = w.method
  request : Option.Rel Schema.IsReadOf (Operation.writtenRequestSchema? w.value)
    r.operation.requestSchema?
  response : Option.Rel Schema.IsReadOf (Operation.writtenResponseSchema? w.value)
    r.operation.responseSchema?

/-- Of a path item exactly its operations are read, in order. -/
theorem PathItem.forall₂_written {room : Nat} {t : Tree} {item : PathItem} (path : String)
    (h : (PathItem.read room t).result = .ok item) :
    List.Forall₂ WrittenOperation.IsReadAs (PathItem.written path t)
      (item.map fun (method, op) => ⟨path, method, op⟩) := by
  obtain ⟨entries, hEntries, rfl⟩ := Reading.map_result_eq_ok.mp h
  rw [List.map_filterMap]
  refine List.rel_filterMap ?_ (Tree.forall₂_of_readObject hEntries)
  rintro ⟨key, value⟩ entry hEntry
  dsimp only [readMember] at hEntry ⊢
  cases hKey : Method.ofKey? key with
  | none =>
      rw [hKey] at hEntry
      obtain ⟨_, _, hEntry⟩ := Reading.bind_result_eq_ok.mp hEntry
      obtain ⟨_, _, rfl⟩ := Reading.map_result_eq_ok.mp hEntry
      exact Option.Rel.none
  | some method =>
      rw [hKey] at hEntry
      obtain ⟨op, hOp, rfl⟩ := Reading.map_result_eq_ok.mp hEntry
      exact Option.Rel.some ⟨rfl, rfl, Operation.rel_requestSchema? hOp,
        Operation.rel_responseSchema? hOp⟩

/-- The paths of a description are those that stand in the text. -/
theorem Document.forall₂_writtenPaths {room : Nat} {root : Tree} {d : Document}
    (h : (Document.read room root).result = .ok d) :
    List.Forall₂ (fun x y => x.1 = y.1 ∧ ∃ room, (PathItem.read room x.2).result = .ok y.2)
      (writtenPaths root) d.paths := by
  obtain ⟨left, -, hInside⟩ := Tree.readInside_of_readRecord h
  obtain ⟨s, hFinish, hRel⟩ := (slot_paths left).of_readInside hInside
  cases hFinish
  change Option.Rel _ (root.field? ["info", "paths", "components"] "paths") s.paths at hRel
  rw [writtenPaths]
  dsimp only
  generalize root.field? _ _ = written? at hRel ⊢
  generalize s.paths = read? at hRel ⊢
  cases hRel with
  | none => exact List.Forall₂.nil
  | some hPaths =>
      refine (forall₂_of_readKeyed hPaths).imp ?_
      rintro x y ⟨hPath, hItem⟩
      exact ⟨hPath, _, hItem⟩

/-- A description has exactly the operations that stand in its text, in that order. -/
theorem Document.forall₂_writtenOperations {text : String} {d : Document}
    (h : (Document.ofString text).result = .ok d) :
    List.Forall₂ WrittenOperation.IsReadAs (writtenOperations text) d.routes := by
  obtain ⟨hRead, -⟩ := readString_result_eq_ok.mp h
  refine List.rel_flatMap (forall₂_writtenPaths hRead) ?_
  rintro ⟨path, item⟩ ⟨_, ops⟩ ⟨rfl, room, hItem⟩
  exact PathItem.forall₂_written path hItem

/-- A description has exactly the shared schemas that stand in its text, in that order. -/
theorem Document.forall₂_writtenSchemas {text : String} {d : Document}
    (h : (Document.ofString text).result = .ok d) :
    List.Forall₂ (fun x y => x.1 = y.1 ∧ Schema.IsReadOf x.2 y.2) (writtenSchemas text)
      (d.schemas.getD []) := by
  obtain ⟨hRead, -⟩ := readString_result_eq_ok.mp h
  obtain ⟨left, -, hInside⟩ := Tree.readInside_of_readRecord hRead
  obtain ⟨s, hFinish, hRel⟩ := (slot_components left).of_readInside hInside
  cases hFinish
  have hPlace := rel_bind hRel fun value components hComponents =>
    Tree.rel_of_readOptional hComponents
  change Option.Rel _ (((Tree.ofString text).value.field? ["info", "paths", "components"]
    "components").bind Tree.nonNull?) s.schemas.join at hPlace
  rw [writtenSchemas]
  dsimp only
  generalize ((Tree.ofString text).value.field? _ _).bind _ = place? at hPlace ⊢
  generalize s.schemas.join = components? at hPlace ⊢
  cases hPlace with
  | none => exact List.Forall₂.nil
  | @some place components hComponents =>
      obtain ⟨room, -, hPlaceInside⟩ := Tree.readInside_of_readRecord hComponents
      obtain ⟨schemas?, hSchemas, hSlot⟩ := (slot_schemas room).of_readInside hPlaceInside
      cases hSchemas
      change Option.Rel _ (place.field? ["schemas"] "schemas") schemas? at hSlot
      rw [Option.bind_some]
      generalize place.field? _ _ = written? at hSlot ⊢
      cases hSlot with
      | none => exact List.Forall₂.nil
      | some hRead =>
          refine (forall₂_of_readKeyed hRead).imp ?_
          rintro x y ⟨hName, hSchema⟩
          exact ⟨hName, _, hSchema⟩

end TypedClient
