import TypedClient.Client.Generate
import TypedClient.Proofs.Document.Fields
import TypedClient.Proofs.Json.Admission

/-!
The shape that a description must have. Most of a schema may be anything, but a schema itself may
not: it is a record wherever it stands, with a text as its reference and schemas inside. Main
statement: of a text in which nothing is wrong as such, a client is generated exactly if it has this
shape.
-/

namespace TypedClient

open Json

/-- Entries under keys are taken if each of them is. -/
theorem admits_readKeyed {α : Type} {read : Tree → Reading α} {P : Shape} {room : Nat}
    (h : ∀ left, room = left + 1 → Admits left read P) :
    Admits room (readKeyed read room) (.mapOf fun _ => P) :=
  (admits_object "a map" fun left hRoom name => (h left hRoom).map (Prod.mk name)).map
    Keyed.ofEntries

/-! ### Schemas -/

namespace Schema

/-- What is asked of the members of a schema, given what is asked of the schemas inside. -/
def shapes (S : Shape) : List FieldShape := [
  ⟨"$ref", .orNull .text, false⟩,
  ⟨"type", .any, false⟩,
  ⟨"items", .orNull S, false⟩,
  ⟨"properties", .orNull (.mapOf fun _ => S), false⟩,
  ⟨"required", .any, true⟩]

/-- What can be read as a schema: a record, in which all that is read as a schema can be. -/
inductive Fits : Value → Prop
  | record {S : Shape} {v : Value} (hInside : ∀ w, S w → Fits w)
      (hRecord : Shape.record (shapes S) v) : Fits v

theorem fits_iff {v : Value} : Fits v ↔ Shape.record (shapes Fits) v := by
  constructor
  · rintro ⟨hInside, hRecord⟩
    refine Shape.record_mono ?_ hRecord
    refine .cons ⟨rfl, rfl, fun _ h => h⟩ (.cons ⟨rfl, rfl, fun _ h => h⟩ (.cons ⟨rfl, rfl, ?_⟩
      (.cons ⟨rfl, rfl, ?_⟩ (.cons ⟨rfl, rfl, fun _ h => h⟩ .nil))))
    · exact fun _ => Shape.orNull_mono hInside
    · exact fun _ => Shape.orNull_mono fun _ => Shape.mapOf_mono fun _ => hInside
  · exact fun hRecord => .record (fun _ h => h) hRecord

theorem admits_keyword (room : Nat) :
    Admits room (Tree.readOptional (readKeyword room)) Shape.any := by
  have hKeyword : Admits room (readKeyword room) Shape.any := by
    intro t v ht
    refine iff_of_true ?_ trivial
    rw [readKeyword, ht.readValue_eq]
    cases v <;> exact ⟨_, rfl⟩
  intro t v ht
  rw [hKeyword.optional t v ht]
  exact iff_of_true (.inr trivial) trivial

theorem admits_required (room : Nat) : Admits room (readRequired room) Shape.any := by
  intro t v ht
  refine iff_of_true ?_ trivial
  rw [readRequired, ht.readValue_eq]
  exact ⟨_, rfl⟩

/-- A schema is read of exactly the values that fit. -/
theorem admits_read (room : Nat) : Admits room (read room) Fits := by
  induction room using Nat.strongRecOn with
  | ind room ih =>
      intro t v ht
      rw [fits_iff]
      cases room with
      | zero =>
          cases ht with
          | null | flag | number | text =>
              exact ⟨fun hFail => absurd hFail (Reading.not_fail_succeeds _), False.elim⟩
      | succ room =>
          have hProperty : ∀ left, room = left + 1 → Admits left (readProperty room) Fits := by
            rintro left rfl
            exact ih left (by omega)
          have hShaped : Shaped room (fields room (read room) (readProperty room)) (shapes Fits) :=
            .cons ⟨rfl, rfl, admits_text.optional⟩ <|
            .cons ⟨rfl, rfl, admits_keyword room⟩ <|
            .cons ⟨rfl, rfl, (ih room (Nat.lt_succ_self room)).optional⟩ <|
            .cons ⟨rfl, rfl, (admits_readKeyed hProperty).optional⟩ <|
            .cons ⟨rfl, rfl, admits_required room⟩ .nil
          have hLaid := laid room (read room) (readProperty room)
          rw [read_succ]
          exact hLaid.admits hShaped (fun _ => ⟨_, rfl⟩) t v ht

end Schema

/-! ### Descriptions -/

section

variable (S : Shape)

/-- What is asked of the members of a media type. -/
def MediaType.shapes : List FieldShape :=
  [⟨"schema", .orNull S, false⟩]

/-- What is asked of the members of a body. -/
def Body.shapes : List FieldShape :=
  [⟨"content", .mapOf fun _ => .record (MediaType.shapes S), true⟩]

/-- What is asked of the members of an operation. -/
def Operation.shapes : List FieldShape := [
  ⟨"summary", .orNull .text, false⟩,
  ⟨"requestBody", .orNull (.record (Body.shapes S)), false⟩,
  ⟨"responses", .mapOf fun _ => .record (Body.shapes S), true⟩]

/-- What is asked of a path item: only its operations matter. -/
def PathItem.shape : Shape :=
  .mapOf fun name =>
    if (Method.ofKey? name).isSome then .record (Operation.shapes S) else .any

/-- What is asked of the members of a title. -/
def Info.shapes : List FieldShape :=
  [⟨"title", .text, true⟩, ⟨"version", .text, true⟩]

/-- What is asked of the place for shared schemas. -/
def Document.componentsShapes : List FieldShape :=
  [⟨"schemas", .mapOf fun _ => S, true⟩]

/-- What is asked of a description, given what is asked of its schemas. -/
def Document.shape : Shape := .record [
  ⟨"info", .record Info.shapes, true⟩,
  ⟨"paths", .mapOf fun _ => PathItem.shape S, true⟩,
  ⟨"components", .orNull (.record (componentsShapes S)), false⟩]

end

theorem MediaType.admits_read (room : Nat) :
    Admits room (read room) (.record (shapes Schema.Fits)) :=
  Record.admits_readRecord laid (fun _ _ => ⟨_, rfl⟩) fun left _ =>
    .cons ⟨rfl, rfl, (Schema.admits_read left).optional⟩ .nil

theorem Body.admits_read (name : String) (room : Nat) :
    Admits room (Tree.readRecord (record name) room) (.record (shapes Schema.Fits)) := by
  refine Record.admits_readRecord (laid name) (fun _ _ => ⟨_, rfl⟩) fun left _ => ?_
  refine .cons ⟨rfl, rfl, admits_readKeyed ?_⟩ .nil
  rintro below rfl
  exact MediaType.admits_read below

theorem Operation.admits_read (room : Nat) :
    Admits room (read room) (.record (shapes Schema.Fits)) := by
  refine Record.admits_readRecord laid (fun _ _ => ⟨_, rfl⟩) fun left _ => ?_
  have hResponse : ∀ below, left = below + 1 →
      Admits below (Body.readResponse (left - 1)) (.record (Body.shapes Schema.Fits)) := by
    rintro below rfl
    exact Body.admits_read "Response" below
  exact .cons ⟨rfl, rfl, admits_text.optional⟩ <|
    .cons ⟨rfl, rfl, (Body.admits_read "RequestBody" left).optional⟩ <|
    .cons ⟨rfl, rfl, admits_readKeyed hResponse⟩ .nil

theorem PathItem.admits_read (room : Nat) :
    Admits room (read room) (shape Schema.Fits) := by
  refine (admits_object _ ?_).map _
  rintro left rfl name t v ht
  rw [readMember]
  cases Method.ofKey? name with
  | none =>
      refine iff_of_true ?_ trivial
      have hSkip : (do Reading.of t.skip; return none :
          Reading (Option (Method × Operation))).Succeeds :=
        Reading.bind_succeeds.mpr ⟨(), ht.skip_eq, none, rfl⟩
      exact Reading.bind_succeeds.mpr ⟨(), rfl, hSkip⟩
  | some method =>
      rw [Reading.map_succeeds]
      exact Operation.admits_read left t v ht

theorem Info.admits_read (room : Nat) : Admits room (read room) (.record shapes) :=
  Record.admits_readRecord laid (fun _ _ => ⟨_, rfl⟩) fun _ _ =>
    .cons ⟨rfl, rfl, admits_text⟩ (.cons ⟨rfl, rfl, admits_text⟩ .nil)

namespace Document

theorem admits_components (room : Nat) :
    Admits room (Tree.readRecord componentsRecord room)
      (.record (componentsShapes Schema.Fits)) := by
  refine Record.admits_readRecord componentsLaid (fun _ _ => ⟨_, rfl⟩) fun left _ => ?_
  refine .cons ⟨rfl, rfl, admits_readKeyed ?_⟩ .nil
  rintro below rfl
  exact Schema.admits_read below

/-- A description is read of exactly the values of its shape. -/
theorem admits_read (room : Nat) : Admits room (read room) (shape Schema.Fits) := by
  refine Record.admits_readRecord laid (fun _ _ => ⟨_, rfl⟩) fun left _ => ?_
  have hItem : ∀ below, left = below + 1 →
      Admits below (PathItem.read (left - 1)) (PathItem.shape Schema.Fits) := by
    rintro below rfl
    exact PathItem.admits_read below
  exact .cons ⟨rfl, rfl, Info.admits_read left⟩ <|
    .cons ⟨rfl, rfl, admits_readKeyed hItem⟩ <|
    .cons ⟨rfl, rfl, (admits_components left).optional⟩ .nil

theorem parse_eq_ok {text : String} {d : Document} :
    parse text = .ok d ↔ (ofString text).result = .ok d := by
  rw [parse]
  cases (ofString text).result <;> simp

/-- A text in which nothing is wrong as such is read exactly if the value that it says has the shape
of a description. -/
theorem parse_succeeds_iff {text : String} {v : Value} (h : Says text v) :
    (∃ d, parse text = .ok d) ↔ shape Schema.Fits v := by
  rw [← admits_read fullRoom _ v h.sound]
  constructor
  · rintro ⟨d, hd⟩
    exact ⟨d, (readString_result_eq_ok.mp (parse_eq_ok.mp hd)).1⟩
  · rintro ⟨d, hd⟩
    exact ⟨d, parse_eq_ok.mpr (readString_result_eq_ok.mpr ⟨hd, h.trailing⟩)⟩

end Document

/-- Of what is read as a description a client is generated. -/
theorem generate_succeeds_iff_parses {text : String} {o : Options} :
    (∃ g, generate text o = .ok g) ↔ ∃ d, Document.parse text = .ok d := by
  rw [generate]
  cases Document.parse text <;> simp

/-- Of a text in which nothing is wrong as such, a client is generated exactly if the value that it
says has the shape of a description, down to its schemas. -/
theorem generate_succeeds_iff {text : String} {v : Value} (h : Says text v) (o : Options) :
    (∃ g, generate text o = .ok g) ↔ Document.shape Schema.Fits v := by
  rw [generate_succeeds_iff_parses, Document.parse_succeeds_iff h]

/-- A description with one shared schema. -/
def sharing (schema : Value) : Value :=
  .object [("components", .object [("schemas", .object [("A", schema)])])]

/-- A schema with a type and required names that are not understood. -/
def looseSchema : Value :=
  .object [("type", .list [.text "string", .null]), ("required", .flag true),
    ("items", .object [("$ref", .null)])]

theorem looseSchema_generate_succeeds_iff :
    Says ((sharing looseSchema).render .compact) (sharing looseSchema) ∧
      ((∃ g, generate ((sharing looseSchema).render .compact) .standard = .ok g) ↔
        Document.shape Schema.Fits (sharing looseSchema)) ∧
      Document.shape Schema.Fits (sharing looseSchema) := by
  have hFree : (sharing looseSchema).NumberFree := by
    simp [sharing, looseSchema, Value.NumberFree, Value.NumberFreeMembers, Value.NumberFreeItems]
  have hSays := says_render Layout.compact_blank hFree (by decide)
  refine ⟨hSays, generate_succeeds_iff hSays .standard, ?_⟩
  have hInner : Schema.Fits (.object [("$ref", .null)]) :=
    Schema.fits_iff.mpr (by simp [Schema.shapes, Shape.record, Shape.members, Shape.orNull])
  have hLoose : Schema.Fits looseSchema := Schema.fits_iff.mpr <| by
    simp [looseSchema, Schema.shapes, Shape.record, Shape.members, Shape.orNull, Shape.any, hInner]
  simp [Document.shape, Document.componentsShapes, sharing, Shape.record, Shape.members,
    Shape.orNull, Shape.mapOf, hLoose]

/-- A schema that is a truth value is refused, and the whole description with it, though nothing is
wrong with the text, and all but the schema has the shape of a description. -/
theorem flagSchema_refused :
    Says ((sharing (.flag true)).render .compact) (sharing (.flag true)) ∧
      Document.shape .any (sharing (.flag true)) ∧
      ¬ ∃ g, generate ((sharing (.flag true)).render .compact) .standard = .ok g := by
  have hFree : (sharing (.flag true)).NumberFree := by
    simp [sharing, Value.NumberFree, Value.NumberFreeMembers]
  have hSays := says_render Layout.compact_blank hFree (by decide)
  refine ⟨hSays, ?_, ?_⟩
  · simp [Document.shape, Document.componentsShapes, sharing, Shape.record, Shape.members,
      Shape.orNull, Shape.mapOf, Shape.any]
  · have hUnfit : ¬ Schema.Fits (.flag true) := fun hFits => Schema.fits_iff.mp hFits
    rw [generate_succeeds_iff_parses, Document.parse_succeeds_iff hSays]
    simp [Document.shape, Document.componentsShapes, sharing, Shape.record, Shape.members,
      Shape.orNull, Shape.mapOf, hUnfit]

end TypedClient
