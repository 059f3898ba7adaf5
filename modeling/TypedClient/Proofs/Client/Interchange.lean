import TypedClient.Client.Generate
import TypedClient.Proofs.Json.Reading
import TypedClient.Proofs.Schema.Alike

/-!
Descriptions that give the same client. Main statement: the client of a description only depends on
its title, on where its operations are and what they are called, and on what the schemas of the
JSON that they send and answer, and the shared ones, look like to it.
-/

namespace TypedClient

open Json Script

/-! ### Descriptions -/

/-- Two operations at the same place, with the same summary, that send related schemas and answer
with related ones. -/
structure Route.Matches (R Q : Schema → Schema → Prop) (r r' : Route) : Prop where
  path : r.path = r'.path
  method : r.method = r'.method
  summary : r.operation.summary = r'.operation.summary
  request : Option.Rel R r.operation.requestSchema? r'.operation.requestSchema?
  response : Option.Rel Q r.operation.responseSchema? r'.operation.responseSchema?

/-- Two descriptions with the same title and matching operations, whose shared schemas have the
same names and are related. -/
structure Document.Matches (R Q S : Schema → Schema → Prop) (d d' : Document) : Prop where
  info : d.info = d'.info
  routes : List.Forall₂ (Route.Matches R Q) d.routes d'.routes
  shared : List.Forall₂ (fun x y => x.1 = y.1 ∧ S x.2 y.2) (d.schemas.getD []) (d'.schemas.getD [])

section

variable {R Q S R' Q' S' : Schema → Schema → Prop}

theorem Route.Matches.imp {r r' : Route} (h : r.Matches R Q r') (hR : ∀ s s', R s s' → R' s s')
    (hQ : ∀ s s', Q s s' → Q' s s') : r.Matches R' Q' r' where
  path := h.path
  method := h.method
  summary := h.summary
  request := rel_imp h.request hR
  response := rel_imp h.response hQ

theorem Document.Matches.imp {d d' : Document} (h : d.Matches R Q S d')
    (hR : ∀ s s', R s s' → R' s s') (hQ : ∀ s s', Q s s' → Q' s s')
    (hS : ∀ s s', S s s' → S' s s') : d.Matches R' Q' S' d' where
  info := h.info
  routes := h.routes.imp fun _ _ hRoute => hRoute.imp hR hQ
  shared := h.shared.imp fun _ _ hEntry => ⟨hEntry.1, hS _ _ hEntry.2⟩

end

/-! ### What a client sees of a schema -/

namespace Schema

variable {s s' : Schema}

/-- Two schemas that a request is typed by in the same way. -/
def SameRequest (s s' : Schema) : Prop :=
  s.members = s'.members

/-- Two schemas that an answer is typed by in the same way: both or neither are mere text, and both
or neither are the usual envelope, around data that have the same members. -/
structure SameAnswer (s s' : Schema) : Prop where
  members : s.members = s'.members
  text : s.kind = .text ↔ s'.kind = .text
  data : Option.Rel SameRequest s.envelopeData? s'.envelopeData?

/-- Two schemas that are declared in the same way. -/
def SameShared (s s' : Schema) : Prop :=
  ∀ name, s.shared name = s'.shared name

/-- Whether a schema has the properties of the usual envelope, and of what kind the data in it are,
only depends on the properties. -/
theorem envelopeData?_rel {R : Schema → Schema → Prop}
    (h : ∀ name, Option.Rel R (s.property? name) (s'.property? name)) :
    Option.Rel R s.envelopeData? s'.envelopeData? := by
  have hAll : envelopeNames.all s.hasProperty = envelopeNames.all s'.hasProperty := by
    congr 1
    funext name
    rw [hasProperty, hasProperty, rel_isSome (h name)]
  rw [envelopeData?, envelopeData?, hAll]
  split
  · exact h "data"
  · exact Option.Rel.none

theorem property?_rel {R : Schema → Schema → Prop}
    (h : Option.Rel (List.Forall₂ fun x y => x.1 = y.1 ∧ R x.2 y.2) s.properties s'.properties)
    (name : String) : Option.Rel R (s.property? name) (s'.property? name) :=
  rel_bind h fun _ _ hAll => Keyed.rel_get? hAll name

theorem Alike.sameAnswer (h : s.Alike s') (hKind : s.kind = s'.kind)
    (hProperties : Option.Rel (List.Forall₂ fun x y => x.1 = y.1 ∧ Alike x.2 y.2)
      s.properties s'.properties) : s.SameAnswer s' where
  members := h.members_eq
  text := by rw [hKind]
  data := rel_imp (envelopeData?_rel (property?_rel hProperties)) fun _ _ hData => hData.members_eq

/-- Whether a schema is declared as an interface: it is an object with known properties. -/
def isInterface (s : Schema) : Bool :=
  s.kind = .object && s.properties.isSome

theorem shared_eq_ite (s : Schema) (name : String) :
    s.shared name = if s.isInterface then ⟨name, [], .interface s.members, true⟩
      else ⟨name, [], .synonym s.typeExpr, true⟩ := by
  rw [shared, isInterface]
  generalize s.kind = k
  cases k <;> cases s.properties <;> rfl

theorem Alike.sameShared (h : s.Alike s') (hInterface : s.isInterface = s'.isInterface) :
    s.SameShared s' := by
  intro name
  rw [shared_eq_ite, shared_eq_ite, hInterface, h.members_eq, h.typeExpr_eq]

end Schema

/-! ### Clients -/

namespace Route.Matches

variable {r r' : Route}

theorem declare_eq {R Q : Schema → Schema → Prop} (h : r.Matches R Q r') (style : NamingStyle)
    (role : TypeRole) {s s' : Schema} (hSame : s.SameRequest s') :
    r.declare style role s = r'.declare style role s' := by
  have hMembers : s.members = s'.members := hSame
  rw [declare, declare, nameFor, nameFor, h.path, h.method, hMembers]

theorem answer_eq {R : Schema → Schema → Prop} (h : r.Matches R Schema.SameAnswer r')
    (style : NamingStyle) : r.answer style = r'.answer style := by
  have hResponse := h.response
  unfold answer
  generalize r.operation.responseSchema? = s? at hResponse ⊢
  generalize r'.operation.responseSchema? = s'? at hResponse ⊢
  cases hResponse with
  | none => rfl
  | @some s s' hSame =>
      have hData := hSame.data
      dsimp only
      generalize s.envelopeData? = data? at hData ⊢
      generalize s'.envelopeData? = data'? at hData ⊢
      cases hData with
      | some hMembers =>
          dsimp only
          rw [h.declare_eq style .responseData hMembers]
      | none =>
          dsimp only
          rw [h.declare_eq style .response hSame.members, if_congr hSame.text rfl rfl]

theorem call_eq (h : r.Matches Schema.SameRequest Schema.SameAnswer r') (style : NamingStyle) :
    r.call style = r'.call style := by
  have hRequest : r.operation.requestSchema?.map (r.declare style .request) =
      r'.operation.requestSchema?.map (r'.declare style .request) := by
    have hSchemas := h.request
    generalize r.operation.requestSchema? = s? at hSchemas ⊢
    generalize r'.operation.requestSchema? = s'? at hSchemas ⊢
    cases hSchemas with
    | none => rfl
    | some hSame => rw [Option.map_some, Option.map_some, h.declare_eq style .request hSame]
  rw [call, call, hRequest, h.answer_eq, h.path, h.method, h.summary, nameFor, nameFor, h.path,
    h.method]

end Route.Matches

/-- Descriptions that look the same to a client have the same one. -/
theorem Client.ofDocument_eq {d d' : Document}
    (h : d.Matches Schema.SameRequest Schema.SameAnswer Schema.SameShared d') (o : Options) :
    ofDocument d o = ofDocument d' o := by
  have hCalls : d.routes.map (·.call o.naming) = d'.routes.map (·.call o.naming) :=
    map_eq_map_of_forall₂ (h.routes.imp fun _ _ hRoute => hRoute.call_eq o.naming)
  have hShared : (d.schemas.getD []).map (fun e => e.2.shared e.1) =
      (d'.schemas.getD []).map (fun e => e.2.shared e.1) := by
    refine map_eq_map_of_forall₂ (h.shared.imp fun x y hEntry => ?_)
    obtain ⟨hName, hSame⟩ := hEntry
    rw [hName, hSame]
  have hPlain : plain d o = plain d' o := by
    rw [plain, plain, hCalls, h.info]
    refine congrArg (Client.mk _ _ _) ?_
    cases o.shared with
    | verbatim text => rfl
    | declared => exact congrArg _ hShared
  rw [ofDocument, ofDocument, hPlain]

theorem Document.generate_eq {d d' : Document}
    (h : d.Matches Schema.SameRequest Schema.SameAnswer Schema.SameShared d') (o : Options) :
    d.generate o = d'.generate o := by
  have hCount : d.operationCount = d'.operationCount := h.routes.length_eq
  rw [generate, generate, Client.ofDocument_eq h, hCount]

end TypedClient
