import Mathlib.Data.Option.Basic
import TypedClient.Client.Basic
import TypedClient.Proofs.Script.Renaming

/-!
The two naming styles side by side. Main statement: the clients for a description in the two styles
differ in names and in nothing else. The names of shared schemas are made fit by
`Naming.typeName` wherever they are declared or mentioned; those of operations are derived in the
style.
-/

namespace TypedClient

open Script

/-! ### What two clients have in common -/

/-- The declaration that an operation has for a role, under its name in the one style and in the
other. -/
structure DeclaredInStyles (method : Method) (path : String) (role : TypeRole)
    (d d' : Declaration) : Prop where
  preserved : d.name = Naming.derive (.type role) method path .preserve
  sanitized : d'.name = Naming.derive (.type role) method path .sanitized
  contents : d.RenamedTo Naming.typeName d'

/-- Two answers of the same kind to an operation, with the declaration that this kind needs. -/
inductive Answer.InStyles (method : Method) (path : String) : Answer → Answer → Prop
  | untyped : Answer.InStyles method path .untyped .untyped
  | text : Answer.InStyles method path .text .text
  | whole {d d' : Declaration} (hDeclared : DeclaredInStyles method path .response d d') :
      Answer.InStyles method path (.whole d) (.whole d')
  | enveloped {d d' : Declaration} (hDeclared : DeclaredInStyles method path .responseData d d') :
      Answer.InStyles method path (.enveloped d) (.enveloped d')

/-- Two calls of one operation. -/
structure Call.InStyles (c c' : Call) : Prop where
  path : c.path = c'.path
  method : c.method = c'.method
  summary : c.summary = c'.summary
  preserved : c.name = Naming.derive .function c.method c.path .preserve
  sanitized : c'.name = Naming.derive .function c.method c.path .sanitized
  request : Option.Rel (DeclaredInStyles c.method c.path .request) c.request c'.request
  answer : c.answer.InStyles c.method c.path c'.answer

/-- The same shared declarations in the same order, their own names made fit as well; or the same
given text. -/
inductive Shared.InStyles : Shared → Shared → Prop
  | declared {ds ds' : List Declaration}
      (hAll : List.Forall₂
        (fun d d' => d'.name = Naming.typeName d.name ∧ d.RenamedTo Naming.typeName d') ds ds') :
      Shared.InStyles (.declared ds) (.declared ds')
  | verbatim (text : String) : Shared.InStyles (.verbatim text) (.verbatim text)

/-- Two clients that differ in names only, as the two styles do. -/
structure Client.InStyles (c c' : Client) : Prop where
  title : c.title = c'.title
  version : c.version = c'.version
  calls : List.Forall₂ Call.InStyles c.calls c'.calls
  shared : c.shared.InStyles c'.shared

/-! ### Step by step -/

theorem Script.Declaration.renamedTo_of_body {f : String → String} {d d' : Declaration}
    (hParameters : d.parameters = d'.parameters) (hExported : d.exported = d'.exported)
    (hBody : d'.body = d.body.mapNames f) : d.RenamedTo f d' :=
  ⟨hParameters, hExported, DeclarationBody.renamedTo_iff.mpr hBody⟩

namespace Route

variable (r : Route)

/-- What an operation declares for a schema has the same members in both styles. -/
theorem declaredInStyles (role : TypeRole) (s : Schema) :
    DeclaredInStyles r.method r.path role (r.declare .preserve role s)
      { r.declare .sanitized role s with
        body := (r.declare .sanitized role s).body.mapNames Naming.typeName } where
  preserved := rfl
  sanitized := rfl
  contents := Declaration.renamedTo_of_body rfl rfl rfl

theorem request_inStyles :
    Option.Rel (DeclaredInStyles r.method r.path .request) (r.call .preserve).request
      ((r.call .sanitized).mapNames Naming.typeName).request := by
  rw [Call.mapNames, call, call]
  dsimp only
  cases r.operation.requestSchema? with
  | none => exact Option.Rel.none
  | some s => exact Option.Rel.some (r.declaredInStyles .request s)

/-- Which kind of answer an operation has is decided by its schema, before any name is. -/
theorem answer_inStyles :
    (r.answer .preserve).InStyles r.method r.path
      ((r.answer .sanitized).mapNames Naming.typeName) := by
  unfold answer
  cases r.operation.responseSchema? with
  | none => exact .untyped
  | some s =>
      dsimp only
      cases s.envelopeData? with
      | some data => exact .enveloped (r.declaredInStyles .responseData data)
      | none =>
          dsimp only
          split
          · exact .text
          · exact .whole (r.declaredInStyles .response s)

theorem call_inStyles :
    (r.call .preserve).InStyles ((r.call .sanitized).mapNames Naming.typeName) where
  path := rfl
  method := rfl
  summary := rfl
  preserved := rfl
  sanitized := rfl
  request := r.request_inStyles
  answer := r.answer_inStyles

end Route

theorem Shared.inStyles_mapNames (shared : Shared) :
    shared.InStyles (shared.mapNames Naming.typeName) := by
  cases shared with
  | verbatim text => exact .verbatim text
  | declared ds =>
      refine .declared (List.forall₂_map_right_iff.mpr (List.forall₂_same.mpr ?_))
      intro d _
      exact ⟨rfl, Declaration.renamedTo_of_body rfl rfl rfl⟩

/-- The client for a description with names as they are and the one with names made fit have the
same title, calls and shared declarations, but for names. -/
theorem Client.ofDocument_inStyles (d : Document) (o : Options) :
    (ofDocument d { o with naming := .preserve }).InStyles
      (ofDocument d { o with naming := .sanitized }) where
  title := rfl
  version := rfl
  calls := by
    change List.Forall₂ Call.InStyles (d.routes.map (·.call .preserve))
      ((d.routes.map (·.call .sanitized)).map (·.mapNames Naming.typeName))
    rw [List.map_map, List.forall₂_map_left_iff, List.forall₂_map_right_iff, List.forall₂_same]
    exact fun r _ => r.call_inStyles
  shared := (plain d { o with naming := .sanitized }).shared.inStyles_mapNames

end TypedClient
