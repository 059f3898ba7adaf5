import TypedClient.Proofs.Client.Owners
import TypedClient.Proofs.Script.Renaming

/-!
The types of operations. Main statement: operation by operation, a script declares one type for the
JSON that is sent, and one for the JSON that answers on success unless that is mere text, each made
of the schema for it; and the function of an operation names these types, and no others, in its
parameters, its result, its request and its comment.
-/

namespace TypedClient

open Script

/-! ### What an operation needs -/

/-- A body holds JSON of a schema. -/
def Body.HoldsJson (b : Body) (s : Schema) : Prop :=
  ∃ media, b.content.get? jsonMediaType = some media ∧ media.schema = some s

namespace Operation

/-- JSON of a schema is sent with an operation. -/
def Sends (op : Operation) (s : Schema) : Prop :=
  ∃ body, op.requestBody = some body ∧ body.HoldsJson s

/-- The answer on success: the one under 200, whatever it holds; that under 201 only where there is
none under 200. -/
inductive SucceedsWith (op : Operation) : Body → Prop
  | ok {body : Body} (hOk : op.responses.get? "200" = some body) : SucceedsWith op body
  | created {body : Body} (hNone : op.responses.get? "200" = none)
      (hCreated : op.responses.get? "201" = some body) : SucceedsWith op body

/-- JSON of a schema answers on success. -/
def AnswersWith (op : Operation) (s : Schema) : Prop :=
  ∃ body, op.SucceedsWith body ∧ body.HoldsJson s

theorem requestSchema?_eq_some {op : Operation} {s : Schema} :
    op.requestSchema? = some s ↔ op.Sends s := by
  rw [requestSchema?, Option.bind_eq_some_iff]
  simp only [Body.jsonSchema?, Option.bind_eq_some_iff]
  rfl

theorem success?_eq_some {op : Operation} {body : Body} :
    op.success? = some body ↔ op.SucceedsWith body := by
  rw [success?, Option.or_eq_some_iff]
  constructor
  · rintro (hOk | ⟨hNone, hCreated⟩)
    · exact .ok hOk
    · exact .created hNone hCreated
  · rintro (hOk | ⟨hNone, hCreated⟩)
    · exact .inl hOk
    · exact .inr ⟨hNone, hCreated⟩

theorem responseSchema?_eq_some {op : Operation} {s : Schema} :
    op.responseSchema? = some s ↔ op.AnswersWith s := by
  rw [responseSchema?, Option.bind_eq_some_iff]
  simp only [success?_eq_some, Body.jsonSchema?, Option.bind_eq_some_iff]
  rfl

end Operation

namespace Schema

/-- A schema is the usual envelope around some data. -/
def Envelops (s data : Schema) : Prop :=
  (∃ success, s.property? "success" = some success) ∧ (∃ code, s.property? "code" = some code) ∧
    s.property? "data" = some data

/-- A schema is of type `string`. -/
def IsText (s : Schema) : Prop :=
  s.keyword = some (.named "string")

theorem envelopeData?_eq_some {s data : Schema} :
    s.envelopeData? = some data ↔ s.Envelops data := by
  have hAll : envelopeNames.all s.hasProperty = true ↔
      (∃ success, s.property? "success" = some success) ∧
        (∃ code, s.property? "code" = some code) ∧ ∃ data, s.property? "data" = some data := by
    simp [envelopeNames, hasProperty, Option.isSome_iff_exists]
  rw [envelopeData?, Option.ite_none_right_eq_some, hAll]
  constructor
  · rintro ⟨⟨hSuccess, hCode, -⟩, hData⟩
    exact ⟨hSuccess, hCode, hData⟩
  · rintro ⟨hSuccess, hCode, hData⟩
    exact ⟨⟨hSuccess, hCode, data, hData⟩, hData⟩

theorem kind_eq_text {s : Schema} : s.kind = .text ↔ s.IsText := by
  rw [kind, IsText]
  cases s.keyword with
  | none => simp
  | some keyword =>
      cases keyword with
      | other => simp [TypeKeyword.kind]
      | named name =>
          by_cases hText : name = "string"
          · simp [TypeKeyword.kind, hText]
          · have hOther : (TypeKeyword.named name).kind ≠ .text := by
              rw [TypeKeyword.kind, if_neg hText]
              repeat' split
              all_goals simp
            simp [hOther, hText]

end Schema

/-! ### Calls in either style -/

namespace Call

/-- Only the declarations of a call mention shared schemas. -/
theorem request_mapNames (f : String → String) (c : Call) :
    (c.mapNames f).request = c.request.map (·.mapBody f) := rfl

theorem declaration?_mapNames (f : String → String) (c : Call) :
    (c.mapNames f).answer.declaration? = c.answer.declaration?.map (·.mapBody f) := by
  rcases c with ⟨path, method, summary, name, request, answer⟩
  cases answer <;> rfl

theorem mapNames_id (c : Call) : c.mapNames id = c :=
  mapNames_eq_self fun _ _ _ _ => rfl

end Call

/-- The calls of a client are those of the routes; what they mention of shared schemas is called as
in the declarations of these. -/
theorem Client.calls_ofDocument (d : Document) (o : Options) :
    (ofDocument d o).calls =
      d.routes.map fun r => (r.call o.naming).mapNames (Naming.schemaName o.naming) := by
  rw [ofDocument]
  cases hStyle : o.naming with
  | preserve =>
      have hSame : Naming.schemaName .preserve = id := rfl
      simp only [plain, hStyle, hSame, Call.mapNames_id]
  | sanitized =>
      have hFit : Naming.schemaName .sanitized = Naming.typeName := rfl
      simp only [mapNames, plain, hStyle, hFit, List.map_map, Function.comp_def]

/-! ### Signatures -/

/-- The types of an operation in a script. -/
structure Signature where
  /-- The declaration of what is sent. -/
  request : Option Declaration
  /-- The declaration of what answers. -/
  answer : Option Declaration
  /-- The type of what the function gives. -/
  result : Option TypeExpr

/-- The declarations of a signature in the order in which they are written. -/
def Signature.declarations (types : Signature) : List Declaration :=
  types.request.toList ++ types.answer.toList

/-- The declaration of a schema for an operation, which mentions shared schemas as they are
declared. -/
def Route.declared (r : Route) (style : NamingStyle) (role : TypeRole) (s : Schema) :
    Declaration :=
  .interface (Naming.derive (.type role) r.method r.path style)
    (s.members.map (·.mapNames (Naming.schemaName style)))

/-- A signature has exactly what an operation needs. -/
structure Route.Needs (r : Route) (style : NamingStyle) (types : Signature) : Prop where
  request : ∀ d, types.request = some d ↔
    ∃ s, r.operation.Sends s ∧ d = r.declared style .request s
  answer : ∀ d, types.answer = some d ↔
    (∃ s data, r.operation.AnswersWith s ∧ s.Envelops data ∧
      d = r.declared style .responseData data) ∨
    (∃ s, r.operation.AnswersWith s ∧ (∀ data, ¬ s.Envelops data) ∧ ¬ s.IsText ∧
      d = r.declared style .response s)
  result : ∀ t, types.result = some t ↔
    (∃ d, types.answer = some d ∧ t = .named d.name) ∨
    (∃ s, r.operation.AnswersWith s ∧ (∀ data, ¬ s.Envelops data) ∧ s.IsText ∧
      t = .primitive .text)

/-- The type arguments of the request that a function makes. -/
def Script.Function.requestTypes? (f : Function) : Option (List TypeExpr) :=
  match f.body with
  | .attempt (.const _ (.await (.call (.member (.name "axios") "request") types _)) :: _) _ _
      :: _ => some types
  | _ => none

/-- The function of an operation has a signature wherever it is typed. -/
structure Route.IsTypedAs (r : Route) (style : NamingStyle) (types : Signature) (f : Function) :
    Prop where
  name : f.name = Naming.derive .function r.method r.path style
  parameters : f.parameters = types.request.toList.map fun d => ⟨paramsName, .named d.name⟩
  result : f.result = match types.result with
    | some t => .promise t
    | none => .untyped
  requested : f.requestTypes? = some types.result.toList
  doc : f.doc = Text.lines (Text.trim (r.operation.summary.getD "")) ++
    (types.request.toList.map fun d => "@param params " ++ d.name) ++
    ["@returns " ++ match types.result with
      | some t => t.render
      | none => "Response payload"]

/-- The types of a call. -/
def Call.signature (c : Call) : Signature :=
  ⟨c.request, c.answer.declaration?, c.answer.type?⟩

namespace Route

variable (r : Route) (style : NamingStyle)

theorem request_eq_some {d : Declaration} : (r.call style).request = some d ↔
    ∃ s, r.operation.Sends s ∧ d = r.declare style .request s := by
  simp only [← Operation.requestSchema?_eq_some]
  rw [call, Option.map_eq_some_iff]
  simp only [@eq_comm _ d]

/-- An answer is declared, unless it is mere text: of an envelope the data, else the whole. -/
theorem declaration?_answer_eq_some {d : Declaration} :
    (r.answer style).declaration? = some d ↔
      (∃ s data, r.operation.AnswersWith s ∧ s.Envelops data ∧
        d = r.declare style .responseData data) ∨
      (∃ s, r.operation.AnswersWith s ∧ (∀ data, ¬ s.Envelops data) ∧ ¬ s.IsText ∧
        d = r.declare style .response s) := by
  simp only [← Operation.responseSchema?_eq_some, ← Schema.envelopeData?_eq_some,
    ← Schema.kind_eq_text]
  rw [answer]
  cases r.operation.responseSchema? with
  | none => simp [Answer.declaration?]
  | some s =>
      cases hData : s.envelopeData? with
      | some data => simp [Answer.declaration?, hData, eq_comm]
      | none =>
          by_cases hText : s.kind = .text
          · simp [Answer.declaration?, hData, hText]
          · simp [Answer.declaration?, hData, hText, @eq_comm _ d]

/-- An answer is mere text where a schema that is no envelope says so. -/
theorem answer_eq_text : r.answer style = .text ↔
    ∃ s, r.operation.AnswersWith s ∧ (∀ data, ¬ s.Envelops data) ∧ s.IsText := by
  simp only [← Operation.responseSchema?_eq_some, ← Schema.envelopeData?_eq_some,
    ← Schema.kind_eq_text]
  rw [answer]
  cases r.operation.responseSchema? with
  | none => simp
  | some s => cases hData : s.envelopeData? <;> simp [hData]

end Route

/-- The type of an answer is the name of its declaration; only mere text needs none. -/
theorem Answer.type?_eq_some {a : Answer} {t : TypeExpr} : a.type? = some t ↔
    (∃ d, a.declaration? = some d ∧ t = .named d.name) ∨ a = .text ∧ t = .primitive .text := by
  cases a <;> simp [type?, declaration?, eq_comm]

/-- A call has exactly the types that its operation needs. -/
theorem Route.needs (r : Route) (style : NamingStyle) :
    r.Needs style ((r.call style).mapNames (Naming.schemaName style)).signature where
  request := by
    intro d
    rw [Call.signature, Call.request_mapNames, Option.map_eq_some_iff]
    simp only [request_eq_some]
    constructor
    · rintro ⟨_, ⟨s, hSends, rfl⟩, rfl⟩
      exact ⟨s, hSends, rfl⟩
    · rintro ⟨s, hSends, rfl⟩
      exact ⟨_, ⟨s, hSends, rfl⟩, rfl⟩
  answer := by
    intro d
    rw [Call.signature, Call.declaration?_mapNames, Option.map_eq_some_iff, call]
    simp only [declaration?_answer_eq_some]
    constructor
    · rintro ⟨_, ⟨s, data, hAnswers, hData, rfl⟩ | ⟨s, hAnswers, hBare, hText, rfl⟩, rfl⟩
      · exact .inl ⟨s, data, hAnswers, hData, rfl⟩
      · exact .inr ⟨s, hAnswers, hBare, hText, rfl⟩
    · rintro (⟨s, data, hAnswers, hData, rfl⟩ | ⟨s, hAnswers, hBare, hText, rfl⟩)
      · exact ⟨_, .inl ⟨s, data, hAnswers, hData, rfl⟩, rfl⟩
      · exact ⟨_, .inr ⟨s, hAnswers, hBare, hText, rfl⟩, rfl⟩
  result := by
    intro t
    have hText : ((r.call style).mapNames (Naming.schemaName style)).answer = .text ↔
        r.answer style = .text := by
      rw [Call.mapNames, call]
      cases r.answer style <;> simp [Answer.mapNames]
    rw [Call.signature, Answer.type?_eq_some, hText, answer_eq_text]
    refine or_congr_right ⟨?_, ?_⟩
    · rintro ⟨⟨s, hAnswers, hBare, hIsText⟩, ht⟩
      exact ⟨s, hAnswers, hBare, hIsText, ht⟩
    · rintro ⟨s, hAnswers, hBare, hIsText, ht⟩
      exact ⟨⟨s, hAnswers, hBare, hIsText⟩, ht⟩

/-- The function of a call has its types wherever it is typed. -/
theorem Route.isTypedAs (r : Route) (o : Options) :
    r.IsTypedAs o.naming ((r.call o.naming).mapNames (Naming.schemaName o.naming)).signature
      ((r.call o.naming).function o) := by
  rw [← Call.function_mapNames (Naming.schemaName o.naming)]
  generalize hCall : (r.call o.naming).mapNames (Naming.schemaName o.naming) = c
  refine ⟨?_, ?_, rfl, rfl, ?_⟩
  · rw [← hCall]
    rfl
  · rw [Call.function, Call.requestType?, Call.signature]
    cases c.request <;> rfl
  · have hSummary : c.summary = r.operation.summary := by
      rw [← hCall]
      rfl
    rw [Call.function, Call.doc, Call.summaryLines, hSummary, Call.requestType?, Call.signature]
    cases c.request <;> cases c.answer.type? <;> rfl

namespace Client

/-- Operation by operation, a script declares a type for the JSON that is sent, if there is a schema
for it; then one for the data of the envelope that answers on success, or else for the whole of what
answers unless it is mere text; and nothing else. The function of the operation takes, gives,
requests and explains what these declarations name, and no other. -/
theorem signatures_match_schemas (d : Document) (o : Options) :
    ∃ (offered : List (Signature × Function)) (helper : List Function),
      List.Forall₂ (fun r p => r.Needs o.naming p.1 ∧ r.IsTypedAs o.naming p.1 p.2)
        d.routes offered ∧
      ((ofDocument d o).script o).types = offered.flatMap (·.1.declarations) ∧
      ((ofDocument d o).script o).functions = helper ++ offered.map (·.2) ∧
      (helper = [] ∨ helper = [fillPath]) := by
  refine ⟨d.routes.map fun r =>
    (((r.call o.naming).mapNames (Naming.schemaName o.naming)).signature,
      (r.call o.naming).function o),
    if d.routes.any fun r => (r.call o.naming).fillsPath then [fillPath] else [], ?_, ?_, ?_, ?_⟩
  · rw [List.forall₂_map_right_iff, List.forall₂_same]
    exact fun r _ => ⟨r.needs o.naming, r.isTypedAs o⟩
  · rw [script, declarations, calls_ofDocument, List.flatMap_map, List.flatMap_map]
    rfl
  · rw [script, functions_ofDocument, List.map_map]
    rfl
  · split
    · exact .inr rfl
    · exact .inl rfl

end Client

end TypedClient
