import TypedClient.Proofs.Client.Signatures
import TypedClient.Proofs.Document.Remarks
import TypedClient.Proofs.Document.Shape

/-!
The events of a run that makes a client. Main statement: they tell of the text and of the client,
and of nothing else. First comes each member of a path item that is no method, as far as the text is
read; then, if it is read to its end, each function of the client with what it requests, takes and
gives; and last how many functions there are.
-/

namespace TypedClient

open Json Script

/-! ### What is told of a function -/

/-- The word for what an operation gives goes with the result type of its function and with the
declaration behind that type. -/
inductive Route.Gives (r : Route) (style : NamingStyle) (types : List Declaration) :
    Result → String → Prop
  | nothing (hUntyped : ∀ s, ¬ r.operation.AnswersWith s) : Gives r style types .untyped "none"
  | text {s : Schema} (hAnswers : r.operation.AnswersWith s) (hBare : ∀ data, ¬ s.Envelops data)
      (hText : s.IsText) : Gives r style types (.promise (.primitive .text)) "text"
  | whole {s : Schema} (hAnswers : r.operation.AnswersWith s) (hBare : ∀ data, ¬ s.Envelops data)
      (hText : ¬ s.IsText) (hDeclared : r.declared style .response s ∈ types) :
      Gives r style types (.promise (.named (r.declared style .response s).name)) "raw"
  | enveloped {s data : Schema} (hAnswers : r.operation.AnswersWith s) (hData : s.Envelops data)
      (hDeclared : r.declared style .responseData data ∈ types) :
      Gives r style types (.promise (.named (r.declared style .responseData data).name)) "enveloped"

/-- A function requests a path behind a base path, as it is or filled with parameters. -/
def Script.Function.Requests (f : Function) (base : String) (method path : String) : Prop :=
  ∃ config, f.requested? = some config ∧ config.lookup "method" = some (.text method) ∧
    (config.lookup "url" = some (.text (base ++ path)) ∨
      config.lookup "url" =
        some (.call (.name fillPathName) [] [.text (base ++ path), .name paramsName]))

/-- An event tells of the function of an operation. -/
structure Route.IsToldAs (r : Route) (o : Options) (types : List Declaration) (f : Function)
    (e : Event) : Prop where
  level : e.level = .debug
  message : e.message = "Normalized operation."
  requests : f.Requests (Text.dropEnd '/' o.basePath) r.method.wire r.path
  fields : ∃ takes gives, e.fields = [
      ("method", .quoted r.method.wire), ("path", .shown r.path), ("fn_name", .shown f.name),
      ("has_request", .ofBool takes), ("response", .quoted gives)] ∧
    (takes = true ↔ ∃ p ∈ f.parameters, p.name = paramsName) ∧ r.Gives o.naming types f.result gives

theorem Call.function_requests (c : Call) (o : Options) :
    (c.function o).Requests (Text.dropEnd '/' o.basePath) c.method.wire c.path := by
  refine ⟨_, rfl, rfl, ?_⟩
  change some (c.addressExpr o) = _ ∨ some (c.addressExpr o) = _
  rw [addressExpr, address]
  split
  · exact .inr rfl
  · exact .inl rfl

theorem Call.request_isSome_iff (c : Call) (o : Options) :
    c.request.isSome = true ↔ ∃ p ∈ (c.function o).parameters, p.name = paramsName := by
  rw [function, requestType?]
  cases c.request with
  | none => simp
  | some d => simp

/-- The planned call of an operation. -/
def Route.planned (r : Route) (o : Options) : Call :=
  (r.call o.naming).mapNames (Naming.schemaName o.naming)

theorem Route.gives (r : Route) (o : Options) {types : List Declaration}
    (hTypes : ∀ d ∈ (r.planned o).declarations, d ∈ types) :
    r.Gives o.naming types ((r.planned o).function o).result (r.planned o).answer.kind := by
  have hDeclared : ∀ d ∈ (r.planned o).answer.declaration?, d ∈ types := by
    intro d hd
    exact hTypes d (List.mem_append_right _ (Option.mem_toList.mpr hd))
  have hAnswer : (r.planned o).answer =
      (r.answer o.naming).mapNames (Naming.schemaName o.naming) := rfl
  rw [Call.function]
  dsimp only
  rw [hAnswer] at hDeclared ⊢
  rw [answer] at hDeclared ⊢
  cases hSchema : r.operation.responseSchema? with
  | none =>
      refine .nothing fun s hs => ?_
      rw [← Operation.responseSchema?_eq_some, hSchema] at hs
      cases hs
  | some s =>
      have hAnswers := Operation.responseSchema?_eq_some.mp hSchema
      rw [hSchema] at hDeclared
      dsimp only at hDeclared ⊢
      cases hEnvelope : s.envelopeData? with
      | some data =>
          rw [hEnvelope] at hDeclared
          exact .enveloped hAnswers (Schema.envelopeData?_eq_some.mp hEnvelope) (hDeclared _ rfl)
      | none =>
          have hBare : ∀ data, ¬ s.Envelops data := by
            intro data hData
            rw [← Schema.envelopeData?_eq_some, hEnvelope] at hData
            cases hData
          rw [hEnvelope] at hDeclared
          dsimp only at hDeclared ⊢
          by_cases hText : s.kind = .text
          · rw [if_pos hText]
            exact .text hAnswers hBare (Schema.kind_eq_text.mp hText)
          · rw [if_neg hText] at hDeclared ⊢
            exact .whole hAnswers hBare (mt Schema.kind_eq_text.mpr hText) (hDeclared _ rfl)

theorem Route.isToldAs (r : Route) (o : Options) {types : List Declaration}
    (hTypes : ∀ d ∈ (r.planned o).declarations, d ∈ types) :
    r.IsToldAs o types ((r.planned o).function o) (.plannedCall (r.planned o)) where
  level := rfl
  message := rfl
  requests := (r.planned o).function_requests o
  fields := ⟨_, _, rfl, (r.planned o).request_isSome_iff o, r.gives o hTypes⟩

/-! ### What is told of a run -/

/-- A text that is wrong is read as far as the first thing wrong. -/
theorem Document.parse_eq_error {text : String} {e : InvalidDocument} :
    parse text = .error e ↔ (ofString text).result = .error e.fault := by
  rw [parse]
  cases (ofString text).result with
  | ok d => simp
  | error fault =>
      rcases e with ⟨other⟩
      simp

namespace Client

theorem title_ofDocument (d : Document) (o : Options) : (ofDocument d o).title = d.info.title := by
  rw [ofDocument]
  cases o.naming <;> rfl

/-- Each function of a client is told of. -/
theorem isToldAs_ofDocument (d : Document) (o : Options) :
    List.Forall₂ (fun r (p : Function × Event) =>
        r.IsToldAs o ((ofDocument d o).script o).types p.1 p.2) d.routes
      ((ofDocument d o).calls.map fun c => (c.function o, .plannedCall c)) := by
  have hCalls : (ofDocument d o).calls = d.routes.map (·.planned o) := calls_ofDocument d o
  rw [hCalls, List.map_map, List.forall₂_map_right_iff, List.forall₂_same]
  intro r hr
  refine r.isToldAs o fun declaration hd => ?_
  change declaration ∈ (ofDocument d o).calls.flatMap Call.declarations
  rw [hCalls, List.flatMap_map]
  exact List.mem_flatMap.mpr ⟨r, hr, hd⟩

/-- The events of a run tell of its text and of its client. In the order of the text, each member of
a path item that is no method is told of, also if a later entry takes the place of that path item;
if the text is wrong, then just those in front of what is wrong, and nothing else is told. Otherwise
each function of the client is told of in its order, and last, how many operations the client is
for. -/
theorem events_tell (text : String) (o : Options) :
    (Document.skippedKeys text).Pairwise (·.place < ·.place) ∧
    match Document.parse text with
    | .error e => generate text o = .error e ∧
        Document.events text o = ((Document.skippedKeys text).filter
          (·.place ≤ e.fault.position)).map (Event.skippedKey ·.name)
    | .ok d => ∃ told : List (Function × Event),
        generate text o = .ok ⟨((ofDocument d o).script o).render, told.length⟩ ∧
        ((ofDocument d o).script o).callables = told.map (·.1) ∧
        List.Forall₂ (fun r p => r.IsToldAs o ((ofDocument d o).script o).types p.1 p.2)
          d.routes told ∧
        Document.events text o = (Document.skippedKeys text).map (Event.skippedKey ·.name) ++
          told.map (·.2) ++ [⟨.debug, "a2i_core::openapi::emitter", "Normalized OpenAPI document.",
            [("title", .shown d.info.title), ("operations", .ofNat told.length)]⟩] := by
  obtain ⟨q, -, hNames, hRemarks⟩ := Document.notes_ofString text
  refine ⟨hNames.sorted, ?_⟩
  cases hParse : Document.parse text with
  | error e =>
      rw [Document.parse_eq_error.mp hParse] at hRemarks
      refine ⟨by rw [generate, hParse], ?_⟩
      rw [Document.events, hRemarks, hParse, List.map_map]
      exact List.append_nil _
  | ok d =>
      rw [Document.parse_eq_ok.mp hParse, filter_reaches_ok] at hRemarks
      have hLength : d.routes.length = (ofDocument d o).calls.length := by
        rw [calls_ofDocument, List.length_map]
      refine ⟨(ofDocument d o).calls.map fun c => (c.function o, .plannedCall c), ?_, ?_,
        isToldAs_ofDocument d o, ?_⟩
      · rw [generate, hParse, List.length_map, ← hLength]
        rfl
      · rw [callables_script, List.map_map]
        rfl
      · have hTold : ((ofDocument d o).calls.map fun c => (c.function o, Event.plannedCall c)).map
            (·.2) = (ofDocument d o).calls.map Event.plannedCall := by
          rw [List.map_map]
          rfl
        rw [Document.events, hRemarks, hParse, List.map_map, hTold, List.length_map,
          List.append_assoc, ← title_ofDocument d o]
        rfl

end Client

end TypedClient
