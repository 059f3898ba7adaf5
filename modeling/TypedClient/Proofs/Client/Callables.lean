import Mathlib.Data.List.TakeWhile
import TypedClient.Client.Generate
import TypedClient.Proofs.Document.Written
import TypedClient.Proofs.Json.Denoted

/-!
The functions of a client against the operations in the text of its description. Main statement:
behind at most one helper there is exactly one function for each operation that stands in the
text, in the same order, and it requests what the operation says.
-/

namespace TypedClient

open Json Script

/-! ### Requests -/

/-- What a function requests: the settings that its body hands to `axios.request`. -/
def Script.Function.requested? (f : Function) : Option (List (String × Expr)) :=
  match f.body with
  | .attempt (.const _ (.await (.call (.member (.name "axios") "request") _
      [.object config])) :: _) _ _ :: _ => some config
  | _ => none

/-- A method is requested by its word in capitals. -/
theorem Method.wire_eq (m : Method) :
    m.wire = String.ofList (m.lower.toList.map Char.toUpper) := by
  cases m <;> decide

/-- What stands in front of the characters `c` at the end of a text. -/
structure Text.IsFrontOf (c : Char) (s front : String) : Prop where
  split : ∃ n, s.toList = front.toList ++ List.replicate n c
  bare : front.toList.getLast? ≠ some c

theorem Text.dropEnd_isFrontOf (c : Char) (s : String) : IsFrontOf c s (dropEnd c s) where
  split := by
    refine ⟨(s.toList.reverse.takeWhile (· = c)).length, ?_⟩
    have hRun : s.toList.reverse.takeWhile (· = c) =
        List.replicate (s.toList.reverse.takeWhile (· = c)).length c := by
      apply List.eq_replicate_of_mem
      intro d hd
      simpa using List.mem_takeWhile_imp hd
    rw [← List.reverse_replicate, ← hRun, dropEnd, String.toList_ofList, ← List.reverse_append,
      List.takeWhile_append_dropWhile, List.reverse_reverse]
  bare := by
    rw [dropEnd, String.toList_ofList, List.getLast?_reverse]
    intro hHead
    have hNot := List.head?_dropWhile_not (· = c) s.toList.reverse
    rw [hHead] at hNot
    simp at hNot

namespace WrittenOperation

/-- Whether JSON is sent with an operation: it stands in the text with a schema. -/
def sendsJson (w : WrittenOperation) : Bool :=
  (Operation.writtenRequestSchema? w.value).isSome

/-- Whether parameters are put into the path of an operation. -/
def fillsPath (w : WrittenOperation) : Bool :=
  w.sendsJson && Call.hasParameters w.path

/-- The address of an operation behind a base path, as it is requested. -/
def addressExpr (w : WrittenOperation) (base : String) : Expr :=
  if w.fillsPath then .call (.name fillPathName) [] [.text (base ++ w.path), .name paramsName]
  else .text (base ++ w.path)

/-- The setting that carries what is sent with an operation. -/
def paramsProperty (w : WrittenOperation) (o : Options) : List (String × Expr) :=
  if w.sendsJson then
    [(if w.method = .get ∨ w.method = .delete then "params" else "data", Call.paramsExpr o.params)]
  else []

/-- A function is offered for an operation behind a base path. -/
structure IsOfferedAs (w : WrittenOperation) (o : Options) (base : String) (f : Function) :
    Prop where
  name : f.name = Naming.derive .function w.method w.path o.naming
  exported : f.exported = true
  isAsync : f.isAsync = true
  parameters : f.parameters.map (·.name) = if w.sendsJson then [paramsName] else []
  requested : f.requested? = some ([
    ("url", w.addressExpr base),
    ("method", .text (String.ofList (w.method.lower.toList.map Char.toUpper))),
    ("headers", .object [("Content-Type", .text jsonMediaType)])] ++ w.paramsProperty o)

end WrittenOperation

/-! ### Functions -/

/-- What a call requests does not depend on the names of shared schemas. -/
theorem Call.function_mapNames (f : String → String) (c : Call) (o : Options) :
    (c.mapNames f).function o = c.function o := by
  rcases c with ⟨path, method, summary, name, request, answer⟩
  cases request <;> cases answer <;> rfl

theorem Call.fillsPath_mapNames (f : String → String) (c : Call) :
    (c.mapNames f).fillsPath = c.fillsPath := by
  rcases c with ⟨path, method, summary, name, request, answer⟩
  cases request <;> rfl

theorem Client.functions_mapNames (f : String → String) (c : Client) (o : Options) :
    (c.mapNames f).functions o = c.functions o := by
  rw [functions, functions, mapNames]
  dsimp only
  rw [List.any_map, List.map_map]
  simp only [Function.comp_def, Call.function_mapNames, Call.fillsPath_mapNames]

/-- A client has a function for each route, and the helper if one of them needs it. -/
theorem Client.functions_ofDocument (d : Document) (o : Options) :
    (ofDocument d o).functions o =
      (if d.routes.any fun r => (r.call o.naming).fillsPath then [fillPath] else []) ++
        d.routes.map fun r => (r.call o.naming).function o := by
  have hPlain : (plain d o).functions o =
      (if d.routes.any fun r => (r.call o.naming).fillsPath then [fillPath] else []) ++
        d.routes.map fun r => (r.call o.naming).function o := by
    rw [functions, plain]
    dsimp only
    rw [List.any_map, List.map_map]
    rfl
  rw [← hPlain, ofDocument]
  cases o.naming with
  | preserve => rfl
  | sanitized => exact functions_mapNames _ _ o

/-- The functions of a script but for the helper, which is for themselves. -/
def Script.Module.callables (m : Module) : List Function :=
  m.functions.filter (·.exported)

theorem Client.callables_script (c : Client) (o : Options) :
    (c.script o).callables = c.calls.map (·.function o) := by
  have hHelper : ∀ b : Bool, (if b then [fillPath] else []).filter (·.exported) = [] := by decide
  rw [Module.callables, script, functions, List.filter_append, hHelper, List.nil_append,
    List.filter_eq_self]
  intro f hf
  obtain ⟨call, -, rfl⟩ := List.mem_map.mp hf
  rfl

theorem Client.callables_ofDocument (d : Document) (o : Options) :
    ((ofDocument d o).script o).callables =
      d.routes.map fun r => (r.call o.naming).function o := by
  rw [callables_script, ofDocument]
  cases hStyle : o.naming with
  | preserve =>
      rw [plain, List.map_map, hStyle]
      rfl
  | sanitized =>
      dsimp only
      rw [mapNames, plain, List.map_map, List.map_map, hStyle]
      simp only [Function.comp_def, Call.function_mapNames]

namespace WrittenOperation.IsReadAs

variable {w : WrittenOperation} {r : Route}

theorem request_isSome (h : w.IsReadAs r) (style : NamingStyle) :
    (r.call style).request.isSome = w.sendsJson := by
  rw [Route.call, sendsJson, Option.isSome_map]
  exact Json.rel_isSome h.request

theorem fillsPath_eq (h : w.IsReadAs r) (style : NamingStyle) :
    (r.call style).fillsPath = w.fillsPath := by
  rw [Call.fillsPath, h.request_isSome, fillsPath, Route.call, h.path]

/-- The helper is needed for routes just when it is for the operations that they were read of. -/
theorem any_fillsPath {ws : List WrittenOperation} {rs : List Route}
    (h : List.Forall₂ WrittenOperation.IsReadAs ws rs) (style : NamingStyle) :
    (rs.any fun r => (r.call style).fillsPath) = ws.any WrittenOperation.fillsPath := by
  induction h with
  | nil => rfl
  | cons hHead _ ih => rw [List.any_cons, List.any_cons, ih, hHead.fillsPath_eq]

theorem addressExpr_eq (h : w.IsReadAs r) (o : Options) :
    (r.call o.naming).addressExpr o = w.addressExpr (Text.dropEnd '/' o.basePath) := by
  rw [Call.addressExpr, addressExpr, h.fillsPath_eq, Call.address, Route.call, h.path]

theorem paramsProperty_eq (h : w.IsReadAs r) (o : Options) :
    (r.call o.naming).paramsProperty o = w.paramsProperty o := by
  rw [Call.paramsProperty, paramsProperty, h.request_isSome, Route.call, h.method]
  cases w.method <;> rfl

/-- The function of a route is offered for the operation that it was read of. -/
theorem isOfferedAs (h : w.IsReadAs r) (o : Options) :
    w.IsOfferedAs o (Text.dropEnd '/' o.basePath) ((r.call o.naming).function o) where
  name := by rw [Call.function, Route.call, Route.nameFor, h.path, h.method]
  exported := rfl
  isAsync := rfl
  parameters := by
    rw [← h.request_isSome o.naming, Call.function, Call.requestType?]
    cases (r.call o.naming).request with
    | none => rfl
    | some declaration => rfl
  requested := by
    change some ([("url", (r.call o.naming).addressExpr o), ("method", .text r.method.wire),
      ("headers", .object [("Content-Type", .text jsonMediaType)])] ++
        (r.call o.naming).paramsProperty o) = _
    rw [h.addressExpr_eq, h.paramsProperty_eq, h.method, Method.wire_eq]

end WrittenOperation.IsReadAs

namespace Client

/-- Behind at most one helper, a client has exactly one function for each operation that stands in
the text of its description, in the same order. -/
theorem functions_match_operations {text : String} {d : Document}
    (h : Document.parse text = .ok d) (o : Options) :
    d.operationCount = (Document.writtenOperations text).length ∧
    ∃ (base : String) (calls : List Function), Text.IsFrontOf '/' o.basePath base ∧
      ((ofDocument d o).script o).functions =
        (if (Document.writtenOperations text).any WrittenOperation.fillsPath
          then [fillPath] else []) ++ calls ∧
      List.Forall₂ (fun w f => w.IsOfferedAs o base f) (Document.writtenOperations text) calls := by
  have hRead : (Document.ofString text).result = .ok d := by
    unfold Document.parse at h
    split at h
    · next hResult =>
        cases h
        exact hResult
    · exact absurd h (by simp)
  have hRoutes := Document.forall₂_writtenOperations hRead
  refine ⟨hRoutes.length_eq.symm, _, d.routes.map fun r => (r.call o.naming).function o,
    Text.dropEnd_isFrontOf '/' o.basePath, ?_, ?_⟩
  · rw [script, functions_ofDocument, WrittenOperation.IsReadAs.any_fillsPath hRoutes]
  · rw [List.forall₂_map_right_iff]
    exact hRoutes.imp fun w r hw => hw.isOfferedAs o

/-- A description with one path twice, methods in capitals, and members that are no operations. -/
def visitsJson : Value :=
  .object [("paths", .object [
    ("/visits/\x7bid\x7d", .object [("get", .object [])]),
    ("/visits", .object [("parameters", .null), ("Delete", .object [])]),
    ("/visits/\x7bid\x7d", .object [("POST", .object [("requestBody", .object [("content",
      .object [(jsonMediaType, .object [("schema", .object [])])])])])])])]

/-- What is read of it. -/
def visits : Document :=
  let body : Body := ⟨[(jsonMediaType, ⟨some ⟨none, none, none, none, []⟩⟩)]⟩
  ⟨⟨"", ""⟩, [("/visits/\x7bid\x7d", [(.post, ⟨none, some body, []⟩)]),
    ("/visits", [(.delete, ⟨none, none, []⟩)])], none⟩

theorem parse_visits : Document.parse (visitsJson.render .compact) = .ok visits := by
  have hRead : ∀ t : Tree, t.Denotes visitsJson →
      (Document.read fullRoom t).result = .ok visits := by
    intro t ht
    -- the value determines the tree but for its positions, and these are not looked at
    unfold visitsJson at ht
    repeat' first | cases ‹Tree.Denotes _ _› | cases ‹Members.Denote _ _›
    rfl
  have hFree : visitsJson.NumberFree := by
    simp [visitsJson, Value.NumberFree, Value.NumberFreeMembers]
  have hResult : (Document.ofString (visitsJson.render .compact)).result = .ok visits :=
    readString_render Layout.compact_blank hFree hRead
  rw [Document.parse, hResult]

theorem visits_match_operations :
    Document.parse (visitsJson.render .compact) = .ok visits ∧
    visits.operationCount = (Document.writtenOperations (visitsJson.render .compact)).length ∧
    ∃ (base : String) (calls : List Function), Text.IsFrontOf '/' Options.standard.basePath base ∧
      ((ofDocument visits .standard).script .standard).functions =
        (if (Document.writtenOperations (visitsJson.render .compact)).any
            WrittenOperation.fillsPath
          then [fillPath] else []) ++ calls ∧
      List.Forall₂ (fun w f => w.IsOfferedAs .standard base f)
        (Document.writtenOperations (visitsJson.render .compact)) calls :=
  ⟨parse_visits, functions_match_operations parse_visits .standard⟩

end Client

end TypedClient
