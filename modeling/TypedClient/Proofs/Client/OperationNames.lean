import TypedClient.Proofs.Client.Signatures

/-!
What the names of operations give away. Main statement: a name tells what it is for, the method of
its operation, and what the path has given to it; so operations share the name of a function or of a
type only if their methods are the same, and no name is shared across what names are for.
-/

namespace TypedClient

open Script

/-- A call bears the names that come from the method and the path of an operation. -/
structure Call.IsNamedFor (c : Call) (r : Route) (style : NamingStyle) : Prop where
  method : c.method = r.method
  name : c.name = r.nameFor style .function
  declared : c.declaredNames = r.operation.typeRoles.map fun role => r.nameFor style (.type role)
  sent : ∀ declaration ∈ c.request, declaration.name = r.nameFor style (.type .request)
  given : ∀ declaration ∈ c.answer.declaration?,
    ∃ role, role ≠ .request ∧ declaration.name = r.nameFor style (.type role)

namespace Call

theorem declaredNames_mapNames (f : String → String) (c : Call) :
    (c.mapNames f).declaredNames = c.declaredNames := by
  rw [declaredNames, declaredNames, declarations_mapNames, List.map_map]
  rfl

/-- The names of a call are its own: they do not follow those of shared schemas. -/
theorem IsNamedFor.mapNames {c : Call} {r : Route} {style : NamingStyle} (h : c.IsNamedFor r style)
    (f : String → String) : (c.mapNames f).IsNamedFor r style where
  method := h.method
  name := h.name
  declared := by rw [declaredNames_mapNames, h.declared]
  sent := by
    intro declaration hRequest
    rw [request_mapNames, Option.mem_def, Option.map_eq_some_iff] at hRequest
    obtain ⟨before, hBefore, rfl⟩ := hRequest
    exact h.sent before hBefore
  given := by
    intro declaration hAnswer
    rw [declaration?_mapNames, Option.mem_def, Option.map_eq_some_iff] at hAnswer
    obtain ⟨before, hBefore, rfl⟩ := hAnswer
    exact h.given before hBefore

end Call

theorem Operation.answerRole?_ne_request {op : Operation} {role : TypeRole}
    (h : role ∈ op.answerRole?) : role ≠ .request := by
  rw [answerRole?, Option.mem_def, Option.bind_eq_some_iff] at h
  obtain ⟨s, -, hRole⟩ := h
  split_ifs at hRole with hEnvelope hText
  · rw [← Option.some_inj.mp hRole]
    decide
  · rw [← Option.some_inj.mp hRole]
    decide

theorem Route.call_isNamedFor (r : Route) (style : NamingStyle) :
    (r.call style).IsNamedFor r style where
  method := rfl
  name := rfl
  declared := r.call_declaredNames style
  sent := by
    intro declaration hRequest
    obtain ⟨s, -, rfl⟩ := Option.map_eq_some_iff.mp hRequest
    rfl
  given := by
    intro declaration hAnswer
    have hName : declaration.name ∈ (r.answer style).declaration?.toList.map (·.name) :=
      List.mem_map_of_mem (Option.mem_toList.mpr hAnswer)
    rw [answer_names, List.mem_map] at hName
    obtain ⟨role, hRole, hSame⟩ := hName
    exact ⟨role, Operation.answerRole?_ne_request (Option.mem_toList.mp hRole), hSame.symm⟩

theorem Client.exists_isNamedFor {d : Document} {o : Options} {c : Call}
    (h : c ∈ (ofDocument d o).calls) : ∃ r ∈ d.routes, c.IsNamedFor r o.naming := by
  rw [calls_ofDocument, List.mem_map] at h
  obtain ⟨r, hr, rfl⟩ := h
  exact ⟨r, hr, (r.call_isNamedFor o.naming).mapNames _⟩

namespace Call.IsNamedFor

variable {c c' : Call} {r r' : Route} {style style' : NamingStyle}

theorem method_eq_of_name (h : c.IsNamedFor r style) (h' : c'.IsNamedFor r' style')
    (hName : c.name = c'.name) : c.method = c'.method := by
  rw [h.name, h'.name] at hName
  rw [h.method, h'.method]
  exact (Naming.derive_eq_iff.mp hName).2.1

theorem method_eq_of_declared (h : c.IsNamedFor r style) (h' : c'.IsNamedFor r' style')
    {name : String} (hName : name ∈ c.declaredNames) (hName' : name ∈ c'.declaredNames) :
    c.method = c'.method := by
  rw [h.declared, List.mem_map] at hName
  rw [h'.declared, List.mem_map] at hName'
  obtain ⟨role, -, rfl⟩ := hName
  obtain ⟨role', -, hSame⟩ := hName'
  rw [h.method, h'.method]
  exact (Naming.derive_eq_iff.mp hSame).2.1.symm

theorem sent_name_ne (h : c.IsNamedFor r style) (h' : c'.IsNamedFor r' style')
    {sent given : Declaration} (hSent : sent ∈ c.request)
    (hGiven : given ∈ c'.answer.declaration?) : sent.name ≠ given.name := by
  obtain ⟨role, hRole, hName⟩ := h'.given given hGiven
  rw [h.sent sent hSent, hName]
  intro hSame
  exact hRole (NameRole.type.inj (Naming.derive_eq_iff.mp hSame).1).symm

theorem name_not_mem_declaredNames (h : c.IsNamedFor r style) (h' : c'.IsNamedFor r' style') :
    c.name ∉ c'.declaredNames := by
  rw [h.name, h'.declared, List.mem_map]
  rintro ⟨role, -, hSame⟩
  exact nomatch (Naming.derive_eq_iff.mp hSame).1

end Call.IsNamedFor

namespace Client

/-- Two names are the same just when they are for the same, their methods are the same, and their
paths give the same. So, whatever the descriptions and choices of two clients are, two calls of
theirs have the same method if they share the name of a function or of a declared type; what one
sends is never called like what the other answers, nor a function like a declared type. -/
theorem names_reveal_operations :
    (∀ (role role' : NameRole) (m m' : Method) (path path' : String) (style style' : NamingStyle),
      Naming.derive role m path style = Naming.derive role' m' path' style' ↔
        role = role' ∧ m = m' ∧ Naming.pathName style path = Naming.pathName style' path') ∧
    ∀ (d d' : Document) (o o' : Options),
      ∀ c ∈ (ofDocument d o).calls, ∀ c' ∈ (ofDocument d' o').calls,
        (c.name = c'.name → c.method = c'.method) ∧
        (∀ name ∈ c.declaredNames, name ∈ c'.declaredNames → c.method = c'.method) ∧
        (∀ sent ∈ c.request, ∀ given ∈ c'.answer.declaration?, sent.name ≠ given.name) ∧
        c.name ∉ c'.declaredNames := by
  refine ⟨fun role role' m m' path path' style style' => Naming.derive_eq_iff, ?_⟩
  intro d d' o o' c hc c' hc'
  obtain ⟨r, -, h⟩ := exists_isNamedFor hc
  obtain ⟨r', -, h'⟩ := exists_isNamedFor hc'
  exact ⟨h.method_eq_of_name h', fun name => h.method_eq_of_declared h',
    fun sent hSent given => h.sent_name_ne h' hSent, h.name_not_mem_declaredNames h'⟩

/-- Two operations whose paths give the same to names, in words that a method or a role gives as
well. -/
def echoes : Document :=
  let text : Schema := ⟨none, some (.named "object"), none, none, []⟩
  let body : Body := ⟨[(jsonMediaType, ⟨some text⟩)]⟩
  let echo : Operation := ⟨none, some body, [("200", body)]⟩
  ⟨⟨"", ""⟩, [("/data/get-request", [(.get, echo)]), ("/data_get/request", [(.get, echo)])], none⟩

theorem echoes_names_reveal :
    Naming.derive (.type .response) .get "/data/get-request" .sanitized =
      Naming.derive (.type .response) .get "/data/Get/request" .preserve ∧
    ∃ c ∈ (ofDocument echoes sanitizing).calls, ∃ c' ∈ (ofDocument echoes sanitizing).calls,
      c.path ≠ c'.path ∧ c.name = c'.name ∧ c.method = c'.method ∧
        (∃ sent ∈ c.request, ∃ given ∈ c'.answer.declaration?, sent.name ≠ given.name) ∧
        c.name ∉ c'.declaredNames := by
  obtain ⟨hNames, hCalls⟩ := names_reveal_operations
  refine ⟨(hNames ..).mpr ⟨rfl, rfl, by decide⟩, _, List.mem_cons_self .., _,
    List.mem_cons_of_mem _ (List.mem_cons_self ..), by decide, by decide, ?_, ?_, ?_⟩
  · exact (hCalls echoes echoes sanitizing sanitizing _ (List.mem_cons_self ..) _
      (List.mem_cons_of_mem _ (List.mem_cons_self ..))).1 (by decide)
  · exact ⟨_, rfl, _, rfl, (hCalls echoes echoes sanitizing sanitizing _ (List.mem_cons_self ..) _
      (List.mem_cons_of_mem _ (List.mem_cons_self ..))).2.2.1 _ rfl _ rfl⟩
  · exact (hCalls echoes echoes sanitizing sanitizing _ (List.mem_cons_self ..) _
      (List.mem_cons_of_mem _ (List.mem_cons_self ..))).2.2.2

end Client

end TypedClient
