import TypedClient.Client.Module
import TypedClient.Proofs.Schema.References

/-!
The type names in the script of a client. Main statement: if every reference of a description
points to a shared schema, then every name that a type of the script mentions is declared in it.
-/

namespace TypedClient

open Script

/-! ### What a call mentions -/

namespace Call

/-- The names of the declarations that a call needs. -/
def declaredNames (c : Call) : List String :=
  c.declarations.map (·.name)

theorem requestType?_names (c : Call) :
    c.requestType?.toList.flatMap TypeExpr.names ⊆ c.declaredNames := by
  intro name hName
  obtain ⟨type, hType, hMem⟩ := List.mem_flatMap.mp hName
  rw [Option.mem_toList, requestType?, Option.map_eq_some_iff] at hType
  obtain ⟨d, hRequest, rfl⟩ := hType
  rw [List.mem_singleton.mp hMem, declaredNames, List.mem_map]
  refine ⟨d, List.mem_append_left _ ?_, rfl⟩
  rw [hRequest]
  exact List.mem_cons_self ..

theorem answerType?_names (c : Call) :
    c.answer.type?.toList.flatMap TypeExpr.names ⊆ c.declaredNames := by
  intro name hName
  rw [declaredNames, declarations, List.map_append]
  apply List.mem_append_right
  cases hAnswer : c.answer with
  | untyped =>
      rw [hAnswer] at hName
      exact absurd hName List.not_mem_nil
  | text =>
      rw [hAnswer] at hName
      exact absurd hName List.not_mem_nil
  | whole d =>
      rw [hAnswer] at hName
      simpa [Answer.type?, Answer.declaration?, TypeExpr.names] using hName
  | enveloped d =>
      rw [hAnswer] at hName
      simpa [Answer.type?, Answer.declaration?, TypeExpr.names] using hName

/-- What is requested mentions no type. -/
theorem requestConfig_typeNames (c : Call) (o : Options) :
    (c.requestConfig o).typeNames = [] := by
  have hAddress : (c.addressExpr o).typeNames = [] := by
    rw [addressExpr]
    split <;> rfl
  have hParams : propertyTypeNames (c.paramsProperty o) = [] := by
    rw [paramsProperty]
    split
    · cases o.params <;> rfl
    · rfl
  rw [requestConfig, Expr.typeNames]
  simp only [List.cons_append, List.nil_append, propertyTypeNames, hAddress, hParams,
    Expr.typeNames]

/-- A function mentions only what its own call declares, and the built-in promise. -/
theorem function_typeNames (c : Call) (o : Options) :
    (c.function o).typeNames ⊆ promiseName :: c.declaredNames := by
  have hAnswer := c.answerType?_names
  have hResult : (c.function o).result.typeNames ⊆ promiseName :: c.declaredNames := by
    rw [function]
    cases hType : c.answer.type? with
    | none => exact List.nil_subset _
    | some type =>
        rw [hType] at hAnswer
        simpa [Result.typeNames] using List.subset_cons_of_subset promiseName hAnswer
  have hParameters : (c.function o).parameters.flatMap (·.type.names) ⊆ c.declaredNames := by
    have hRequest := c.requestType?_names
    rw [function]
    cases hType : c.requestType? with
    | none => exact List.nil_subset _
    | some type =>
        rw [hType] at hRequest
        exact hRequest
  have hBody : blockTypeNames (c.function o).body ⊆ c.declaredNames := by
    rw [function, statements]
    simp only [blockTypeNames, Statement.typeNames, Expr.typeNames, argumentTypeNames,
      requestConfig_typeNames, List.append_nil, List.nil_append]
    simpa using hAnswer
  rw [Function.typeNames]
  exact List.append_subset.mpr ⟨List.append_subset.mpr
    ⟨List.subset_cons_of_subset _ hParameters, hResult⟩, List.subset_cons_of_subset _ hBody⟩

end Call

/-! ### What declarations mention -/

/-- A declaration without parameters that mentions no other than the given names. -/
def Script.Declaration.MentionsOnly (names : List String) (d : Declaration) : Prop :=
  d.parameters = [] ∧ d.body.names ⊆ names

/-- The declaration with every name in its types replaced, and its own name as it was. -/
def Script.Declaration.mapBody (f : String → String) (d : Declaration) : Declaration :=
  { d with body := d.body.mapNames f }

theorem Script.Declaration.MentionsOnly.mapBody {names : List String} {d : Declaration}
    (h : d.MentionsOnly names) (f : String → String) :
    (d.mapBody f).MentionsOnly (names.map f) := by
  refine ⟨h.1, ?_⟩
  rw [Declaration.mapBody, DeclarationBody.names_mapNames]
  exact List.map_subset f h.2

theorem Script.Declaration.MentionsOnly.mono {names more : List String} {d : Declaration}
    (h : d.MentionsOnly names) (hMore : names ⊆ more) : d.MentionsOnly more :=
  ⟨h.1, List.Subset.trans h.2 hMore⟩

theorem Call.declarations_mapNames (f : String → String) (c : Call) :
    (c.mapNames f).declarations = c.declarations.map (·.mapBody f) := by
  rcases c with ⟨path, method, summary, name, request, answer⟩
  cases request <;> cases answer <;> rfl

theorem Client.declarations_mapNames (f : String → String) (c : Client) :
    (c.mapNames f).declarations = c.declarations.map (·.mapBody f) := by
  rw [declarations, declarations, mapNames, List.flatMap_map, List.map_flatMap]
  simp only [Call.declarations_mapNames]

theorem Script.Declaration.mapBody_eq_self {f : String → String} {d : Declaration}
    (h : ∀ name ∈ d.body.names, f name = name) : d.mapBody f = d := by
  rw [mapBody, d.body.mapNames_eq_self h]

theorem Answer.mapNames_eq_self {f : String → String} {a : Answer}
    (h : ∀ d ∈ a.declaration?, ∀ name ∈ d.body.names, f name = name) : a.mapNames f = a := by
  cases a with
  | untyped => rfl
  | text => rfl
  | whole d => exact congrArg whole (Declaration.mapBody_eq_self (h d rfl))
  | enveloped d => exact congrArg enveloped (Declaration.mapBody_eq_self (h d rfl))

theorem Call.mapNames_eq_self {f : String → String} {c : Call}
    (h : ∀ d ∈ c.declarations, ∀ name ∈ d.body.names, f name = name) : c.mapNames f = c := by
  have hRequest : c.request.map (·.mapBody f) = c.request := by
    cases hd : c.request with
    | none => rfl
    | some d =>
        have hMem : d ∈ c.request.toList := by rw [hd]; exact List.mem_singleton.mpr rfl
        exact congrArg some
          (Declaration.mapBody_eq_self (h d (List.mem_append_left _ hMem)))
  have hAnswer : c.answer.mapNames f = c.answer := Answer.mapNames_eq_self fun d hd =>
    h d (List.mem_append_right _ (Option.mem_toList.mpr hd))
  calc c.mapNames f
      = { c with request := c.request.map (·.mapBody f), answer := c.answer.mapNames f } := rfl
    _ = c := by rw [hRequest, hAnswer]

/-- The declarations of an operation mention only names of references in it. -/
theorem Route.mentionsOnly_of_mem_declarations {r : Route} {style : NamingStyle}
    {d : Declaration} (h : d ∈ (r.call style).declarations) :
    d.MentionsOnly (r.operation.references.map referenceName) := by
  rcases List.mem_append.mp h with hRequest | hAnswer
  · rw [Option.mem_toList, call, Option.map_eq_some_iff] at hRequest
    obtain ⟨s, hSchema, rfl⟩ := hRequest
    refine ⟨rfl, List.Subset.trans s.names_members (List.map_subset _ ?_)⟩
    exact Operation.references_of_requestSchema? hSchema
  · rw [Option.mem_toList, call] at hAnswer
    dsimp only at hAnswer
    unfold answer at hAnswer
    split at hAnswer
    · exact absurd hAnswer (by simp [Answer.declaration?])
    · next s hSchema =>
        have hWhole := Operation.references_of_responseSchema? hSchema
        split at hAnswer
        · next data hData =>
            cases hAnswer
            refine ⟨rfl, List.Subset.trans data.names_members (List.map_subset _ ?_)⟩
            exact List.Subset.trans (references_of_envelopeData? hData) hWhole
        · split at hAnswer
          · exact absurd hAnswer (by simp [Answer.declaration?])
          · cases hAnswer
            exact ⟨rfl, List.Subset.trans s.names_members (List.map_subset _ hWhole)⟩

/-- The declaration of a shared schema mentions only names of references in it. -/
theorem Schema.shared_mentionsOnly (name : String) (s : Schema) :
    (s.shared name).MentionsOnly (s.references.map referenceName) := by
  rw [shared]
  split
  · exact ⟨rfl, s.names_members⟩
  · exact ⟨rfl, s.names_typeExpr⟩

theorem Schema.shared_name (name : String) (s : Schema) : (s.shared name).name = name := by
  rw [shared]
  split <;> rfl

namespace Document

/-- The declarations of the shared schemas, with their names as they are. -/
def sharedDeclarations (d : Document) : List Declaration :=
  (d.schemas.getD []).map fun entry => entry.2.shared entry.1

theorem sharedDeclarations_names (d : Document) :
    d.sharedDeclarations.map (·.name) = d.schemaNames := by
  rw [sharedDeclarations, schemaNames, List.map_map]
  apply List.map_congr_left
  intro entry _
  exact entry.2.shared_name entry.1

/-- Every reference points to a shared schema: it ends in a slash and the name of one, in which no
further slash stands. -/
def ReferencesResolve (d : Document) : Prop :=
  ∀ reference ∈ d.references, ∃ key ∈ d.schemaNames, '/' ∉ key.toList ∧
    ∃ front, reference = front ++ "/" ++ key

/-- A name without a slash is what follows the last slash in front of it. -/
theorem referenceName_append {front key : String} (h : '/' ∉ key.toList) :
    referenceName (front ++ "/" ++ key) = key := by
  have hTake : (key.toList.reverse ++ '/' :: front.toList.reverse).takeWhile (· ≠ '/') =
      key.toList.reverse := by
    rw [List.takeWhile_append_of_pos]
    · simp
    · intro c hc
      have hNe : c ≠ '/' := by
        rintro rfl
        exact h (List.mem_reverse.mp hc)
      simpa using hNe
  have hText : (front ++ "/" ++ key).toList.reverse =
      key.toList.reverse ++ '/' :: front.toList.reverse := by simp
  rw [referenceName, Text.afterLast, hText, hTake, List.reverse_reverse, String.ofList_toList]

theorem ReferencesResolve.names_subset {d : Document} (h : d.ReferencesResolve) :
    d.references.map referenceName ⊆ d.schemaNames := by
  intro name hName
  obtain ⟨reference, hReference, rfl⟩ := List.mem_map.mp hName
  obtain ⟨key, hKey, hSlash, front, rfl⟩ := h reference hReference
  rw [referenceName_append hSlash]
  exact hKey

theorem plain_mentionsOnly (d : Document) (o : Options) :
    ∀ declaration ∈ d.sharedDeclarations ++ (Client.plain d o).declarations,
      declaration.MentionsOnly (d.references.map referenceName) := by
  intro declaration hMem
  rw [references, List.map_append]
  rcases List.mem_append.mp hMem with hShared | hCalls
  · obtain ⟨⟨name, s⟩, hEntry, rfl⟩ := List.mem_map.mp hShared
    refine (s.shared_mentionsOnly name).mono (List.subset_append_of_subset_right _ ?_)
    exact List.map_subset _ (propertyReferences_of_mem hEntry)
  · obtain ⟨call, hCall, hDeclaration⟩ := List.mem_flatMap.mp hCalls
    obtain ⟨r, hRoute, rfl⟩ := List.mem_map.mp hCall
    refine (Route.mentionsOnly_of_mem_declarations hDeclaration).mono
      (List.subset_append_of_subset_left _ (List.map_subset _ ?_))
    intro reference hReference
    exact List.mem_flatMap.mpr ⟨r, hRoute, hReference⟩

end Document

/-! ### The whole script -/

/-- Every type name in a script stands for something: `shared` are the declarations whose text is
its block of shared declarations. -/
structure Script.Module.NamesResolve (m : Module) (shared : List Declaration) : Prop where
  components : m.components = Text.joined "\n" (shared.map Declaration.render)
  declarations : ∀ d ∈ shared ++ m.types,
    d.MentionsOnly ((shared ++ m.types).map (·.name))
  baseTypes : ∀ d ∈ m.baseTypes, d.body.names ⊆ d.parameters
  functions : ∀ f ∈ m.functions,
    f.typeNames ⊆ promiseName :: (shared ++ m.types).map (·.name)

namespace Client

/-- A script mentions only what it declares if its declarations do; its functions mention nothing
but declarations of calls. -/
theorem script_namesResolve {c : Client} (o : Options) {shared : List Declaration}
    (hShared : c.shared = .declared shared)
    (hDeclarations : ∀ d ∈ shared ++ c.declarations, d.MentionsOnly (shared.map (·.name))) :
    (c.script o).NamesResolve shared where
  components := by rw [script, hShared, Shared.render]
  declarations := by
    intro d hMem
    refine (hDeclarations d hMem).mono ?_
    rw [List.map_append]
    exact List.subset_append_left _ _
  baseTypes := by
    intro d hMem
    rw [List.mem_singleton.mp hMem]
    decide
  functions := by
    intro f hMem
    rw [List.map_append]
    rcases List.mem_append.mp hMem with hHelper | hCall
    · split at hHelper
      · rw [List.mem_singleton.mp hHelper]
        exact List.nil_subset _
      · exact absurd hHelper List.not_mem_nil
    · obtain ⟨call, hMemCall, rfl⟩ := List.mem_map.mp hCall
      refine List.Subset.trans (call.function_typeNames o) (List.cons_subset_cons _ ?_)
      refine List.subset_append_of_subset_right _ ?_
      intro name hName
      obtain ⟨d, hDeclaration, rfl⟩ := List.mem_map.mp hName
      exact List.mem_map_of_mem (List.mem_flatMap.mpr ⟨call, hMemCall, hDeclaration⟩)

theorem ofDocument_shared (d : Document) {o : Options} (hShared : o.shared = .declared) :
    (ofDocument d o).shared = .declared (match o.naming with
      | .preserve => d.sharedDeclarations
      | .sanitized => d.sharedDeclarations.map fun declaration =>
        { declaration.mapBody Naming.typeName with name := Naming.typeName declaration.name }) := by
  rw [ofDocument]
  cases o.naming with
  | preserve => simp only [plain, hShared, Document.sharedDeclarations]
  | sanitized =>
      simp only [mapNames, plain, hShared, Document.sharedDeclarations, Shared.mapNames,
        Declaration.mapBody]

/-- If every reference of a description points to a shared schema and the shared schemas are
declared, then every type name in the script of its client is the name of a declaration in it. The
envelope mentions its own parameter, and functions besides mention the built-in promise. -/
theorem ofDocument_names_resolve (d : Document) (o : Options) (hShared : o.shared = .declared)
    (hReferences : d.ReferencesResolve) :
    ∃ shared, (ofDocument d o).shared = .declared shared ∧
      ((ofDocument d o).script o).NamesResolve shared := by
  refine ⟨_, ofDocument_shared d hShared, script_namesResolve o (ofDocument_shared d hShared) ?_⟩
  have hPlain : ∀ declaration ∈ d.sharedDeclarations ++ (plain d o).declarations,
      declaration.MentionsOnly (d.sharedDeclarations.map (·.name)) := by
    intro declaration hMem
    rw [d.sharedDeclarations_names]
    exact (d.plain_mentionsOnly o declaration hMem).mono hReferences.names_subset
  rw [ofDocument]
  cases o.naming with
  | preserve => exact hPlain
  | sanitized =>
      intro declaration hMem
      dsimp only at hMem ⊢
      rw [declarations_mapNames] at hMem
      have hNames : (d.sharedDeclarations.map fun declaration =>
          { declaration.mapBody Naming.typeName with
            name := Naming.typeName declaration.name }).map (·.name) =
          (d.sharedDeclarations.map (·.name)).map Naming.typeName := by
        rw [List.map_map, List.map_map]
        rfl
      rw [hNames]
      rcases List.mem_append.mp hMem with hMem | hMem
      · obtain ⟨before, hBefore, rfl⟩ := List.mem_map.mp hMem
        exact (hPlain before (List.mem_append_left _ hBefore)).mapBody Naming.typeName
      · obtain ⟨before, hBefore, rfl⟩ := List.mem_map.mp hMem
        exact (hPlain before (List.mem_append_right _ hBefore)).mapBody Naming.typeName

/-- Pages of users: one shared schema refers to itself and to another, from inside a list, and its
name cannot stand in a script as it is. -/
def pages : Document :=
  let user : Schema := ⟨some "#/components/schemas/User", none, none, none, []⟩
  let page : Schema := ⟨some "#/components/schemas/Page<User>", none, none, none, []⟩
  let users : Schema := ⟨none, some (.named "array"), some user, none, []⟩
  let envelope : Schema := ⟨none, some (.named "object"), none,
    some [("success", user), ("code", users), ("data", users)], []⟩
  ⟨⟨"Pages", "1"⟩,
    [("/pages/\x7bid\x7d",
      [(.get, ⟨none, some ⟨[(jsonMediaType, ⟨some page⟩)]⟩,
        [("201", ⟨[(jsonMediaType, ⟨some envelope⟩)]⟩)]⟩)])],
    some [
      ("Page<User>",
        ⟨none, some (.named "object"), none, some [("next", page), ("items", users)], []⟩),
      ("User", ⟨none, some (.named "string"), none, none, []⟩)]⟩

theorem pages_names_resolve :
    pages.ReferencesResolve ∧
      ∃ shared, (ofDocument pages ⟨.sanitized, .structured, "/", .declared⟩).shared =
          .declared shared ∧
        ((ofDocument pages ⟨.sanitized, .structured, "/", .declared⟩).script
          ⟨.sanitized, .structured, "/", .declared⟩).NamesResolve shared := by
  have hResolve : pages.ReferencesResolve := by
    intro reference hReference
    have hEither : reference = "#/components/schemas/Page<User>" ∨
        reference = "#/components/schemas/User" := by
      have hAll : pages.references.all fun r => r = "#/components/schemas/Page<User>" ||
          r = "#/components/schemas/User" := by decide
      simpa using List.all_eq_true.mp hAll reference hReference
    rcases hEither with rfl | rfl
    · exact ⟨"Page<User>", by decide, by decide, "#/components/schemas", by decide⟩
    · exact ⟨"User", by decide, by decide, "#/components/schemas", by decide⟩
  exact ⟨hResolve, ofDocument_names_resolve pages ⟨.sanitized, .structured, "/", .declared⟩ rfl
    hResolve⟩

end Client

end TypedClient
