import TypedClient.Proofs.Client.Signatures
import TypedClient.Proofs.Document.Joined

/-!
Operations on their own. Main statement: the script for the paths of two descriptions together has
the types and the functions of the one followed by those of the other, down to their text; all that
is shared is the helper, which is there if either needs it, and the list of exports. So each path
contributes the same, whatever stands beside it.
-/

namespace TypedClient

open Json Script

namespace Client

/-! ### Exports -/

theorem distinct_append_single (names : List String) (name : String) :
    distinct (names ++ [name]) = distinct names ++ if name ∈ names then [] else [name] := by
  induction names with
  | nil => rfl
  | cons n ns ih =>
      rw [List.cons_append, distinct, distinct, ih, List.filter_append, List.cons_append]
      congr 2
      by_cases hRest : name ∈ ns
      · simp [hRest]
      · by_cases hFirst : name = n <;> simp [hRest, hFirst]

/-- Of each name the first place is kept. -/
theorem distinct_eq_eraseDups (names : List String) : distinct names = names.eraseDups := by
  induction names using List.reverseRecOn with
  | nil => rfl
  | append_singleton names name ih =>
      rw [distinct_append_single, Keyed.eraseDups_append_single, ih]

/-- No operation brings a name that is that of the envelope: its names begin with a method. -/
theorem derive_ne_baseResponseName (role : NameRole) (m : Method) (path : String)
    (style : NamingStyle) : Naming.derive role m path style ≠ baseResponseName := by
  intro h
  have hFront := congrArg String.toList h
  rw [Naming.derive_toList] at hFront
  cases role <;> cases m <;>
    simp [Naming.front, Method.lower, Method.capital, baseResponseName] at hFront

theorem baseResponseName_not_mem_names (d : Document) (o : Options) :
    baseResponseName ∉ (ofDocument d o).declarations.map (·.name) := by
  rw [declarations_ofDocument_names]
  intro h
  obtain ⟨r, -, hRole⟩ := List.mem_flatMap.mp h
  obtain ⟨role, -, hName⟩ := List.mem_map.mp hRole
  exact derive_ne_baseResponseName _ _ _ _ hName

theorem exports_ofDocument (d : Document) (o : Options) :
    ((ofDocument d o).script o).exports =
      (((ofDocument d o).script o).types.map (·.name)).eraseDups ++ [baseResponseName] := by
  rw [script, exports, distinct_append_single, if_neg (baseResponseName_not_mem_names d o),
    distinct_eq_eraseDups]

/-! ### The helper -/

theorem functions_script (c : Client) (o : Options) :
    (c.script o).functions =
      (if c.calls.any Call.fillsPath then [fillPath] else []) ++ (c.script o).callables := by
  rw [callables_script]
  rfl

/-- The helper is there just when a call needs it. -/
theorem fillPath_mem_functions {c : Client} {o : Options} :
    fillPath ∈ (c.script o).functions ↔ ∃ call ∈ c.calls, call.fillsPath = true := by
  have hCallables : fillPath ∉ (c.script o).callables := by
    intro h
    exact absurd (List.mem_filter.mp h).2 (by decide)
  rw [functions_script, List.mem_append, or_iff_left hCallables, ← List.any_eq_true]
  split
  · next hAny => simp [hAny]
  · next hAny => simp [hAny]

end Client

/-! ### Two scripts in one -/

/-- A script has the operations of two others, one after the other. What it says of them is the
same text. -/
structure Script.Module.Joins (m₁ m₂ m : Module) : Prop where
  types : m.types = m₁.types ++ m₂.types
  callables : m.callables = m₁.callables ++ m₂.callables
  helper : fillPath ∈ m.functions ↔ fillPath ∈ m₁.functions ∨ fillPath ∈ m₂.functions
  exports : m.exports = ((m₁.types ++ m₂.types).map (·.name)).eraseDups ++ [baseResponseName]
  text : ∃ helper : List Function, (helper = [] ∨ helper = [fillPath]) ∧
    m.functions = helper ++ m.callables ∧
    m.render = m.renderHead ++ slot m.components ++
      (titled "Base response type" (m.baseTypes.map Declaration.render) ++
        titled "Operation types"
          (m₁.types.map Declaration.render ++ m₂.types.map Declaration.render) ++
        spaced (helper.map Function.render ++
          (m₁.callables.map Function.render ++ m₂.callables.map Function.render)) ++
        renderExports m.exports)

namespace Client

theorem joins_of_calls {d d₁ d₂ : Document} {o : Options}
    (h : (ofDocument d o).calls = (ofDocument d₁ o).calls ++ (ofDocument d₂ o).calls) :
    Module.Joins ((ofDocument d₁ o).script o) ((ofDocument d₂ o).script o)
      ((ofDocument d o).script o) := by
  have hTypes : ((ofDocument d o).script o).types =
      ((ofDocument d₁ o).script o).types ++ ((ofDocument d₂ o).script o).types := by
    change (ofDocument d o).declarations = _
    rw [declarations, h, List.flatMap_append]
    rfl
  have hCallables : ((ofDocument d o).script o).callables =
      ((ofDocument d₁ o).script o).callables ++ ((ofDocument d₂ o).script o).callables := by
    rw [callables_script, h, List.map_append, callables_script, callables_script]
  refine ⟨hTypes, hCallables, ?_, ?_, _, ?_, functions_script _ o, ?_⟩
  · simp only [fillPath_mem_functions, h, List.mem_append, or_and_right, exists_or]
  · rw [exports_ofDocument, hTypes]
  · split
    · exact .inr rfl
    · exact .inl rfl
  · rw [Module.render, Module.renderBody, functions_script, hTypes, hCallables,
      List.map_append, List.map_append, List.map_append]

/-- The calls of a client go path by path. -/
theorem calls_append {d d₁ d₂ : Document} (h : d.paths = d₁.paths ++ d₂.paths) (o : Options) :
    (ofDocument d o).calls = (ofDocument d₁ o).calls ++ (ofDocument d₂ o).calls := by
  have hRoutes : d.routes = d₁.routes ++ d₂.routes := by
    rw [Document.routes, h, List.flatMap_append]
    rfl
  rw [calls_ofDocument, hRoutes, List.map_append, calls_ofDocument, calls_ofDocument]

theorem routes_flatMap (d : Document) :
    d.routes = d.paths.flatMap fun entry => Document.routes { d with paths := [entry] } := by
  apply List.flatMap_congr
  intro entry _
  exact (List.append_nil _).symm

/-- Each path contributes what it does alone. -/
theorem calls_flatMap (d : Document) (o : Options) :
    (ofDocument d o).calls =
      d.paths.flatMap fun entry => (ofDocument { d with paths := [entry] } o).calls := by
  rw [calls_ofDocument, routes_flatMap, List.map_flatMap]
  simp only [calls_ofDocument]

/-- Where a text has the paths of two others, the calls are those of the two. -/
theorem calls_of_pathOutlines {text text₁ text₂ : String} {d d₁ d₂ : Document}
    (h : Document.parse text = .ok d) (h₁ : Document.parse text₁ = .ok d₁)
    (h₂ : Document.parse text₂ = .ok d₂)
    (hPaths : Document.pathOutlines text =
      Document.pathOutlines text₁ ++ Document.pathOutlines text₂)
    (hDisjoint : ∀ path ∈ (Document.pathOutlines text₁).map (·.1),
      path ∉ (Document.pathOutlines text₂).map (·.1)) (o : Options) :
    (ofDocument d o).calls = (ofDocument d₁ o).calls ++ (ofDocument d₂ o).calls := by
  have hMatch := Document.routes_match_of_pathOutlines h h₁ h₂ hPaths hDisjoint
  have hCalls : d.routes.map (·.call o.naming) = (d₁.routes ++ d₂.routes).map (·.call o.naming) := by
    refine map_eq_map_of_forall₂ (hMatch.imp fun r r' hRoute => ?_)
    apply Route.Matches.call_eq
    apply hRoute.imp
    · intro s s' hLike
      exact hLike.alike.members_eq
    · intro s s' hLike
      exact hLike.sameAnswer
  have hMap := congrArg (List.map (Call.mapNames (Naming.schemaName o.naming))) hCalls
  rw [List.map_map, List.map_map, List.map_append] at hMap
  rw [calls_ofDocument, calls_ofDocument, calls_ofDocument]
  exact hMap

/-- The script for the paths of two descriptions together has the types and the functions of the two
scripts one after the other, with the same text; it has the helper if one of them has it, and
exports each name where it first occurs. So it is for a text that has the paths of two others, if
these have none in common. Whatever stands beside it, each path contributes what it does alone. -/
theorem operations_independent (o : Options) :
    (∀ d d₁ d₂ : Document, d.paths = d₁.paths ++ d₂.paths →
      Module.Joins ((ofDocument d₁ o).script o) ((ofDocument d₂ o).script o)
        ((ofDocument d o).script o)) ∧
    (∀ (text text₁ text₂ : String) (d d₁ d₂ : Document), Document.parse text = .ok d →
      Document.parse text₁ = .ok d₁ → Document.parse text₂ = .ok d₂ →
      Document.pathOutlines text = Document.pathOutlines text₁ ++ Document.pathOutlines text₂ →
      (∀ path ∈ (Document.pathOutlines text₁).map (·.1),
        path ∉ (Document.pathOutlines text₂).map (·.1)) →
      Module.Joins ((ofDocument d₁ o).script o) ((ofDocument d₂ o).script o)
        ((ofDocument d o).script o)) ∧
    (∀ d : Document,
      ((ofDocument d o).script o).types = d.paths.flatMap (fun entry =>
        ((ofDocument { d with paths := [entry] } o).script o).types) ∧
      ((ofDocument d o).script o).callables = d.paths.flatMap (fun entry =>
        ((ofDocument { d with paths := [entry] } o).script o).callables)) := by
  refine ⟨?_, ?_, ?_⟩
  · intro d d₁ d₂ hPaths
    exact joins_of_calls (calls_append hPaths o)
  · intro text text₁ text₂ d d₁ d₂ h h₁ h₂ hPaths hDisjoint
    exact joins_of_calls (calls_of_pathOutlines h h₁ h₂ hPaths hDisjoint o)
  · intro d
    constructor
    · change (ofDocument d o).declarations = d.paths.flatMap fun entry =>
        (ofDocument { d with paths := [entry] } o).declarations
      rw [declarations, calls_flatMap, List.flatMap_assoc]
      rfl
    · simp only [callables_script]
      rw [calls_flatMap, List.map_flatMap]

/-! A shelf of books and a single book, apart and together. -/

/-- What is said of the shelf. -/
def shelfPaths : List (String × Value) :=
  [("/books", .object [("get", .object [("responses", .object [("200", .object [("content",
    .object [(jsonMediaType, .object [("schema", .object [("type", .text "array")])])])])])])])]

/-- What is said of a single book. -/
def bookPaths : List (String × Value) :=
  [("/books/\x7bid\x7d", .object [("delete", .object []), ("put", .object [("requestBody",
    .object [("content", .object [(jsonMediaType, .object [("schema", .object [])])])])])])]

def libraryText (paths : List (String × Value)) : String :=
  (Value.object [("paths", .object paths)]).render .compact

/-- What is read of the shelf. -/
def shelf : Document :=
  let answer : Body := ⟨[(jsonMediaType, ⟨some ⟨none, some (.named "array"), none, none, []⟩⟩)]⟩
  ⟨⟨"", ""⟩, [("/books", [(.get, ⟨none, none, [("200", answer)]⟩)])], none⟩

/-- What is read of a single book. -/
def book : Document :=
  let request : Body := ⟨[(jsonMediaType, ⟨some ⟨none, none, none, none, []⟩⟩)]⟩
  ⟨⟨"", ""⟩, [("/books/\x7bid\x7d", [(.delete, ⟨none, none, []⟩),
    (.put, ⟨none, some request, []⟩)])], none⟩

theorem parse_libraryText {paths : List (String × Value)} {d : Document}
    (hFree : Value.NumberFreeMembers paths)
    (hRead : ∀ t : Tree, t.Denotes (.object [("paths", .object paths)]) →
      (Document.read fullRoom t).result = .ok d) :
    Document.parse (libraryText paths) = .ok d := by
  refine Document.parse_eq_ok.mpr (readString_render Layout.compact_blank ?_ hRead)
  simpa [Value.NumberFree, Value.NumberFreeMembers] using hFree

theorem pathOutlines_libraryText {paths : List (String × Value)}
    (hFree : Value.NumberFreeMembers paths) :
    Document.pathOutlines (libraryText paths) = Value.memberOutlines paths := by
  rw [Document.pathOutlines, libraryText, Outline.ofString_render Layout.compact_blank]
  · rfl
  · simpa [Value.NumberFree, Value.NumberFreeMembers] using hFree

/-- What is read of both. -/
def library : Document :=
  { shelf with paths := shelf.paths ++ book.paths }

theorem parse_shelf : Document.parse (libraryText shelfPaths) = .ok shelf := by
  refine parse_libraryText (by simp [shelfPaths, Value.NumberFree, Value.NumberFreeMembers]) ?_
  intro t ht
  unfold shelfPaths at ht
  repeat' first | cases ‹Tree.Denotes _ _› | cases ‹Members.Denote _ _›
  rfl

theorem parse_book : Document.parse (libraryText bookPaths) = .ok book := by
  refine parse_libraryText (by simp [bookPaths, Value.NumberFree, Value.NumberFreeMembers]) ?_
  intro t ht
  unfold bookPaths at ht
  repeat' first | cases ‹Tree.Denotes _ _› | cases ‹Members.Denote _ _›
  rfl

theorem parse_library : Document.parse (libraryText (shelfPaths ++ bookPaths)) = .ok library := by
  refine parse_libraryText
    (by simp [shelfPaths, bookPaths, Value.NumberFree, Value.NumberFreeMembers]) ?_
  intro t ht
  simp only [shelfPaths, bookPaths, List.cons_append, List.nil_append] at ht
  repeat' first | cases ‹Tree.Denotes _ _› | cases ‹Members.Denote _ _›
  rfl

theorem library_pathOutlines :
    Document.pathOutlines (libraryText (shelfPaths ++ bookPaths)) =
      Document.pathOutlines (libraryText shelfPaths) ++
        Document.pathOutlines (libraryText bookPaths) := by
  rw [pathOutlines_libraryText, pathOutlines_libraryText, pathOutlines_libraryText]
  · rfl
  all_goals simp [shelfPaths, bookPaths, Value.NumberFree, Value.NumberFreeMembers]

theorem library_disjoint :
    ∀ path ∈ (Document.pathOutlines (libraryText shelfPaths)).map (·.1),
      path ∉ (Document.pathOutlines (libraryText bookPaths)).map (·.1) := by
  rw [pathOutlines_libraryText, pathOutlines_libraryText]
  · simp [shelfPaths, bookPaths, Value.memberOutlines]
  all_goals simp [shelfPaths, bookPaths, Value.NumberFree, Value.NumberFreeMembers]

theorem library_operations_independent :
    Module.Joins ((ofDocument book .standard).script .standard)
      ((ofDocument shelf .standard).script .standard)
      ((ofDocument { library with paths := book.paths ++ shelf.paths } .standard).script
        .standard) ∧
    Document.parse (libraryText shelfPaths) = .ok shelf ∧
    Document.parse (libraryText bookPaths) = .ok book ∧
    Document.parse (libraryText (shelfPaths ++ bookPaths)) = .ok library ∧
    Document.pathOutlines (libraryText (shelfPaths ++ bookPaths)) =
      Document.pathOutlines (libraryText shelfPaths) ++
        Document.pathOutlines (libraryText bookPaths) ∧
    Module.Joins ((ofDocument shelf .standard).script .standard)
      ((ofDocument book .standard).script .standard)
      ((ofDocument library .standard).script .standard) ∧
    ((ofDocument library .standard).script .standard).types = library.paths.flatMap fun entry =>
      ((ofDocument { library with paths := [entry] } .standard).script .standard).types :=
  ⟨(operations_independent .standard).1 _ book shelf rfl, parse_shelf, parse_book, parse_library,
    library_pathOutlines,
    (operations_independent .standard).2.1 _ _ _ library shelf book parse_library parse_shelf
      parse_book library_pathOutlines library_disjoint,
    ((operations_independent .standard).2.2 library).1⟩

end Client

end TypedClient
