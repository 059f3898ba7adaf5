import TypedClient.Proofs.Client.Bindings
import TypedClient.Proofs.Client.TypeNames
import TypedClient.Proofs.Naming.Schemas

/-!
The owners of type names. The names in a script come from three sides: the keys of shared schemas,
the operations, and the envelope. Main statement: the list of exports has every name once, and a
shared schema takes no name of the other sides just when it is neither called like the envelope nor
like a type that an operation needs.
-/

namespace TypedClient

open Script

/-! ### Names of a list -/

namespace Client

theorem mem_distinct {name : String} {names : List String} :
    name ∈ distinct names ↔ name ∈ names := by
  induction names with
  | nil => exact Iff.rfl
  | cons n ns ih =>
      rw [distinct, List.mem_cons, List.mem_cons, List.mem_filter, ih, decide_eq_true_eq]
      constructor
      · exact Or.imp_right And.left
      · rintro (hSame | hRest)
        · exact .inl hSame
        · exact or_iff_not_imp_left.mpr fun hOther => ⟨hRest, hOther⟩

theorem nodup_distinct (names : List String) : (distinct names).Nodup := by
  induction names with
  | nil => exact List.nodup_nil
  | cons n ns ih =>
      refine List.nodup_cons.mpr ⟨?_, ih.filter _⟩
      intro h
      exact absurd rfl (of_decide_eq_true (List.mem_filter.mp h).2)

end Client

/-! ### The types of an operation -/

namespace Operation

/-- The type that the answer of an operation needs, unless it has no schema or is mere text. -/
def answerRole? (op : Operation) : Option TypeRole :=
  op.responseSchema?.bind fun s =>
    if s.envelopeData?.isSome then some .responseData
    else if s.kind = .text then none else some .response

/-- The types that an operation needs. -/
def typeRoles (op : Operation) : List TypeRole :=
  (op.requestSchema?.map fun _ => .request).toList ++ op.answerRole?.toList

end Operation

namespace Route

theorem answer_names (r : Route) (style : NamingStyle) :
    (r.answer style).declaration?.toList.map (·.name) =
      r.operation.answerRole?.toList.map fun role => r.nameFor style (.type role) := by
  rw [answer, Operation.answerRole?]
  cases r.operation.responseSchema? with
  | none => rfl
  | some s =>
      dsimp only [Option.bind_some]
      cases s.envelopeData? with
      | some data => rfl
      | none =>
          dsimp only [Option.isSome_none, Bool.false_eq_true, if_false]
          split <;> rfl

theorem call_declaredNames (r : Route) (style : NamingStyle) :
    (r.call style).declaredNames =
      r.operation.typeRoles.map fun role => r.nameFor style (.type role) := by
  rw [Call.declaredNames, Call.declarations, Operation.typeRoles, List.map_append,
    List.map_append]
  congr 1
  · rw [call]
    cases r.operation.requestSchema? <;> rfl
  · exact r.answer_names style

end Route

/-- The names of the types that the operations of a description need, in order. -/
def Document.operationTypeNames (d : Document) (style : NamingStyle) : List String :=
  d.routes.flatMap fun r => r.operation.typeRoles.map fun role => r.nameFor style (.type role)

namespace Client

theorem declarations_ofDocument_names (d : Document) (o : Options) :
    (ofDocument d o).declarations.map (·.name) = d.operationTypeNames o.naming := by
  have hPlain : (plain d o).declarations.map (·.name) = d.operationTypeNames o.naming := by
    rw [declarations, plain, List.flatMap_map, List.map_flatMap, Document.operationTypeNames]
    simp only [← Route.call_declaredNames, Call.declaredNames]
  rw [ofDocument]
  cases hStyle : o.naming with
  | preserve => rw [hPlain, hStyle]
  | sanitized =>
      dsimp only
      rw [declarations_mapNames, List.map_map, ← hStyle, ← hPlain]
      rfl

end Client

/-! ### The types of shared schemas -/

/-- The name under which a shared schema is declared. -/
def Naming.schemaName : NamingStyle → String → String
  | .preserve, key => key
  | .sanitized, key => Naming.typeName key

namespace Naming

/-- A name without underscores at its ends is not made fit from one that lacks those ends. -/
theorem eq_append_of_schemaName {style : NamingStyle} {key front back : String} {middle : List Char}
    (h : (schemaName style key).toList = front.toList ++ middle ++ back.toList)
    (hFront : front.toList ≠ []) (hFrontMark : '_' ∉ front.toList)
    (hBackMark : '_' ∉ back.toList) : ∃ inner, key = front ++ inner ++ back := by
  have hKey : ∃ inner, key.toList = front.toList ++ inner ++ back.toList := by
    cases style with
    | preserve => exact ⟨middle, h⟩
    | sanitized => exact toList_of_typeName h hFront hFrontMark hBackMark
  obtain ⟨inner, hInner⟩ := hKey
  refine ⟨String.ofList inner, ?_⟩
  rw [← String.toList_inj, hInner, String.toList_append, String.toList_append,
    String.toList_ofList]

/-- No other key than that of the envelope is declared like it. -/
theorem schemaName_eq_baseResponseName_iff {style : NamingStyle} {key : String} :
    schemaName style key = baseResponseName ↔ key = baseResponseName := by
  constructor
  · intro h
    cases style with
    | preserve => exact h
    | sanitized => exact eq_of_typeName h (by decide)
  · rintro rfl
    cases style <;> decide

/-- A key that is declared like a type of an operation begins and ends like it. -/
theorem eq_append_of_schemaName_eq_derive {style : NamingStyle} {key path : String} {m : Method}
    {role : TypeRole} (h : schemaName style key = derive (.type role) m path style) :
    ∃ middle, key = m.capital ++ middle ++ role.suffix := by
  rw [← String.toList_inj, derive_toList] at h
  refine eq_append_of_schemaName h ?_ ?_ ?_
  · cases m <;> decide
  · cases m <;> decide
  · cases role <;> decide

end Naming

/-- The names that shared declarations export where they stand. -/
def Shared.exports : Shared → List String
  | .declared ds => (ds.filter (·.exported)).map (·.name)
  | .verbatim _ => []

theorem Schema.shared_exported (name : String) (s : Schema) : (s.shared name).exported = true := by
  rw [shared]
  split <;> rfl

theorem Client.shared_exports_ofDocument (d : Document) {o : Options}
    (hShared : o.shared = .declared) :
    (ofDocument d o).shared.exports = d.schemaNames.map (Naming.schemaName o.naming) := by
  have hExported : ∀ declaration ∈ d.sharedDeclarations, declaration.exported = true := by
    intro declaration hMem
    obtain ⟨entry, -, rfl⟩ := List.mem_map.mp hMem
    exact entry.2.shared_exported entry.1
  rw [ofDocument_shared d hShared, Shared.exports, ← d.sharedDeclarations_names]
  cases o.naming with
  | preserve =>
      dsimp only
      rw [List.filter_eq_self.mpr hExported, List.map_map]
      rfl
  | sanitized =>
      dsimp only
      rw [List.filter_eq_self.mpr ?_, List.map_map, List.map_map]
      · rfl
      · intro declaration hMem
        obtain ⟨before, hBefore, rfl⟩ := List.mem_map.mp hMem
        exact hExported before hBefore

/-! ### The whole script -/

/-- The names belong to others: no declaration of the script has one of them, and none is in its
list of exports. -/
structure Script.Module.KeepsClearOf (m : Module) (names : List String) : Prop where
  declarations : ∀ d ∈ m.baseTypes ++ m.types, d.name ∉ names
  exports : ∀ name ∈ m.exports, name ∉ names

namespace Client

variable (d : Document) (o : Options)

theorem mem_exports_ofDocument {name : String} :
    name ∈ ((ofDocument d o).script o).exports ↔
      name = baseResponseName ∨ name ∈ d.operationTypeNames o.naming := by
  rw [script, exports, mem_distinct, List.mem_append, List.mem_singleton,
    declarations_ofDocument_names, or_comm]

/-- The list of exports has the names of the declarations of the script, and no other. -/
theorem mem_exports_iff_declared {name : String} :
    name ∈ ((ofDocument d o).script o).exports ↔
      ∃ declaration ∈ ((ofDocument d o).script o).baseTypes ++ ((ofDocument d o).script o).types,
        declaration.name = name := by
  rw [mem_exports_ofDocument, ← declarations_ofDocument_names, script, ← List.mem_map,
    List.map_append, List.mem_append]
  exact or_congr_left List.mem_singleton.symm

/-- The names of shared schemas stay clear of those of the script just when no schema is called
like the envelope, and none is declared like a type that an operation needs. -/
theorem keepsClearOf_iff (hShared : o.shared = .declared) :
    ((ofDocument d o).script o).KeepsClearOf (ofDocument d o).shared.exports ↔
      ∀ key ∈ d.schemaNames, key ≠ baseResponseName ∧
        Naming.schemaName o.naming key ∉ d.operationTypeNames o.naming := by
  rw [shared_exports_ofDocument d hShared]
  constructor
  · intro h key hKey
    have hNone : Naming.schemaName o.naming key ∉ ((ofDocument d o).script o).exports :=
      fun hExport => h.exports _ hExport (List.mem_map_of_mem hKey)
    rw [mem_exports_ofDocument, not_or, Naming.schemaName_eq_baseResponseName_iff] at hNone
    exact hNone
  · intro h
    have hExports : ∀ name ∈ ((ofDocument d o).script o).exports,
        name ∉ d.schemaNames.map (Naming.schemaName o.naming) := by
      intro name hName hShare
      obtain ⟨key, hKey, rfl⟩ := List.mem_map.mp hShare
      rw [mem_exports_ofDocument, Naming.schemaName_eq_baseResponseName_iff] at hName
      exact hName.elim (h key hKey).1 (h key hKey).2
    refine ⟨fun declaration hMem => hExports _ ?_, hExports⟩
    exact (mem_exports_iff_declared d o).mpr ⟨declaration, hMem, rfl⟩

/-- A key that is declared like a type that an operation needs has the ends of such a name. -/
theorem eq_append_of_schemaName_mem {key : String}
    (h : Naming.schemaName o.naming key ∈ d.operationTypeNames o.naming) :
    ∃ (m : Method) (role : TypeRole) (middle : String),
      key = m.capital ++ middle ++ role.suffix := by
  obtain ⟨r, -, hRole⟩ := List.mem_flatMap.mp h
  obtain ⟨role, -, hSame⟩ := List.mem_map.mp hRole
  exact ⟨_, role, Naming.eq_append_of_schemaName_eq_derive hSame.symm⟩

/-- Where shared schemas are declared, the list of exports has every name once. The names of
shared schemas stay clear of those of the script just when no schema is called like the envelope,
and none is declared like a type that an operation needs. Whatever the paths are, the second is
sure if no key has the capital of a method in front and the end of a type behind. -/
theorem typeNames_owned_iff (hShared : o.shared = .declared) :
    ((ofDocument d o).script o).exports.Nodup ∧
      (((ofDocument d o).script o).KeepsClearOf (ofDocument d o).shared.exports ↔
        ∀ key ∈ d.schemaNames, key ≠ baseResponseName ∧
          Naming.schemaName o.naming key ∉ d.operationTypeNames o.naming) ∧
      ((∀ key ∈ d.schemaNames, key ≠ baseResponseName ∧
          ∀ (m : Method) (role : TypeRole) (middle : String),
            key ≠ m.capital ++ middle ++ role.suffix) →
        ((ofDocument d o).script o).KeepsClearOf (ofDocument d o).shared.exports) := by
  refine ⟨nodup_distinct _, keepsClearOf_iff d o hShared, fun h => ?_⟩
  refine (keepsClearOf_iff d o hShared).mpr fun key hKey => ⟨(h key hKey).1, fun hName => ?_⟩
  obtain ⟨m, role, middle, hSame⟩ := eq_append_of_schemaName_mem d o hName
  exact (h key hKey).2 m role middle hSame

/-- A shared schema whose key comes near the name of an answer. -/
def orders : Document :=
  let order : Schema := ⟨some "#/components/schemas/Get-OrdersResponse", none, none, none, []⟩
  ⟨⟨"Orders", "1"⟩,
    [("/orders", [(.get, ⟨none, none, [("200", ⟨[(jsonMediaType, ⟨some order⟩)]⟩)]⟩)])],
    some [("Get-OrdersResponse", ⟨none, some (.named "string"), none, none, []⟩)]⟩

theorem orders_typeNames_owned :
    Options.standard.shared = .declared ∧
      ((ofDocument orders .standard).script .standard).exports.Nodup ∧
      (((ofDocument orders .standard).script .standard).KeepsClearOf
          (ofDocument orders .standard).shared.exports ↔
        ∀ key ∈ orders.schemaNames, key ≠ baseResponseName ∧
          Naming.schemaName .preserve key ∉ orders.operationTypeNames .preserve) ∧
      ((∀ key ∈ orders.schemaNames, key ≠ baseResponseName ∧
          ∀ (m : Method) (role : TypeRole) (middle : String),
            key ≠ m.capital ++ middle ++ role.suffix) →
        ((ofDocument orders .standard).script .standard).KeepsClearOf
          (ofDocument orders .standard).shared.exports) :=
  ⟨rfl, typeNames_owned_iff orders .standard rfl⟩

/-- Shared schemas that are called like the envelope and like the answer of an operation. -/
def namesakes : Document :=
  let text : Schema := ⟨none, some (.named "string"), none, none, []⟩
  let flag : Schema := ⟨none, some (.named "boolean"), none, none, []⟩
  ⟨⟨"", ""⟩, [("/a", [(.get, ⟨none, none, [("200", ⟨[(jsonMediaType, ⟨some flag⟩)]⟩)]⟩)])],
    some [("GetAResponse", text), (baseResponseName, text)]⟩

/-- In either style, the list of exports has only names that shared schemas export already. -/
theorem namesakes_exported_twice :
    (((ofDocument namesakes .standard).script .standard).exports =
        ["GetAResponse", baseResponseName] ∧
      (ofDocument namesakes .standard).shared.exports = ["GetAResponse", baseResponseName]) ∧
    (((ofDocument namesakes sanitizing).script sanitizing).exports =
        ["GetAResponse", baseResponseName] ∧
      (ofDocument namesakes sanitizing).shared.exports = ["GetAResponse", baseResponseName]) := by
  decide

end Client

end TypedClient
