import TypedClient.Proofs.Client.Sections
import TypedClient.Proofs.Document.Shape
import TypedClient.Proofs.Schema.Keys

/-!
The keys of members in a client. Main statement: for a text that can be read, each declaration of
the client is made of a schema that is written in the text, and each of its bodies, at whatever
depth, has the keys of the properties that are written there: distinct, for the names as they are,
and in the order in which these first occur.
-/

namespace TypedClient

open Json Script Text

/-! ### Written schemas -/

/-- A schema is written for a declaration of this name: as what an operation sends, as its answer on
success, as the data in that, or as a shared one. -/
inductive Document.WritesType (text : String) (style : NamingStyle) : String → Outline → Prop
  | request {w : WrittenOperation} {t : Tree} (hOperation : w ∈ writtenOperations text)
      (hSchema : Operation.writtenRequestSchema? w.value = some t) :
      WritesType text style (Naming.derive (.type .request) w.method w.path style) t.outline
  | response {w : WrittenOperation} {t : Tree} (hOperation : w ∈ writtenOperations text)
      (hSchema : Operation.writtenResponseSchema? w.value = some t) :
      WritesType text style (Naming.derive (.type .response) w.method w.path style) t.outline
  | responseData {w : WrittenOperation} {t : Tree} {part data : Outline}
      (hOperation : w ∈ writtenOperations text)
      (hSchema : Operation.writtenResponseSchema? w.value = some t)
      (hPart : t.outline.part? "properties" = some part)
      (hData : Keyed.last? part.members "data" = some data) :
      WritesType text style (Naming.derive (.type .responseData) w.method w.path style) data
  | shared {key : String} {t : Tree} (hShared : (key, t) ∈ writtenSchemas text) :
      WritesType text style (Naming.schemaName style key) t.outline

/-- The shared declarations of a client; none if a text is given in their place. -/
def Shared.declarations : Shared → List Declaration
  | .declared declarations => declarations
  | .verbatim _ => []

/-- The keys in a client are those of properties in a text. -/
structure Client.KeysFollow (text : String) (c : Client) (o : Options) : Prop where
  /-- Each declaration is made of a schema that is written for it, and its bodies follow that. -/
  written : ∀ declaration ∈ (c.script o).types ++ c.shared.declarations,
    ∃ written, Document.WritesType text o.naming declaration.name written ∧
      declaration.IsKeyedBy (Naming.schemaName o.naming) written
  /-- The envelope has keys of its own. -/
  envelope : ∀ declaration ∈ (c.script o).baseTypes, ∀ fields path body,
    declaration.HasBody fields path body → (fields.map fun field => memberKey field.1.name).Nodup ∧
      ∀ field ∈ fields, IsKeyFor (memberKey field.1.name) field.1.name
  /-- The bodies stand in the text of the client. -/
  shown : ∀ declaration ∈ (c.script o).baseTypes ++ (c.script o).types ++ c.shared.declarations,
    ∀ fields path body, declaration.HasBody fields path body → StandsIn body (c.render o)
  /-- What functions mention are no types with members. -/
  named : ∀ call ∈ c.calls, ∀ type ∈ call.requestType?.toList ++ call.answer.type?.toList,
    ∀ fields path, ¬ type.HasRecord fields path

/-- What an operation declares is made of the schemas that are written for it. -/
theorem WrittenOperation.IsReadAs.writesType {text : String} {style : NamingStyle}
    {w : WrittenOperation} {r : Route} {declaration : Declaration} (h : w.IsReadAs r)
    (hOperation : w ∈ Document.writtenOperations text)
    (hMem : declaration ∈ (r.call style).declarations) :
    ∃ (s : Schema) (written : Outline),
      Document.WritesType text style declaration.name written ∧ s.IsReadAs written ∧
        declaration.body = .interface s.members := by
  have hNamed : ∀ {role : TypeRole} {s : Schema} {written : Outline},
      Document.WritesType text style (Naming.derive (.type role) w.method w.path style) written →
        Document.WritesType text style (r.declare style role s).name written := by
    intro role s written hWrites
    rw [← h.path, ← h.method] at hWrites
    exact hWrites
  rcases List.mem_append.mp hMem with hRequest | hAnswer
  · rw [Option.mem_toList, Route.call, Option.map_eq_some_iff] at hRequest
    obtain ⟨s, hSchema, rfl⟩ := hRequest
    obtain ⟨t, hWritten, hRead⟩ := exists_of_rel h.request hSchema
    exact ⟨s, t.outline, hNamed (.request hOperation hWritten), ⟨t, rfl, hRead⟩, rfl⟩
  · rw [Option.mem_toList, Route.call] at hAnswer
    dsimp only at hAnswer
    unfold Route.answer at hAnswer
    split at hAnswer
    · cases hAnswer
    · next s hSchema =>
        obtain ⟨t, hWritten, hRead⟩ := exists_of_rel h.response hSchema
        have hWhole : s.IsReadAs t.outline := ⟨t, rfl, hRead⟩
        split at hAnswer
        · next data hData =>
            cases hAnswer
            obtain ⟨part, written, hPart, hLast, hInner⟩ :=
              hWhole.byParts.property? (Schema.envelopeData?_eq_some.mp hData).2.2
            refine ⟨data, written, hNamed ?_, hInner, rfl⟩
            exact .responseData hOperation hWritten hPart hLast
        · split at hAnswer
          · cases hAnswer
          · cases hAnswer
            exact ⟨s, t.outline, hNamed (.response hOperation hWritten), hWhole, rfl⟩

namespace Document

theorem isKeyedBy_of_mem_types {text : String} {d : Document}
    (h : (Document.ofString text).result = .ok d) (o : Options) {declaration : Declaration}
    (hMem : declaration ∈ ((Client.ofDocument d o).script o).types) :
    ∃ written, WritesType text o.naming declaration.name written ∧
      declaration.IsKeyedBy (Naming.schemaName o.naming) written := by
  rw [types_script, operationTypes] at hMem
  obtain ⟨r, hRoute, hDeclared⟩ := List.mem_flatMap.mp hMem
  rw [Call.declarations_mapNames] at hDeclared
  obtain ⟨before, hBefore, rfl⟩ := List.mem_map.mp hDeclared
  obtain ⟨w, hOperation, hRead⟩ := exists_of_mem_right (forall₂_writtenOperations h) hRoute
  obtain ⟨s, written, hWritten, hSchema, hBody⟩ := hRead.writesType hOperation hBefore
  refine ⟨written, hWritten, hSchema.isKeyedBy_of_interface ?_⟩
  rw [← hBody]
  rfl

theorem isKeyedBy_of_mem_shared {text : String} {d : Document}
    (h : (Document.ofString text).result = .ok d) (o : Options) {declaration : Declaration}
    (hMem : declaration ∈ (Client.ofDocument d o).shared.declarations) :
    ∃ written, WritesType text o.naming declaration.name written ∧
      declaration.IsKeyedBy (Naming.schemaName o.naming) written := by
  cases hShared : o.shared with
  | verbatim given =>
      have hNone : (Client.ofDocument d o).shared.declarations = [] := by
        rw [Client.ofDocument]
        cases o.naming <;>
          simp only [Client.mapNames, Client.plain, hShared, Shared.mapNames, Shared.declarations]
      rw [hNone] at hMem
      exact absurd hMem List.not_mem_nil
  | declared =>
      rw [shared_ofDocument d hShared] at hMem
      obtain ⟨⟨key, s⟩, hEntry, rfl⟩ := List.mem_map.mp hMem
      obtain ⟨⟨name, t⟩, hWritten, hName, hRead⟩ :=
        exists_of_mem_right (forall₂_writtenSchemas h) hEntry
      cases hName
      have hSchema : s.IsReadAs t.outline := ⟨t, rfl, hRead⟩
      refine ⟨t.outline, .shared hWritten, ?_⟩
      rcases s.shared_cases key with hBody | hBody
      · refine hSchema.isKeyedBy_of_interface ?_
        rw [← hBody]
        rfl
      · refine hSchema.isKeyedBy_of_synonym ?_
        rw [← hBody]
        rfl

/-- The keys of the envelope of answers are distinct, and stand for the names of its members. -/
theorem keys_of_baseResponse {fields : List (Label × TypeExpr)} {path : List Schema.Step}
    {body : String} (h : baseResponse.HasBody fields path body) :
    (fields.map fun field => memberKey field.1.name).Nodup ∧
      ∀ field ∈ fields, IsKeyFor (memberKey field.1.name) field.1.name := by
  refine ⟨?_, fun _ _ => isKeyFor_memberKey _⟩
  cases h with
  | lines hLines =>
      have hFields : [(Label.mk "success" false, TypeExpr.primitive .flag),
          (Label.mk "code" false, .primitive .number), (Label.mk "data" false, .named "T")] =
            fields :=
        Member.eq_of_map_field (DeclarationBody.interface.inj hLines)
      rw [← hFields]
      decide
  | member hBody hMem hRecord =>
      cases hBody
      simp only [List.mem_cons, List.not_mem_nil, or_false] at hMem
      rcases hMem with rfl | rfl | rfl <;> cases hRecord
  | synonym hBody => cases hBody

/-- What stands in the text of a declaration and ends in other than white space, stands in the text
of the client. -/
theorem standsIn_code (d : Document) (o : Options) {declaration : Declaration}
    (hMem : declaration ∈ ((Client.ofDocument d o).script o).baseTypes ++
      ((Client.ofDocument d o).script o).types ++ (Client.ofDocument d o).shared.declarations)
    {s : String} {last : Char} (hIn : StandsIn s declaration.render)
    (hLast : s.toList.getLast? = some last) (hSolid : isBlank last = false) :
    StandsIn s (d.generate o).code := by
  have hTitled : ∀ {title : String} {declarations : List Declaration},
      declaration ∈ declarations →
        StandsIn s (Module.titled title (declarations.map Declaration.render)) := by
    intro title declarations hDeclaration
    cases declarations with
    | nil => exact absurd hDeclaration List.not_mem_nil
    | cons first rest =>
        have hText : declaration.render ++ "\n" ∈
            ((first :: rest).map Declaration.render).map (· ++ "\n") :=
          List.mem_map_of_mem (List.mem_map_of_mem hDeclaration)
        exact ((hIn.before "\n").trans (standsIn_concat hText)).behind ("// " ++ title ++ "\n")
  rw [d.code_eq o d.schemas o.shared]
  rcases List.mem_append.mp hMem with hOwn | hShared
  · rw [Module.renderBody]
    rcases List.mem_append.mp hOwn with hBase | hType
    · exact ((((hTitled hBase).before _).before _).before _).behind _
    · exact ((((hTitled hType).behind _).before _).before _).behind _
  · have hBlock : StandsIn s (Client.ofDocument d o).shared.render := by
      cases hDeclared : (Client.ofDocument d o).shared with
      | verbatim given =>
          rw [hDeclared] at hShared
          exact absurd hShared List.not_mem_nil
      | declared declarations =>
          rw [hDeclared] at hShared
          exact hIn.trans (standsIn_joined "\n" (List.mem_map_of_mem hShared))
    have hSlot := (Module.isBlockOf_slot _).standsIn hBlock hLast hSolid
    exact (hSlot.behind _).before _

/-- For every text that can be read, the declarations of the client are made of the schemas that are
written in it. Each of their bodies, the outer one of an interface as well as those inside at
whatever depth, has distinct keys, which stand for the names of properties that are written for it,
in the order in which these first occur; what counts for a name is what is written under it last. -/
theorem keys_follow_text {text : String} {d : Document} (h : Document.parse text = .ok d)
    (o : Options) : (Client.ofDocument d o).KeysFollow text o := by
  have hRead := parse_eq_ok.mp h
  refine ⟨?_, ?_, ?_, ?_⟩
  · intro declaration hMem
    rcases List.mem_append.mp hMem with hType | hShared
    · exact isKeyedBy_of_mem_types hRead o hType
    · exact isKeyedBy_of_mem_shared hRead o hShared
  · intro declaration hMem fields path body hBody
    rw [List.mem_singleton.mp hMem] at hBody
    exact keys_of_baseResponse hBody
  · intro declaration hMem fields path body hBody
    exact d.standsIn_code o hMem hBody.standsIn_render hBody.getLast? (by decide)
  · intro call _ type hType fields path hRecord
    rcases List.mem_append.mp hType with hRequest | hAnswer
    · rw [Option.mem_toList, Call.requestType?, Option.map_eq_some_iff] at hRequest
      obtain ⟨declaration, -, rfl⟩ := hRequest
      cases hRecord
    · rcases Answer.type?_eq_some.mp (Option.mem_toList.mp hAnswer) with ⟨_, -, rfl⟩ | ⟨-, rfl⟩
      · cases hRecord
      · cases hRecord

/-- A description of pets: names of properties repeat, outside and inside a list, and two of them
only differ in what has to be escaped. -/
def petsJson : Value :=
  .object [("paths", .object [("/pets", .object [("post", .object [("requestBody", .object [
    ("content", .object [(jsonMediaType, .object [("schema", .object [("type", .text "object"),
      ("properties", .object [
        ("tags", .object []), ("a\"", .object []), ("a\\", .object []),
        ("tags", .object [("type", .text "array"), ("items", .object [("type", .text "object"),
          ("properties", .object [("y z", .object []), ("x", .object []),
            ("y z", .object [("type", .text "number")])])])])])])])])])])])])]

/-- What is read of it. -/
def pets : Document :=
  let tag : Schema := ⟨none, some (.named "object"), none,
    some [("y z", ⟨none, some (.named "number"), none, none, []⟩),
      ("x", ⟨none, none, none, none, []⟩)], []⟩
  let pet : Schema := ⟨none, some (.named "object"), none,
    some [("tags", ⟨none, some (.named "array"), some tag, none, []⟩),
      ("a\"", ⟨none, none, none, none, []⟩), ("a\\", ⟨none, none, none, none, []⟩)], []⟩
  ⟨⟨"", ""⟩,
    [("/pets", [(.post, ⟨none, some ⟨[(jsonMediaType, ⟨some pet⟩)]⟩, []⟩)])], none⟩

theorem parse_pets : Document.parse (petsJson.render .compact) = .ok pets := by
  have hRead : ∀ t : Tree, t.Denotes petsJson → (Document.read fullRoom t).result = .ok pets := by
    intro t ht
    unfold petsJson at ht
    repeat' first | cases ‹Tree.Denotes _ _› | cases ‹Members.Denote _ _›
    rfl
  have hFree : petsJson.NumberFree := by
    simp [petsJson, Value.NumberFree, Value.NumberFreeMembers]
  exact parse_eq_ok.mpr (readString_render Layout.compact_blank hFree hRead)

theorem pets_keys_follow_text :
    Document.parse (petsJson.render .compact) = .ok pets ∧
    ((Client.ofDocument pets .standard).script .standard).types.map Declaration.render =
      ["interface PostPetsRequest \x7b\n  tags?: \x7b \"y z\"?: number, x?: any \x7d[];\n" ++
        "  \"a\\\"\"?: any;\n  \"a\\\\\"?: any;\n\x7d\n"] ∧
    (Client.ofDocument pets .standard).KeysFollow (petsJson.render .compact) .standard :=
  ⟨parse_pets, by decide, keys_follow_text parse_pets .standard⟩

end Document

end TypedClient
