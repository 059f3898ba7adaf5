import TypedClient.Proofs.Client.Header
import TypedClient.Proofs.Client.Independence
import TypedClient.Proofs.Text.Blank

/-!
The sections of a client. Main statement: its text is one block of shared declarations between two
texts that neither know this block nor the shared schemas. The first is the comment and the import;
the second is the envelope, the types of the operations, their functions and the list of exports, in
this order. It does not matter for them whether the block is given or made of the shared schemas.
-/

namespace TypedClient

open Script Text

/-! ### The block -/

/-- What is written for a text in a block of its own: nothing if it is blank, else all of it up to
the last character that is not white space, and an empty line. -/
inductive Script.IsBlockOf (text : String) : String → Prop
  | blank (hBlank : isBlankText text = true) : IsBlockOf text ""
  | ended (kept trail : String) (last : Char) (hSplit : text = kept ++ trail)
      (hTrail : isBlankText trail = true) (hLast : kept.toList.getLast? = some last)
      (hSolid : isBlank last = false) : IsBlockOf text (kept ++ "\n\n")

theorem Script.Module.isBlockOf_slot (text : String) : IsBlockOf text (slot text) := by
  unfold slot
  dsimp only
  split
  next hNone => exact .blank (trimEnd_eq_empty.mp hNone)
  next hSome =>
    obtain ⟨trail, hSplit, hTrail⟩ := exists_eq_trimEnd_append text
    have hKept : (trimEnd text).toList ≠ [] := by
      rwa [ne_eq, ← String.toList_empty, String.toList_inj]
    exact .ended (trimEnd text) trail _ hSplit hTrail (List.getLast?_eq_some_getLast hKept)
      (isBlank_of_getLast?_trimEnd (List.getLast?_eq_some_getLast hKept))

/-- What ends in other than white space is in the block as well. -/
theorem Script.IsBlockOf.standsIn {text block s : String} {last : Char} (h : IsBlockOf text block)
    (hIn : StandsIn s text) (hLast : s.toList.getLast? = some last)
    (hSolid : isBlank last = false) : StandsIn s block := by
  have hMem : last ∈ s.toList := List.mem_of_getLast? hLast
  obtain ⟨front, back, hText⟩ := hIn
  cases h with
  | blank hBlank =>
      have hAll := List.all_eq_true.mp hBlank last (by
        rw [hText, String.toList_append, String.toList_append]
        exact List.mem_append_left _ (List.mem_append_right _ hMem))
      rw [hSolid] at hAll
      cases hAll
  | ended kept trail _ hSplit hTrail _ _ =>
      have hBoth : (front ++ s).toList ++ back.toList = kept.toList ++ trail.toList := by
        rw [← String.toList_append, ← String.toList_append, ← hText, hSplit]
      rcases List.append_eq_append_iff.mp hBoth with ⟨rest, hKept, -⟩ | ⟨cut, hFront, hCut⟩
      · refine ⟨front, String.ofList rest ++ "\n\n", ?_⟩
        rw [← String.append_assoc]
        congr 1
        rw [← String.toList_inj, String.toList_append, String.toList_ofList, hKept]
      · cases cut with
        | nil =>
            rw [List.append_nil, String.toList_inj] at hFront
            exact ⟨front, "\n\n", by rw [hFront]⟩
        | cons c cs =>
            -- the last character would be cut off with the white space behind it
            have hEnd := congrArg List.getLast? hFront
            rw [String.toList_append, List.getLast?_append_of_ne_nil _ (List.ne_nil_of_mem hMem),
              hLast, List.getLast?_append_of_ne_nil _ (List.cons_ne_nil c cs)] at hEnd
            have hIn : last ∈ trail.toList := by
              rw [hCut]
              exact List.mem_append_left _ (List.mem_of_getLast? hEnd.symm)
            have hBlank := List.all_eq_true.mp hTrail last hIn
            rw [hSolid] at hBlank
            cases hBlank

/-! ### What stands around it -/

/-- The envelope of answers, under its heading. -/
def envelopeSection : String :=
  "// Base response type\n" ++
  "interface BaseResponse<T> \x7b\n  success: boolean;\n  code: number;\n  data: T;\n\x7d\n\n"

/-- A text that declares the envelope, then types if there are any, then functions, and ends with a
list of exports. -/
structure Script.Closes (types : List Declaration) (functions : List Function)
    (exports : List String) (text : String) : Prop where
  split : ∃ declared, text = envelopeSection ++ declared ++
      concat (functions.map (·.render ++ "\n")) ++
      ("// Exported types\nexport type \x7b\n  " ++ joined ",\n  " exports ++ "\n\x7d;\n") ∧
    (types = [] → declared = "") ∧
    (types ≠ [] → declared = "// Operation types\n" ++ concat (types.map (·.render ++ "\n")))

theorem Script.Module.closes_renderBody {m : Module} (hBase : m.baseTypes = [baseResponse])
    (hExports : m.exports ≠ []) : Closes m.types m.functions m.exports m.renderBody := by
  have hEnvelope : titled "Base response type" (m.baseTypes.map Declaration.render) =
      envelopeSection := by
    rw [hBase]
    decide
  refine ⟨titled "Operation types" (m.types.map Declaration.render), ?_, ?_, ?_⟩
  · rw [renderBody, hEnvelope, spaced, List.map_map]
    cases hNames : m.exports with
    | nil => exact absurd hNames hExports
    | cons name names => rfl
  · intro hTypes
    rw [hTypes]
    rfl
  · intro hTypes
    cases hAll : m.types with
    | nil => exact absurd hAll hTypes
    | cons d ds =>
        change "// Operation types\n" ++ spaced ((d :: ds).map Declaration.render) = _
        rw [spaced, List.map_map]
        rfl

/-! ### The operations -/

namespace Document

/-- The declarations of the operations in a script, in order. -/
def operationTypes (d : Document) (style : NamingStyle) : List Declaration :=
  d.routes.flatMap fun r => ((r.call style).mapNames (Naming.schemaName style)).declarations

/-- The functions in a script: those of the operations in order, behind the helper if one of them
needs it. -/
def operationFunctions (d : Document) (o : Options) : List Function :=
  (if d.routes.any fun r => (r.call o.naming).fillsPath then [fillPath] else []) ++
    d.routes.map fun r => (r.call o.naming).function o

/-- The declaration of a shared schema as it stands in a script: its own name and those that it
mentions are made fit in the style. -/
def sharedDeclaration (style : NamingStyle) (name : String) (s : Schema) : Declaration :=
  { (s.shared name).mapBody (Naming.schemaName style) with name := Naming.schemaName style name }

/-- The declarations of shared schemas, one after the other in lines of their own. -/
def sharedText (style : NamingStyle) (schemas : Option (Keyed String Schema)) : String :=
  joined "\n" ((schemas.getD []).map fun entry =>
    (sharedDeclaration style entry.1 entry.2).render)

theorem sharedDeclaration_preserve (name : String) (s : Schema) :
    sharedDeclaration .preserve name s = s.shared name := by
  have hSame : Naming.schemaName .preserve = id := rfl
  have hName := s.shared_name name
  rw [sharedDeclaration, Script.Declaration.mapBody, hSame, DeclarationBody.mapNames_id, id]
  cases hDeclaration : s.shared name with
  | mk own parameters body exported =>
      rw [hDeclaration] at hName
      rw [← hName]

theorem sharedDeclaration_sanitized (name : String) (s : Schema) :
    sharedDeclaration .sanitized name s =
      { (s.shared name).mapBody Naming.typeName with
        name := Naming.typeName (s.shared name).name } := by
  rw [s.shared_name]
  rfl

theorem shared_ofDocument (d : Document) {o : Options} (hShared : o.shared = .declared) :
    (Client.ofDocument d o).shared = .declared ((d.schemas.getD []).map fun entry =>
      sharedDeclaration o.naming entry.1 entry.2) := by
  rw [Client.ofDocument_shared d hShared, sharedDeclarations]
  cases o.naming with
  | preserve => simp only [sharedDeclaration_preserve]
  | sanitized =>
      rw [List.map_map]
      simp only [Function.comp_def, sharedDeclaration_sanitized]

theorem render_shared (d : Document) {o : Options} (hShared : o.shared = .declared) :
    (Client.ofDocument d o).shared.render = sharedText o.naming d.schemas := by
  rw [shared_ofDocument d hShared, Shared.render, List.map_map]
  rfl

/-! ### The script -/

/-- Only the block of a script depends on the shared schemas and on what is to stand for them. -/
theorem script_eq (d : Document) (o : Options) (schemas : Option (Keyed String Schema))
    (shared : SharedBlock) :
    (Client.ofDocument { d with schemas := schemas } { o with shared := shared }).script
        { o with shared := shared } =
      { (Client.ofDocument d o).script o with
        components := (Client.ofDocument { d with schemas := schemas }
          { o with shared := shared }).shared.render } := by
  obtain ⟨naming, params, basePath, own⟩ := o
  cases naming <;> rfl

theorem code_eq (d : Document) (o : Options) (schemas : Option (Keyed String Schema))
    (shared : SharedBlock) :
    (generate { d with schemas := schemas } { o with shared := shared }).code =
      ((Client.ofDocument d o).script o).renderHead ++
        Module.slot (Client.ofDocument { d with schemas := schemas }
          { o with shared := shared }).shared.render ++
        ((Client.ofDocument d o).script o).renderBody := by
  rw [generate, Client.render, script_eq]
  rfl

theorem types_script (d : Document) (o : Options) :
    ((Client.ofDocument d o).script o).types = d.operationTypes o.naming := by
  change (Client.ofDocument d o).declarations = _
  rw [Client.declarations, Client.calls_ofDocument, List.flatMap_map, operationTypes]

theorem closes_script (d : Document) (o : Options) :
    Closes (d.operationTypes o.naming) (d.operationFunctions o)
      (((d.operationTypes o.naming).map (·.name)).eraseDups ++ [baseResponseName])
      ((Client.ofDocument d o).script o).renderBody := by
  have hTypes := d.types_script o
  have hFunctions : ((Client.ofDocument d o).script o).functions = d.operationFunctions o :=
    Client.functions_ofDocument d o
  have hExports := Client.exports_ofDocument d o
  rw [hTypes] at hExports
  rw [← hExports, ← hTypes, ← hFunctions]
  exact Module.closes_renderBody rfl (by rw [hExports]; simp)

/-- Whatever shared schemas a description has, and whether they are declared or a given text is to
stand in their place, the text of the client is the block for this between two texts that are always
the same. In front of it is the comment and the import, and behind it the envelope, the types and
functions of the operations and the list of exports. -/
theorem code_eq_around_block (d : Document) (o : Options) :
    ∃ front back : String,
      (∀ schemas given, ∃ block, IsBlockOf given block ∧
        (generate { d with schemas := schemas } { o with shared := .verbatim given }).code =
          front ++ block ++ back) ∧
      (∀ schemas, ∃ block, IsBlockOf (sharedText o.naming schemas) block ∧
        (generate { d with schemas := schemas } { o with shared := .declared }).code =
          front ++ block ++ back) ∧
      front = d.info.header ++ importLine ++ "\n" ∧
      Closes (d.operationTypes o.naming) (d.operationFunctions o)
        (((d.operationTypes o.naming).map (·.name)).eraseDups ++ [baseResponseName]) back := by
  refine ⟨((Client.ofDocument d o).script o).renderHead,
    ((Client.ofDocument d o).script o).renderBody, ?_, ?_, ?_, d.closes_script o⟩
  · intro schemas given
    refine ⟨_, Module.isBlockOf_slot given, ?_⟩
    rw [code_eq, Client.ofDocument]
    cases o.naming <;> rfl
  · intro schemas
    refine ⟨_, Module.isBlockOf_slot _, ?_⟩
    rw [code_eq, render_shared _ rfl]
  · exact Client.renderHead_ofDocument d o

end Document

end TypedClient
