import TypedClient.Proofs.Client.Sections

/-!
What can be chosen, one by one. Main statement: of two scripts for a description that differ in how
parameters are handed over, or in the base path, all is the same but for one setting of what
functions request. The first choice reaches only the setting that carries the parameters, the second
only the text of the address.
-/

namespace TypedClient

open Script Text

/-! ### Other settings -/

namespace Script.Function

/-- The function with other settings in place of those that its body hands to `axios.request`. -/
def withRequested (settings : List (String × Expr)) (f : Function) : Function :=
  match f.body with
  | .attempt (.const name (.await (.call (.member (.name "axios") "request") types
      [.object _])) :: body) binding handler :: rest =>
    { f with
      body := .attempt (.const name (.await (.call (.member (.name "axios") "request") types
        [.object settings])) :: body) binding handler :: rest }
  | _ => f

theorem withRequested_requested? {f : Function} {settings : List (String × Expr)}
    (h : f.requested? = some settings) : f.withRequested settings = f := by
  rcases f with ⟨name, doc, parameters, result, body, isAsync, exported⟩
  rw [requested?] at h
  split at h
  · next hBody =>
      cases h
      cases hBody
      rfl
  · exact absurd h (by simp)

/-- Two functions that are alike, but that the one hands over the parameters that it takes as they
are and the other as their JSON text, in the same setting. Where they take none, they are equal. -/
inductive EncodesParams (f f' : Function) : Prop
  | absent (settings : List (String × Expr)) (hParameters : f.parameters = [])
      (hKeys : settings.map (·.1) = ["url", "method", "headers"])
      (hRequested : f.requested? = some settings) (hSame : f' = f) : EncodesParams f f'
  | encoded (type : TypeExpr) (settings : List (String × Expr)) (slot : String)
      (hParameters : f.parameters = [⟨paramsName, type⟩])
      (hKeys : settings.map (·.1) = ["url", "method", "headers"])
      (hSlot : slot = "params" ∨ slot = "data")
      (hRequested : f.requested? = some (settings ++ [(slot, .name paramsName)]))
      (hSame : f' = f.withRequested (settings ++
        [(slot, .call (.member (.name "JSON") "stringify") [] [.name paramsName])])) :
      EncodesParams f f'

/-- Two functions that are alike, but that the one requests a path behind a text and the other
behind another: both as it is written, or both with the parameters put into it. -/
inductive Relocates (front front' path : String) (f f' : Function) : Prop
  | direct (rest : List (String × Expr))
      (hRequested : f.requested? = some (("url", .text (front ++ path)) :: rest))
      (hSame : f' = f.withRequested (("url", .text (front' ++ path)) :: rest)) :
      Relocates front front' path f f'
  | filled (rest : List (String × Expr))
      (hRequested : f.requested? = some (("url", .call (.name fillPathName) []
        [.text (front ++ path), .name paramsName]) :: rest))
      (hSame : f' = f.withRequested (("url", .call (.name fillPathName) []
        [.text (front' ++ path), .name paramsName]) :: rest)) :
      Relocates front front' path f f'

theorem Relocates.eq {front path : String} {f f' : Function}
    (h : f.Relocates front front path f') : f = f' := by
  cases h with
  | direct _ hRequested hSame => exact (hSame.trans (withRequested_requested? hRequested)).symm
  | filled _ hRequested hSame => exact (hSame.trans (withRequested_requested? hRequested)).symm

end Script.Function

/-- Two scripts for some operations that are alike but for their functions: behind the same helpers
each has one function for each operation, and the two functions of an operation are related. -/
structure Script.Module.AlikeButFor (R : Route → Function → Function → Prop) (routes : List Route)
    (m m' : Module) : Prop where
  header : m.header = m'.header
  imports : m.imports = m'.imports
  components : m.components = m'.components
  baseTypes : m.baseTypes = m'.baseTypes
  types : m.types = m'.types
  exports : m.exports = m'.exports
  functions : ∃ (helpers : List Function) (call call' : Route → Function),
    m.functions = helpers ++ routes.map call ∧ m'.functions = helpers ++ routes.map call' ∧
      ∀ r ∈ routes, R r (call r) (call' r)

theorem Script.Module.AlikeButFor.eq {routes : List Route} {m m' : Module}
    (h : AlikeButFor (fun _ f f' => f = f') routes m m') : m = m' := by
  obtain ⟨hHeader, hImports, hComponents, hBase, hTypes, hExports, helpers, call, call', hCalls,
    hCalls', hSame⟩ := h
  have hFunctions : m.functions = m'.functions := by
    rw [hCalls, hCalls', List.map_congr_left hSame]
  cases m
  cases m'
  cases hHeader
  cases hImports
  cases hComponents
  cases hBase
  cases hTypes
  cases hExports
  cases hFunctions
  rfl

/-! ### The function of a call -/

namespace Call

variable (c : Call) (o : Options)

/-- What is requested, but for the parameters. -/
def settings : List (String × Expr) :=
  [("url", c.addressExpr o), ("method", .text c.method.wire),
    ("headers", .object [("Content-Type", .text jsonMediaType)])]

theorem requested?_function :
    (c.function o).requested? = some (c.settings o ++ c.paramsProperty o) :=
  rfl

/-- The choices are looked at for the address and for the parameters that are handed over, and for
nothing else in a function. -/
theorem function_eq_withRequested (o' : Options) :
    c.function o' = (c.function o).withRequested (c.settings o' ++ c.paramsProperty o') :=
  rfl

variable {c}

theorem parameters_of_none (h : c.request = none) : (c.function o).parameters = [] := by
  rw [function, requestType?, h]
  rfl

theorem parameters_of_some {d : Declaration} (h : c.request = some d) :
    (c.function o).parameters = [⟨paramsName, .named d.name⟩] := by
  rw [function, requestType?, h]
  rfl

theorem paramsProperty_of_none (h : c.request = none) : c.paramsProperty o = [] := by
  rw [paramsProperty, h]
  rfl

theorem paramsProperty_of_some {d : Declaration} (h : c.request = some d) :
    c.paramsProperty o = [(if c.method.sendsQuery then "params" else "data",
      paramsExpr o.params)] := by
  rw [paramsProperty, h]
  rfl

theorem addressExpr_of_plain (h : c.fillsPath = false) :
    c.addressExpr o = .text (dropEnd '/' o.basePath ++ c.path) := by
  rw [addressExpr, h]
  rfl

theorem addressExpr_of_fillsPath (h : c.fillsPath = true) :
    c.addressExpr o = .call (.name fillPathName) []
      [.text (dropEnd '/' o.basePath ++ c.path), .name paramsName] := by
  rw [addressExpr, h]
  rfl

variable (c)

theorem function_encodesParams :
    (c.function { o with params := .structured }).EncodesParams
      (c.function { o with params := .jsonText }) := by
  have hSettings : c.settings { o with params := .jsonText } =
      c.settings { o with params := .structured } := rfl
  have hRequested := c.requested?_function { o with params := .structured }
  have hSame := c.function_eq_withRequested { o with params := .structured }
    { o with params := .jsonText }
  rw [hSettings] at hSame
  cases hRequest : c.request with
  | none =>
      rw [paramsProperty_of_none _ hRequest, List.append_nil] at hRequested hSame
      exact .absent _ (parameters_of_none _ hRequest) rfl hRequested
        (hSame.trans (Function.withRequested_requested? hRequested))
  | some declaration =>
      rw [paramsProperty_of_some _ hRequest] at hRequested hSame
      refine .encoded _ _ _ (parameters_of_some _ hRequest) rfl ?_ hRequested hSame
      split
      · exact .inl rfl
      · exact .inr rfl

theorem function_relocates (base base' : String) :
    (c.function { o with basePath := base }).Relocates (dropEnd '/' base) (dropEnd '/' base')
      c.path (c.function { o with basePath := base' }) := by
  have hRequested := c.requested?_function { o with basePath := base }
  have hSame := c.function_eq_withRequested { o with basePath := base } { o with basePath := base' }
  cases hFills : c.fillsPath with
  | false =>
      rw [settings, addressExpr_of_plain _ hFills] at hRequested hSame
      exact .direct _ hRequested hSame
  | true =>
      rw [settings, addressExpr_of_fillsPath _ hFills] at hRequested hSame
      exact .filled _ hRequested hSame

end Call

/-! ### Scripts -/

theorem Text.dropEnd_append_replicate (c : Char) (s : String) (n : Nat) :
    dropEnd c (s ++ String.ofList (List.replicate n c)) = dropEnd c s := by
  rw [dropEnd, dropEnd, String.toList_append, String.toList_ofList, List.reverse_append,
    List.reverse_replicate]
  congr 2
  induction n with
  | zero => rfl
  | succ n ih =>
      rw [List.replicate_succ, List.cons_append, List.dropWhile_cons_of_pos (by simp), ih]

namespace Document

/-- Choices that have the same style and the same shared block give scripts that are alike but for
the functions of operations. -/
theorem script_alikeButFor (d : Document) {o o' : Options} (hNaming : o.naming = o'.naming)
    (hShared : o.shared = o'.shared) {R : Route → Function → Function → Prop}
    (h : ∀ r ∈ d.routes, R r ((r.call o.naming).function o) ((r.call o.naming).function o')) :
    Module.AlikeButFor R d.routes ((Client.ofDocument d o).script o)
      ((Client.ofDocument d o').script o') := by
  have hClient : Client.ofDocument d o = Client.ofDocument d o' := by
    rw [Client.ofDocument, Client.ofDocument, Client.plain, Client.plain, hNaming, hShared]
  refine ⟨?_, ?_, ?_, ?_, ?_, ?_, _, _, _, Client.functions_ofDocument d o, ?_, h⟩
  case refine_7 =>
    rw [hNaming]
    exact Client.functions_ofDocument d o'
  all_goals
    rw [hClient]
    rfl

/-- What can be chosen about a client reaches its own place and no other. The scripts for a
description that differ in how parameters are handed over are alike but for the settings that carry
parameters. Those that differ in the base path are alike but for the text of addresses, which is
the path behind the base path without slashes at its end; slashes there change nothing. -/
theorem choices_orthogonal (d : Document) (o : Options) :
    Module.AlikeButFor (fun _ f f' => f.EncodesParams f') d.routes
      ((Client.ofDocument d { o with params := .structured }).script
        { o with params := .structured })
      ((Client.ofDocument d { o with params := .jsonText }).script
        { o with params := .jsonText }) ∧
    (∀ base base' : String, ∃ front front' : String,
      IsFrontOf '/' base front ∧ IsFrontOf '/' base' front' ∧
      Module.AlikeButFor (fun r f f' => f.Relocates front front' r.path f') d.routes
        ((Client.ofDocument d { o with basePath := base }).script { o with basePath := base })
        ((Client.ofDocument d { o with basePath := base' }).script { o with basePath := base' })) ∧
    ∀ (base : String) (n n' : Nat),
      (Client.ofDocument d
          { o with basePath := base ++ String.ofList (List.replicate n '/') }).script
        { o with basePath := base ++ String.ofList (List.replicate n '/') } =
      (Client.ofDocument d
          { o with basePath := base ++ String.ofList (List.replicate n' '/') }).script
        { o with basePath := base ++ String.ofList (List.replicate n' '/') } := by
  refine ⟨?_, ?_, ?_⟩
  · apply d.script_alikeButFor
    case h => exact fun r _ => (r.call o.naming).function_encodesParams o
    all_goals rfl
  · intro base base'
    refine ⟨_, _, dropEnd_isFrontOf '/' base, dropEnd_isFrontOf '/' base', ?_⟩
    apply d.script_alikeButFor
    case h => exact fun r _ => (r.call o.naming).function_relocates o base base'
    all_goals rfl
  · intro base n n'
    apply Module.AlikeButFor.eq
    apply d.script_alikeButFor
    case h =>
      intro r _
      have hBoth := (r.call o.naming).function_relocates o
        (base ++ String.ofList (List.replicate n '/'))
        (base ++ String.ofList (List.replicate n' '/'))
      rw [dropEnd_append_replicate, dropEnd_append_replicate] at hBoth
      exact hBoth.eq
    all_goals rfl

end Document

end TypedClient
