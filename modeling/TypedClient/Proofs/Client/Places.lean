import TypedClient.Proofs.Client.Choices

/-!
Places for parameters in a path. The helper of a client fills what its pattern finds: names between
braces. Whether a function goes through the helper is decided by looking for braces only. Main
statement: the two agree but for braces without a name between them.
-/

namespace TypedClient

open Script Text

/-! ### Patterns -/

namespace Script

/-- A pattern of a script. -/
inductive Pattern where
  /-- A character that is escaped, and so means itself. -/
  | mark (c : Char)
  /-- One or more characters, none of which is `stop`. -/
  | run (stop : Char)
  /-- A part that is captured. -/
  | group (inner : Pattern)
  | both (first second : Pattern)

namespace Pattern

/-- The text of a pattern. -/
def render : Pattern → String
  | .mark c => String.ofList ['\\', c]
  | .run stop => String.ofList ['[', '^', stop, ']', '+']
  | .group inner => "(" ++ inner.render ++ ")"
  | .both first second => first.render ++ second.render

/-- A pattern matches a text as a whole. -/
inductive Matches : Pattern → List Char → Prop
  | mark (c : Char) : Matches (.mark c) [c]
  | run {stop : Char} {cs : List Char} (hSome : cs ≠ []) (hNone : stop ∉ cs) :
      Matches (.run stop) cs
  | group {inner : Pattern} {cs : List Char} (hInner : Matches inner cs) :
      Matches (.group inner) cs
  | both {first second : Pattern} {cs ds : List Char} (hFirst : Matches first cs)
      (hSecond : Matches second ds) : Matches (.both first second) (cs ++ ds)

/-- A pattern matches somewhere in a text. -/
def FoundIn (p : Pattern) (text : String) : Prop :=
  ∃ front found back, text.toList = front ++ found ++ back ∧ p.Matches found

end Pattern

end Script

/-- The pattern that the helper looks for: a name between braces. -/
def placePattern : Pattern :=
  .both (.mark '\x7b') (.both (.group (.run '\x7d')) (.mark '\x7d'))

/-- Braces without a name between them. -/
def emptyBraces : String := "\x7b\x7d"

/-- The first line of the helper replaces all that its pattern finds. -/
theorem fillPath_replaces : ∃ filling lines, fillPath.body = [.verbatim
    (("return template.replace(/" ++ placePattern.render ++ "/g, " ++ filling) :: lines)] := by
  have hPattern : placePattern.render = "\\\x7b([^\x7d]+)\\\x7d" := by decide
  rw [hPattern]
  exact ⟨"(match: string, key: string) => \x7b", _, rfl⟩

theorem matches_placePattern_iff {cs : List Char} : placePattern.Matches cs ↔
    ∃ name, name ≠ [] ∧ '\x7d' ∉ name ∧ cs = '\x7b' :: (name ++ ['\x7d']) := by
  constructor
  · intro h
    cases h with
    | both hOpening hRest =>
        cases hRest with
        | both hName hClosing =>
            cases hOpening
            cases hClosing
            cases hName with
            | group hRun =>
                cases hRun with
                | run hSome hNone => exact ⟨_, hSome, hNone, rfl⟩
  · rintro ⟨name, hSome, hNone, rfl⟩
    exact .both (.mark _) (.both (.group (.run hSome hNone)) (.mark _))

theorem foundIn_placePattern_iff {path : String} : placePattern.FoundIn path ↔
    ∃ front name back, name ≠ [] ∧ '\x7d' ∉ name ∧
      path.toList = front ++ '\x7b' :: (name ++ '\x7d' :: back) := by
  constructor
  · rintro ⟨front, found, back, hText, hFound⟩
    obtain ⟨name, hSome, hNone, rfl⟩ := matches_placePattern_iff.mp hFound
    exact ⟨front, name, back, hSome, hNone, by simp [hText]⟩
  · rintro ⟨front, name, back, hSome, hNone, hText⟩
    exact ⟨front, '\x7b' :: (name ++ ['\x7d']), back, by simp [hText],
      matches_placePattern_iff.mpr ⟨name, hSome, hNone, rfl⟩⟩

/-! ### Braces -/

namespace Call

/-- An opening brace stands in front of a closing one just when some text without a closing brace,
perhaps an empty one, stands between the two. -/
theorem hasParameters_iff_exists {path : String} : hasParameters path = true ↔
    ∃ front name back, '\x7d' ∉ name ∧
      path.toList = front ++ '\x7b' :: (name ++ '\x7d' :: back) := by
  rw [hasParameters, List.contains_iff_mem]
  constructor
  · intro hClosing
    have hSplit := path.toList.takeWhile_append_dropWhile (p := (· ≠ '\x7b'))
    cases hBehind : path.toList.dropWhile (· ≠ '\x7b') with
    | nil =>
        rw [hBehind] at hClosing
        exact absurd hClosing List.not_mem_nil
    | cons c rest =>
        have hOpening : c = '\x7b' := by
          have hHead := List.head?_dropWhile_not (· ≠ '\x7b') path.toList
          rw [hBehind] at hHead
          simpa using hHead
        subst hOpening
        rw [hBehind] at hClosing hSplit
        have hRest : '\x7d' ∈ rest := (List.mem_cons.mp hClosing).resolve_left (by decide)
        obtain ⟨name, back, rfl, hNone⟩ := List.eq_append_cons_of_mem hRest
        exact ⟨_, name, back, hNone, hSplit.symm⟩
  · rintro ⟨front, name, back, -, hText⟩
    rw [hText, List.dropWhile_append]
    split
    · simp
    · simp

/-- The test for places finds what the pattern of the helper finds, and empty braces. -/
theorem hasParameters_iff {path : String} : hasParameters path = true ↔
    placePattern.FoundIn path ∨ StandsIn emptyBraces path := by
  rw [hasParameters_iff_exists, foundIn_placePattern_iff]
  constructor
  · rintro ⟨front, name, back, hNone, hText⟩
    by_cases hSome : name = []
    · refine .inr ⟨String.ofList front, String.ofList back, ?_⟩
      rw [← String.toList_inj, hText, hSome]
      simp [emptyBraces]
    · exact .inl ⟨front, name, back, hSome, hNone, hText⟩
  · rintro (⟨front, name, back, -, hNone, hText⟩ | ⟨front, back, rfl⟩)
    · exact ⟨front, name, back, hNone, hText⟩
    · exact ⟨front.toList, [], back.toList, List.not_mem_nil, by simp [emptyBraces]⟩

end Call

/-! ### Functions -/

/-- A function has the helper fill the address that it requests. -/
def Script.Function.FillsAddress (f : Function) : Prop :=
  ∃ arguments rest, f.requested? = some (("url", .call (.name fillPathName) [] arguments) :: rest)

theorem Call.fillsAddress_function_iff (c : Call) (o : Options) :
    (c.function o).FillsAddress ↔ c.fillsPath = true := by
  rw [Function.FillsAddress, requested?_function, settings]
  cases hFills : c.fillsPath with
  | false =>
      rw [addressExpr_of_plain o hFills]
      simp
  | true =>
      rw [addressExpr_of_fillsPath o hFills]
      simp

theorem Route.fillsPath_call_iff (r : Route) (style : NamingStyle) :
    (r.call style).fillsPath = true ↔
      r.operation.requestSchema?.isSome = true ∧ Call.hasParameters r.path = true := by
  rw [Call.fillsPath, call, Option.isSome_map, Bool.and_eq_true]

namespace Client

/-- The helper replaces what its pattern finds. The test for places finds the same and empty braces
besides, so the function of an operation has its address filled just when the operation takes
parameters and there is a name between braces in its path, or there are empty braces. -/
theorem addresses_filled_iff (d : Document) (o : Options) :
    (∃ filling lines, fillPath.body = [.verbatim
      (("return template.replace(/" ++ placePattern.render ++ "/g, " ++ filling) :: lines)]) ∧
    (∀ path : String, Call.hasParameters path = true ↔
      placePattern.FoundIn path ∨ StandsIn emptyBraces path) ∧
    List.Forall₂
      (fun r f => f.FillsAddress ↔ r.operation.requestSchema?.isSome = true ∧
        (placePattern.FoundIn r.path ∨ StandsIn emptyBraces r.path))
      d.routes ((ofDocument d o).script o).callables := by
  refine ⟨fillPath_replaces, fun path => Call.hasParameters_iff, ?_⟩
  rw [callables_ofDocument, List.forall₂_map_right_iff, List.forall₂_same]
  intro r _
  rw [Call.fillsAddress_function_iff, r.fillsPath_call_iff, Call.hasParameters_iff]

/-- An operation that takes parameters under a path with empty braces. -/
def nameless : Document :=
  let body : Body := ⟨[(jsonMediaType, ⟨some ⟨none, none, none, none, []⟩⟩)]⟩
  ⟨⟨"", ""⟩, [("/a/\x7b\x7d", [(.post, ⟨none, some body, []⟩)])], none⟩

/-- A function can have its address filled although the helper finds nothing to fill there. -/
theorem nameless_filled :
    Call.hasParameters "/a/\x7b\x7d" = true ∧ ¬ placePattern.FoundIn "/a/\x7b\x7d" ∧
    ∃ f, ((ofDocument nameless sanitizing).script sanitizing).callables = [f] ∧
      f.FillsAddress := by
  refine ⟨by decide, ?_, _, rfl, _, _, rfl⟩
  rw [foundIn_placePattern_iff]
  rintro ⟨front, name, back, hSome, -, hText⟩
  have hPath : "/a/\x7b\x7d".toList = ['/', 'a', '/', '\x7b', '\x7d'] := rfl
  rw [hPath] at hText
  obtain ⟨-, hRest⟩ : front = ['/', 'a', '/'] ∧ name ++ '\x7d' :: back = ['\x7d'] := by
    simpa [List.cons_eq_append_iff] using hText
  cases name with
  | nil => exact hSome rfl
  | cons c name => simp at hRest

end Client

end TypedClient
