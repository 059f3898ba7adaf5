import TypedClient.Proofs.Client.Callables
import TypedClient.Proofs.Naming.Operations

/-!
The constants that a script exports, with sanitized names. Main statement: where paths hold letters,
digits, slashes and what separates words, the names of the functions are bare and none of them is
taken already; two of them are the same just when the method is and the words of the paths run
together to the same; and none is a reserved word but that of a deletion under a path without words.
-/

namespace TypedClient

open Script

/-- The words that name nothing in a script, which is a module and thereby strict. -/
def Script.reservedWords : List String :=
  ["await", "break", "case", "catch", "class", "const", "continue", "debugger", "default",
    "delete", "do", "else", "enum", "export", "extends", "false", "finally", "for", "function",
    "if", "implements", "import", "in", "instanceof", "interface", "let", "new", "null",
    "package", "private", "protected", "public", "return", "static", "super", "switch", "this",
    "throw", "true", "try", "typeof", "var", "void", "while", "with", "yield"]

/-- The names of the constants that a script exports. -/
def Script.Module.constants (m : Module) : List String :=
  (m.functions.filter (·.exported)).map (·.name)

namespace Naming

variable {m : Method} {path : String}

/-- One reserved word begins like the name of a function. -/
theorem eq_delete_of_isPrefix {word : String} (hWord : word ∈ reservedWords)
    (h : m.lower.toList <+: word.toList) : m = .delete ∧ word = "delete" := by
  revert word
  cases m <;> decide

theorem derive_function_mem_reservedWords_iff
    (h : ∀ c ∈ path.toList, isPathChar c = true) :
    derive .function m path .sanitized ∈ reservedWords ↔
      m = .delete ∧ ∀ c ∈ path.toList, c.isAlphanum = false := by
  have hName : (derive .function m path .sanitized).toList = m.lower.toList ++ wordsName path := by
    rw [derive_toList, pathName_eq_wordsName h]
    exact List.append_nil _
  rw [← wordsName_eq_nil_iff]
  constructor
  · intro hWord
    obtain ⟨rfl, hDelete⟩ := eq_delete_of_isPrefix hWord (hName ▸ List.prefix_append _ _)
    refine ⟨rfl, ?_⟩
    rw [hDelete] at hName
    exact (List.self_eq_append_right.mp hName)
  · rintro ⟨rfl, hNone⟩
    rw [hNone, List.append_nil, String.toList_inj] at hName
    rw [hName]
    decide

/-- A name that begins with the word of a method is neither that of the helper nor that of the
client library. -/
theorem derive_function_ne (style : NamingStyle) {name : String}
    (hName : name = fillPathName ∨ name = "axios") :
    derive .function m path style ≠ name := by
  intro h
  rw [← h, ← String.toList_inj, ← String.toList_inj, derive_toList] at hName
  cases m <;> simp [front, Method.lower, fillPathName] at hName

end Naming

namespace Client

theorem constants_ofDocument (d : Document) (o : Options) :
    ((ofDocument d o).script o).constants =
      d.routes.map fun r => Naming.derive .function r.method r.path o.naming := by
  change ((ofDocument d o).script o).callables.map (·.name) = _
  rw [callables_ofDocument, List.map_map]
  rfl

/-- With sanitized names, and paths made of letters, digits, slashes and what separates words:
every constant has a name that can stand bare and that nothing else has taken; all have different
names just when no two operations of one method have paths whose words run together to the same;
and one has a reserved word for its name just when it deletes under a path without words. -/
theorem constants_bind_iff (d : Document) (o : Options) (hStyle : o.naming = .sanitized)
    (hPaths : ∀ r ∈ d.routes, ∀ c ∈ r.path.toList, Naming.isPathChar c = true) :
    (∀ name ∈ ((ofDocument d o).script o).constants, isBare name = true ∧ name ≠ fillPathName ∧
        name ∉ ((ofDocument d o).script o).imports.map (·.name)) ∧
      (((ofDocument d o).script o).constants.Nodup ↔ d.routes.Pairwise fun r r' =>
        r.method = r'.method → Naming.wordsName r.path ≠ Naming.wordsName r'.path) ∧
      ((∃ name ∈ ((ofDocument d o).script o).constants, name ∈ reservedWords) ↔
        ∃ r ∈ d.routes, r.method = .delete ∧ ∀ c ∈ r.path.toList, c.isAlphanum = false) := by
  rw [constants_ofDocument, hStyle]
  refine ⟨?_, ?_, ?_⟩
  · intro name hName
    obtain ⟨r, hr, rfl⟩ := List.mem_map.mp hName
    refine ⟨Naming.isBare_derive (hPaths r hr),
      Naming.derive_function_ne _ (.inl rfl), ?_⟩
    intro hImport
    exact Naming.derive_function_ne _ (.inr (List.mem_singleton.mp hImport)) rfl
  · rw [List.Nodup, List.pairwise_map]
    refine List.Pairwise.iff_of_mem fun {r r'} hr hr' => ?_
    rw [Ne, Naming.derive_function_eq_iff, Naming.pathName_eq_wordsName (hPaths r hr),
      Naming.pathName_eq_wordsName (hPaths r' hr'), not_and]
  · constructor
    · rintro ⟨name, hName, hWord⟩
      obtain ⟨r, hr, rfl⟩ := List.mem_map.mp hName
      exact ⟨r, hr, (Naming.derive_function_mem_reservedWords_iff (hPaths r hr)).mp hWord⟩
    · rintro ⟨r, hr, hDelete⟩
      exact ⟨_, List.mem_map_of_mem hr,
        (Naming.derive_function_mem_reservedWords_iff (hPaths r hr)).mpr hDelete⟩

/-- The usual choices but for sanitized names. -/
def sanitizing : Options :=
  { Options.standard with naming := .sanitized }

/-- Operations without types under paths with every kind of separator. -/
def trips : Document :=
  let bare : Operation := ⟨none, none, []⟩
  ⟨⟨"Trips", "1"⟩, [("/trips/\x7btrip_id\x7d/v1.2", [(.get, bare), (.delete, bare)]),
    ("//trip-s/", [(.get, bare)]), ("/", [(.get, bare)])], none⟩

theorem trips_constants_bind :
    (∀ r ∈ trips.routes, ∀ c ∈ r.path.toList, Naming.isPathChar c = true) ∧
    (∀ name ∈ ((ofDocument trips sanitizing).script sanitizing).constants,
      isBare name = true ∧ name ≠ fillPathName ∧
        name ∉ ((ofDocument trips sanitizing).script sanitizing).imports.map (·.name)) ∧
      (((ofDocument trips sanitizing).script sanitizing).constants.Nodup ↔
        trips.routes.Pairwise fun r r' =>
          r.method = r'.method → Naming.wordsName r.path ≠ Naming.wordsName r'.path) ∧
      ((∃ name ∈ ((ofDocument trips sanitizing).script sanitizing).constants,
          name ∈ reservedWords) ↔
        ∃ r ∈ trips.routes, r.method = .delete ∧ ∀ c ∈ r.path.toList, c.isAlphanum = false) := by
  have hAll : trips.routes.all fun r => r.path.toList.all Naming.isPathChar := by decide
  have hPaths : ∀ r ∈ trips.routes, ∀ c ∈ r.path.toList, Naming.isPathChar c = true :=
    fun r hr => List.all_eq_true.mp (List.all_eq_true.mp hAll r hr)
  exact ⟨hPaths, constants_bind_iff trips sanitizing rfl hPaths⟩

/-- A deletion under the root, and two different paths whose words run together to the same. -/
def crowded : Document :=
  let bare : Operation := ⟨none, none, []⟩
  ⟨⟨"", ""⟩, [("/", [(.delete, bare)]), ("/a-b", [(.get, bare)]), ("/a/b", [(.get, bare)])], none⟩

/-- Distinct operations under usual paths can have one name, and a reserved word for a name. -/
theorem crowded_constants :
    (crowded.routes.map fun r => (r.path, r.method)).Nodup ∧
    (∀ r ∈ crowded.routes, ∀ c ∈ r.path.toList, Naming.isPathChar c = true) ∧
    ¬ ((ofDocument crowded sanitizing).script sanitizing).constants.Nodup ∧
    ∃ name ∈ ((ofDocument crowded sanitizing).script sanitizing).constants,
      name ∈ reservedWords := by
  have hAll : crowded.routes.all fun r => r.path.toList.all Naming.isPathChar := by decide
  refine ⟨by decide, fun r hr => List.all_eq_true.mp (List.all_eq_true.mp hAll r hr), ?_, ?_⟩
  · decide
  · exact ⟨"delete", by decide, by decide⟩

end Client

end TypedClient
