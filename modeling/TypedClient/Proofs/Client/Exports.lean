import TypedClient.Proofs.Client.Sections

/-!
The list of exports. Main statement: a client ends with a list of all names of types that its
operations need, each once and in the order in which the types are declared, and then the name of
the envelope.
-/

namespace TypedClient

open Script Text

/-- A client ends with the names of the types that it declares for its operations, each once and
where it is first declared, and then the name of the envelope, which is none of them: the names of
types that operations need come from methods and paths, and no such name is that of the envelope. -/
theorem Document.exports_list_types_once (d : Document) (o : Options) :
    ∃ (names : List String) (front : String),
      ((Client.ofDocument d o).script o).exports = names ++ [baseResponseName] ∧
      (names ++ [baseResponseName]).Nodup ∧
      Keyed.InFirstOrder names (((Client.ofDocument d o).script o).types.map (·.name)) ∧
      ((Client.ofDocument d o).script o).types.map (·.name) = d.operationTypeNames o.naming ∧
      (∀ role m path style, Naming.derive role m path style ≠ baseResponseName) ∧
      (d.generate o).code = front ++
        ("// Exported types\nexport type \x7b\n  " ++
          joined ",\n  " (names ++ [baseResponseName]) ++ "\n\x7d;\n") := by
  have hOrder := Keyed.inFirstOrder_eraseDups
    (((Client.ofDocument d o).script o).types.map (·.name))
  have hOther : baseResponseName ∉
      (((Client.ofDocument d o).script o).types.map (·.name)).eraseDups :=
    fun h => Client.baseResponseName_not_mem_names d o ((hOrder.mem_iff _).mp h)
  have hOnce := hOrder.nodup.append (List.nodup_singleton baseResponseName)
    (List.disjoint_singleton.mpr hOther)
  have hClosed := d.closes_script o
  rw [← d.types_script o] at hClosed
  obtain ⟨declared, hBack, -⟩ := hClosed.split
  have hCode := d.code_eq o d.schemas o.shared
  rw [hBack, ← String.append_assoc] at hCode
  exact ⟨_, _, Client.exports_ofDocument d o, hOnce, hOrder,
    Client.declarations_ofDocument_names d o, Client.derive_ne_baseResponseName, hCode⟩

end TypedClient
