import TypedClient.Proofs.Client.Sections

/-!
The names of shared schemas with sanitized names. Main statement: shared schemas are declared under
names of their own just when no two keys collide, and a reference means the declaration of a schema
just when what it points to collides with the key of that schema.
-/

namespace TypedClient

open Script

/-- A schema refers to a declaration of the script: its type there is the name of the
declaration. -/
def Schema.RefersTo (s : Schema) (style : NamingStyle) (d : Declaration) : Prop :=
  s.typeExpr.mapNames (Naming.schemaName style) = .named d.name

theorem Schema.refersTo_iff {s : Schema} {reference : String} (h : s.reference = some reference)
    {style : NamingStyle} {d : Declaration} :
    s.RefersTo style d ↔ Naming.schemaName style (referenceName reference) = d.name := by
  rcases s with ⟨own, keyword, items, properties, required⟩
  obtain rfl : own = some reference := h
  rw [RefersTo, typeExpr, TypeExpr.mapNames, TypeExpr.named.injEq]

namespace Client

variable (d : Document) (o : Options)

/-- With sanitized names, shared schemas are exported under names of their own just when no two keys
collide. A reference is written with the name of a shared schema just when what it points to
collides with the key of that schema. Keys that can stand as they are remain as they are. -/
theorem sharedNames_apart_iff (hStyle : o.naming = .sanitized) (hShared : o.shared = .declared) :
    ((ofDocument d o).shared.exports.Nodup ↔
      d.schemaNames.Pairwise fun key key' => ¬ Naming.Collide key key') ∧
    (∃ declarations, (ofDocument d o).shared = .declared declarations ∧
      List.Forall₂ (fun key declaration => ∀ (s : Schema) (reference : String),
          s.reference = some reference →
            (s.RefersTo o.naming declaration ↔ Naming.Collide (referenceName reference) key))
        d.schemaNames declarations) ∧
    ((∀ key ∈ d.schemaNames, Naming.isFit key = true) →
      (ofDocument d o).shared.exports = d.schemaNames) := by
  have hFit : Naming.schemaName o.naming = Naming.typeName := by rw [hStyle]; rfl
  rw [shared_exports_ofDocument d hShared, hFit]
  refine ⟨?_, ⟨_, d.shared_ofDocument hShared, ?_⟩, ?_⟩
  · rw [List.Nodup, List.pairwise_map]
    simp only [ne_eq, Naming.typeName_eq_iff]
  · rw [Document.schemaNames, List.forall₂_map_left_iff, List.forall₂_map_right_iff,
      List.forall₂_same]
    intro entry _ s reference hReference
    rw [s.refersTo_iff hReference, ← Naming.typeName_eq_iff, hFit, Document.sharedDeclaration, hFit]
  · intro hAll
    refine (List.map_congr_left fun key hKey => ?_).trans (List.map_id _)
    exact Naming.typeName_of_isFit (hAll key hKey)

/-- Shared schemas whose keys nearly collide. -/
def ledgers : Document :=
  let text : Schema := ⟨none, some (.named "string"), none, none, []⟩
  let page : Schema := ⟨some "#/components/schemas/Page«User»", none, none, none, []⟩
  ⟨⟨"Ledgers", "1"⟩, [],
    some [("1A", text), ("1.A", page), ("Page«User»", text), ("Page_User", text)]⟩

theorem ledgers_sharedNames_apart :
    sanitizing.naming = .sanitized ∧ sanitizing.shared = .declared ∧
    ((ofDocument ledgers sanitizing).shared.exports.Nodup ↔
      ledgers.schemaNames.Pairwise fun key key' => ¬ Naming.Collide key key') ∧
    (∃ declarations, (ofDocument ledgers sanitizing).shared = .declared declarations ∧
      List.Forall₂ (fun key declaration => ∀ (s : Schema) (reference : String),
          s.reference = some reference →
            (s.RefersTo sanitizing.naming declaration ↔
              Naming.Collide (referenceName reference) key))
        ledgers.schemaNames declarations) ∧
    ((∀ key ∈ ledgers.schemaNames, Naming.isFit key = true) →
      (ofDocument ledgers sanitizing).shared.exports = ledgers.schemaNames) :=
  ⟨rfl, rfl, sharedNames_apart_iff ledgers sanitizing rfl rfl⟩

/-- Two shared schemas with different keys that collide, and the first of them is referred to. -/
def dotted : Document :=
  ⟨⟨"", ""⟩, [], some [("A.B", ⟨none, some (.named "string"), none, none, []⟩),
    ("A_B", ⟨none, some (.named "number"), none, none, []⟩),
    ("C", ⟨some "#/components/schemas/A.B", none, none, none, []⟩)]⟩

/-- Two shared schemas with different keys can be exported under one name, so that a reference to
either of them means the other as well. -/
theorem dotted_share_a_name :
    dotted.schemaNames.Nodup ∧
    (ofDocument dotted sanitizing).shared.exports = ["A_B", "A_B", "C"] ∧
    ∃ text number other, (ofDocument dotted sanitizing).shared = .declared [text, number, other] ∧
      text ≠ number ∧
      (⟨some "#/components/schemas/A.B", none, none, none, []⟩ : Schema).RefersTo .sanitized text ∧
      (⟨some "#/components/schemas/A.B", none, none, none, []⟩ : Schema).RefersTo .sanitized
        number := by
  refine ⟨by decide, by decide, _, _, _, rfl, ?_, ?_, ?_⟩
  · intro hSame
    exact nomatch congrArg Declaration.body hSame
  · exact (Schema.refersTo_iff rfl).mpr (by decide)
  · exact (Schema.refersTo_iff rfl).mpr (by decide)

end Client

end TypedClient
