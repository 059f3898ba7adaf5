import TypedClient.Proofs.Client.TypeNames
import TypedClient.Proofs.Naming.Schemas

/-!
Making the names of shared schemas fit, once and again. Main statement: in a client whose names were
made fit all of them can stand as they are, so doing it again changes nothing; and what could stand
before is left alone.
-/

namespace TypedClient

open Script

/-! ### The names of shared schemas -/

/-- The names in shared declarations: their own, and those that their types mention. -/
def Shared.names : Shared → List String
  | .declared ds => ds.flatMap fun d => d.name :: d.body.names
  | .verbatim _ => []

/-- The names of shared schemas in a client, in order: those that the declarations of its calls
mention, and those in its shared declarations. -/
def Client.schemaNames (c : Client) : List String :=
  c.declarations.flatMap (·.body.names) ++ c.shared.names

variable (f : String → String)

theorem Shared.names_mapNames (shared : Shared) :
    (shared.mapNames f).names = shared.names.map f := by
  cases shared with
  | verbatim text => rfl
  | declared ds =>
      rw [mapNames, names, names, List.flatMap_map, List.map_flatMap]
      simp only [DeclarationBody.names_mapNames, List.map_cons]

theorem Client.schemaNames_mapNames (c : Client) :
    (c.mapNames f).schemaNames = c.schemaNames.map f := by
  have hShared : (c.mapNames f).shared.names = c.shared.names.map f := c.shared.names_mapNames f
  rw [schemaNames, schemaNames, hShared, declarations_mapNames, List.flatMap_map, List.map_append,
    List.map_flatMap]
  simp only [Declaration.mapBody, DeclarationBody.names_mapNames]

/-! ### Names that stay as they are -/

variable {f}

theorem Shared.mapNames_eq_self {shared : Shared} (h : ∀ name ∈ shared.names, f name = name) :
    shared.mapNames f = shared := by
  cases shared with
  | verbatim text => rfl
  | declared ds =>
      rw [mapNames]
      refine congrArg declared ((List.map_congr_left fun d hd => ?_).trans (List.map_id ds))
      have hNames : ∀ name ∈ d.name :: d.body.names, f name = name := fun name hName =>
        h name (List.mem_flatMap.mpr ⟨d, hd, hName⟩)
      rw [hNames d.name (List.mem_cons_self ..), d.body.mapNames_eq_self fun name hName =>
        hNames name (List.mem_cons_of_mem _ hName)]
      rfl

namespace Client

theorem mapNames_eq_self {c : Client} (h : ∀ name ∈ c.schemaNames, f name = name) :
    c.mapNames f = c := by
  have hCalls : c.calls.map (·.mapNames f) = c.calls := by
    refine (List.map_congr_left fun call hCall => ?_).trans (List.map_id c.calls)
    refine Call.mapNames_eq_self fun d hd name hName => h name (List.mem_append_left _ ?_)
    exact List.mem_flatMap.mpr ⟨d, List.mem_flatMap.mpr ⟨call, hCall, hd⟩, hName⟩
  have hShared : c.shared.mapNames f = c.shared := Shared.mapNames_eq_self fun name hName =>
    h name (List.mem_append_right _ hName)
  rw [mapNames, hCalls, hShared]

/-- A client is left as it is just when all names of shared schemas in it can stand as they are. -/
theorem mapNames_typeName_eq_self_iff {c : Client} :
    c.mapNames Naming.typeName = c ↔ ∀ name ∈ c.schemaNames, Naming.isFit name = true := by
  constructor
  · intro h name hName
    rw [← h, schemaNames_mapNames] at hName
    obtain ⟨raw, -, rfl⟩ := List.mem_map.mp hName
    exact Naming.isFit_typeName raw
  · exact fun h => mapNames_eq_self fun name hName => Naming.typeName_of_isFit (h name hName)

/-- Making the names in a client fit a second time changes nothing. Place by place, what stands for
a name of a shared schema consists of letters, numbers, `_` and `$` without a number in front, and
it is the name itself just when that was so before. -/
theorem fitting_idempotent (c : Client) :
    (c.mapNames Naming.typeName).mapNames Naming.typeName = c.mapNames Naming.typeName ∧
    List.Forall₂
      (fun name fit => Naming.isFit fit = true ∧ (fit = name ↔ Naming.isFit name = true))
      c.schemaNames (c.mapNames Naming.typeName).schemaNames := by
  have hPlaces : List.Forall₂
      (fun name fit => Naming.isFit fit = true ∧ (fit = name ↔ Naming.isFit name = true))
      c.schemaNames (c.mapNames Naming.typeName).schemaNames := by
    rw [schemaNames_mapNames, List.forall₂_map_right_iff, List.forall₂_same]
    exact fun name _ => ⟨Naming.isFit_typeName name, Naming.typeName_eq_self_iff⟩
  refine ⟨mapNames_typeName_eq_self_iff.mpr fun fit hFit => ?_, hPlaces⟩
  rw [schemaNames_mapNames] at hFit
  obtain ⟨name, -, rfl⟩ := List.mem_map.mp hFit
  exact Naming.isFit_typeName name

end Client

end TypedClient
