import TypedClient.Proofs.Document.Decided

/-!
The paths of two texts in one. Main statement: a description whose text has the paths of two others
one after the other, and these have none in common, has the operations of the two one after the
other.
-/

namespace TypedClient

open Json

/-- The paths that stand in the text of a description, each with what is said under it. -/
def Document.pathOutlines (text : String) : List (String × Outline) :=
  match (Outline.ofString text).field? ["info", "paths", "components"] "paths" with
  | some (.object members) => members
  | _ => []

/-- A path item was read of a tree that says the same. -/
def PathItem.IsReadOf (room : Nat) (o : Outline) (item : PathItem) : Prop :=
  Part.pathItem.ReadAs (PathItem.read room) (Part.pathItem.keep o) item

namespace Document

/-- The paths of a description are those that its text has, each where it first occurs. -/
theorem forall₂_pathOutlines {text : String} {d : Document} (h : parse text = .ok d) :
    List.Forall₂ (fun x y => x.1 = y.1 ∧ PathItem.IsReadOf (fullRoom - 2) x.2 y.2)
      (Keyed.ofEntries (pathOutlines text)) d.paths := by
  obtain ⟨hRead, -⟩ := readString_result_eq_ok.mp (parse_eq_ok.mp h)
  obtain ⟨left, hLeft, hInside⟩ := Tree.readInside_of_readRecord hRead
  obtain ⟨s, hFinish, hRel⟩ := (slot_paths left).of_readInside hInside
  cases hFinish
  have hRoom : fullRoom - 2 = left - 1 := by omega
  rw [pathOutlines, Outline.ofString, Tree.field?_outline, hRoom]
  change Option.Rel _ ((Tree.ofString text).value.field? ["info", "paths", "components"] "paths")
    s.paths at hRel
  dsimp only
  generalize (Tree.ofString text).value.field? _ _ = written? at hRel ⊢
  generalize s.paths = read? at hRel ⊢
  cases hRel with
  | none => exact List.Forall₂.nil
  | @some written entries hEntries =>
      rw [Option.map_some, Part.outline_of_readKeyed hEntries]
      obtain ⟨pairs, hPairs, rfl⟩ := Reading.map_result_eq_ok.mp hEntries
      apply Keyed.forall₂_ofEntries (R := PathItem.IsReadOf (left - 1))
      rw [List.forall₂_map_left_iff]
      refine (Tree.forall₂_of_readObject hPairs).imp ?_
      rintro ⟨name, value⟩ y hEntry
      obtain ⟨item, hItem, rfl⟩ := Reading.map_result_eq_ok.mp hEntry
      exact ⟨rfl, value, rfl, hItem⟩

/-- A text with the paths of two others that have none in common, one after the other, describes the
operations of the one and then those of the other. -/
theorem routes_match_of_pathOutlines {text text₁ text₂ : String} {d d₁ d₂ : Document}
    (h : parse text = .ok d) (h₁ : parse text₁ = .ok d₁) (h₂ : parse text₂ = .ok d₂)
    (hPaths : pathOutlines text = pathOutlines text₁ ++ pathOutlines text₂)
    (hDisjoint : ∀ path ∈ (pathOutlines text₁).map (·.1), path ∉ (pathOutlines text₂).map (·.1)) :
    List.Forall₂ (Route.Matches Schema.Like Schema.Like) d.routes (d₁.routes ++ d₂.routes) := by
  have hBoth : List.Forall₂ (fun x y => x.1 = y.1 ∧ PathItem.IsReadOf (fullRoom - 2) x.2 y.2)
      (Keyed.ofEntries (pathOutlines text)) (d₁.paths ++ d₂.paths) := by
    rw [hPaths, Keyed.ofEntries_append hDisjoint]
    exact List.rel_append (forall₂_pathOutlines h₁) (forall₂_pathOutlines h₂)
  have hMatch : List.Forall₂ (fun x y => x.1 = y.1 ∧ PathItem.Like x.2 y.2) d.paths
      { d with paths := d₁.paths ++ d₂.paths }.paths := by
    refine Part.forall₂_of_common ?_ (forall₂_pathOutlines h) hBoth
    rintro x y y' ⟨hPath, hItem⟩ ⟨hPath', hItem'⟩
    exact ⟨hPath.symm.trans hPath', Part.decides_pathItem _ _ _ _ hItem hItem'⟩
  have hRoutes := routes_match hMatch
  rw [routes, routes, List.flatMap_append] at hRoutes
  exact hRoutes

end Document

end TypedClient
