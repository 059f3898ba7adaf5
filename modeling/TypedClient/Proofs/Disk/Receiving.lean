import TypedClient.Proofs.Disk.Replacing

/-!
What becomes of a disk when a file is written after the folders on the way to it were made. Main
statement: the file is there with its content, and so are all folders above it; every other file is
as it was, nothing is gone, and all that is new besides the file is on the way to it.
-/

namespace TypedClient

/-- A path lies under another one: the other one is the path without its last name, or lies above
that. -/
inductive Path.LiesUnder (p : Path) : Path → Prop
  | parent {q : Path} (h : p.parent? = some q) : p.LiesUnder q
  | above {q r : Path} (h : p.LiesUnder q) (hParent : q.parent? = some r) : p.LiesUnder r

/-- What lies above a path stands in front of its last name. -/
theorem Path.LiesUnder.front {p q : Path} (h : p.LiesUnder q) :
    q.rooted = p.rooted ∧ q.names <+: p.names.dropLast ∧ ∃ rest, p.text = q.text ++ rest := by
  induction h with
  | parent hParent =>
      obtain ⟨hRooted, hNames⟩ := parent?_names hParent
      exact ⟨hRooted, hNames, parent?_text hParent⟩
  | above _ hParent ih =>
      obtain ⟨hRooted, hNames, rest, hText⟩ := ih
      obtain ⟨hSame, hFront⟩ := parent?_names hParent
      obtain ⟨more, hMore⟩ := parent?_text hParent
      refine ⟨hSame.trans hRooted, ?_, more ++ rest, by rw [hText, hMore, String.append_assoc]⟩
      exact List.IsPrefix.trans hFront (List.IsPrefix.trans (List.dropLast_prefix _) hNames)

namespace Disk

/-- A disk before and after a file at a path was given a content. -/
structure Receives (before after : Disk) (p : Path) (content : List UInt8) : Prop where
  file : after.find p = .ok (.file content)
  /-- The empty path, above a path of one name, stands for the place that paths start from. -/
  above : ∀ q, p.LiesUnder q → q.text ≠ "" → after.find q = .ok .folder
  files : before.KeepsFiles after (before.IsAt p)
  folders : ∀ place, before.node? place = some .folder → after.node? place = some .folder
  kept : ∀ place, after.node? place = none → before.node? place = none
  fresh : ∀ place, before.node? place = none → after.node? place ≠ none →
    before.IsAt p place ∨ before.OnWay p p.names.dropLast place

variable {before mid after : Disk} {p : Path} {content : List UInt8} {fresh : Place → Prop}
  {place : Place}

theorem GrowsTo.folder (h : before.GrowsTo after fresh) (hFolder : before.node? place = some .folder) :
    after.node? place = some .folder := by
  rcases h.node? place with hSame | ⟨hNone, -⟩
  · rw [hSame, hFolder]
  · rw [hNone] at hFolder
    cases hFolder

theorem GrowsTo.kept (h : before.GrowsTo after fresh) (hNone : after.node? place = none) :
    before.node? place = none := by
  rcases h.node? place with hSame | ⟨hBefore, -⟩
  · rw [← hSame, hNone]
  · exact hBefore

/-- A file is written where folders may have been made on the way to it. -/
theorem receives_of_write (hGrows : before.GrowsTo mid (before.OnWay p p.names.dropLast))
    (hWrite : mid.write p content = .ok after) : before.Receives after p content := by
  obtain ⟨spot, hLocate, -, -, hSpot, rfl⟩ := write_eq_ok.mp hWrite
  obtain ⟨hPlace, hRoot⟩ := locate_eq_lead hLocate
  have hNode := fun place => node?_put mid spot place (.file content) hRoot
  have hAt : before.IsAt p spot := (isAt_eq hGrows.here).symm ▸ hPlace
  refine ⟨find_write hWrite, fun q hUnder hSome => ?_, ?_, fun place hFolder => ?_,
    fun place hNone => ?_, fun place hNone hSome => ?_⟩
  · obtain ⟨hRooted, hNames, rest, hText⟩ := hUnder.front
    exact find_of_front (locate_put hSpot hLocate) hRooted hNames hText hSome
  · refine hGrows.keepsFiles.trans ?_
    rw [← isAt_eq hGrows.here]
    exact keepsFiles_write hWrite
  · exact node?_put_folder hSpot (hGrows.folder hFolder)
  · rw [hNode] at hNone
    split at hNone
    · cases hNone
    · exact hGrows.kept hNone
  · rw [hNode] at hSome
    split at hSome
    · next hSame => exact .inl (hSame ▸ hAt)
    · rcases hGrows.node? place with hSame | ⟨-, -, hWay⟩
      · exact absurd (hSame.trans hNone) hSome
      · exact .inr hWay

end Disk

end TypedClient
