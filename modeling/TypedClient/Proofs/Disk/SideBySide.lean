import TypedClient.Proofs.Disk.Replacing

/-!
Two disks that differ in what is inside some files. Main statements: a path ends at the same place on
both, and writing a file or making folders succeeds or fails on both alike, and leaves them differing
no more than before.
-/

namespace TypedClient.Disk

variable {d d' : Disk} {own : Place → Prop} {p : Path} {place : Place}

/-- The same stands everywhere, but where there is a file at some places it may have another
content. -/
structure SameBut (d d' : Disk) (own : Place → Prop) : Prop where
  here : d.here = d'.here
  node? : ∀ place, d.node? place = d'.node? place ∨
    own place ∧ ∃ content content', d.node? place = some (.file content) ∧
      d'.node? place = some (.file content')

theorem SameBut.put (h : d.SameBut d' own) (hRoot : place ≠ []) (n : Node) :
    (d.put place n).SameBut (d'.put place n) own := by
  refine ⟨h.here, fun q => ?_⟩
  rw [node?_put d place q n hRoot, node?_put d' place q n hRoot]
  by_cases hq : q = place
  · exact .inl (by rw [if_pos hq, if_pos hq])
  · rw [if_neg hq, if_neg hq]
    exact h.node? q

/-! ### Finding the way -/

theorem SameBut.enter_eq (h : d.SameBut d' own) (place : Place) (name : String) :
    d.enter place name = d'.enter place name := by
  unfold enter
  rcases h.node? (place ++ [name]) with hSame | ⟨-, content, content', hFile, hFile'⟩
  · rw [hSame]
  · rw [hFile, hFile']

theorem SameBut.walk_eq (h : d.SameBut d' own) (place : Place) (names : List String) :
    d.walk place names = d'.walk place names := by
  induction names generalizing place with
  | nil => rfl
  | cons name names ih =>
      rw [walk, walk, h.enter_eq]
      cases d'.enter place name with
      | error e => rfl
      | ok next => exact ih next

theorem SameBut.locate_eq (h : d.SameBut d' own) (p : Path) : d.locate p = d'.locate p := by
  unfold locate
  simp only [h.here, h.walk_eq]

theorem SameBut.isFolder_eq (h : d.SameBut d' own) (p : Path) : d.isFolder p = d'.isFolder p := by
  unfold isFolder find
  rw [h.locate_eq]
  cases d'.locate p with
  | error e => rfl
  | ok spot =>
      cases spot with
      | folder place => rfl
      | entry place =>
          dsimp only
          rcases h.node? place with hSame | ⟨-, content, content', hFile, hFile'⟩
          · rw [hSame]
          · rw [hFile, hFile']
            cases isLong place with
            | true => rfl
            | false => cases p.endsInSlash <;> rfl

/-! ### Changes -/

/-- What came of two changes: both failed alike, or both were made. -/
inductive SameChange (own : Place → Prop) : Except DiskFault Disk → Except DiskFault Disk → Prop
  | error (e : DiskFault) : SameChange own (.error e) (.error e)
  | ok {after after' : Disk} (h : after.SameBut after' own) : SameChange own (.ok after) (.ok after')

theorem SameChange.of_error {r : Except DiskFault Disk} {e : DiskFault}
    (h : SameChange own (.error e) r) : r = .error e := by
  cases h
  rfl

theorem SameChange.of_ok {r : Except DiskFault Disk} {after : Disk}
    (h : SameChange own (.ok after) r) : ∃ after', r = .ok after' ∧ after.SameBut after' own := by
  cases h with
  | ok hAfter => exact ⟨_, rfl, hAfter⟩

theorem SameBut.write (h : d.SameBut d' own) (p : Path) (content : List UInt8) :
    SameChange own (d.write p content) (d'.write p content) := by
  unfold Disk.write
  rw [h.locate_eq]
  cases hLocate : d'.locate p with
  | error e => exact .error e
  | ok spot =>
      cases spot with
      | folder place => exact .error _
      | entry place =>
          have hPut := h.put (locate_eq_lead hLocate).2 (.file content)
          dsimp only
          split
          · exact .error _
          split
          · exact .error _
          -- only a folder at this place stops it, not what an old file contains
          rcases h.node? place with hSame | ⟨-, old, old', hFile, hFile'⟩
          · rw [hSame]
            split
            · exact .error _
            · exact .ok hPut
          · rw [hFile, hFile']
            exact .ok hPut

theorem SameBut.makeFolder (h : d.SameBut d' own) (p : Path) :
    SameChange own (d.makeFolder p) (d'.makeFolder p) := by
  unfold Disk.makeFolder
  rw [h.locate_eq]
  cases hLocate : d'.locate p with
  | error e => exact .error e
  | ok spot =>
      cases spot with
      | folder place => exact .error _
      | entry place =>
          have hPut := h.put (locate_eq_lead hLocate).2 .folder
          dsimp only
          split
          · exact .error _
          rcases h.node? place with hSame | ⟨-, old, old', hFile, hFile'⟩
          · rw [hSame]
            split
            · exact .error _
            · exact .ok hPut
          · rw [hFile, hFile']
            exact .error _

/-- What became of making folders on two disks. -/
structure Made.SameBut (m m' : Made) (own : Place → Prop) : Prop where
  fault : m.fault = m'.fault
  disk : m.disk.SameBut m'.disk own

theorem SameBut.ensureFolder (h : d.SameBut d' own) (p : Path) :
    (d.ensureFolder p).SameBut (d'.ensureFolder p) own := by
  unfold Disk.ensureFolder
  rw [h.isFolder_eq]
  generalize hMade : d.makeFolder p = made
  generalize hMade' : d'.makeFolder p = made'
  have hChange := h.makeFolder p
  rw [hMade, hMade'] at hChange
  cases hChange with
  | error e => exact ⟨rfl, h⟩
  | ok hAfter => exact ⟨rfl, hAfter⟩

/-- The induction goes up to the first folder that can be made or is there. -/
theorem SameBut.makeFolders (h : d.SameBut d' own) (p : Path) :
    (d.makeFolders p).SameBut (d'.makeFolders p) own := by
  have hChange := fun q => h.makeFolder q
  induction p using makeFolders.induct d with
  | case1 p hEmpty =>
      rw [Disk.makeFolders, Disk.makeFolders, if_pos hEmpty, if_pos hEmpty]
      exact ⟨rfl, h⟩
  | case2 p hEmpty made hMade =>
      obtain ⟨made', hMade', hAfter⟩ := (hMade ▸ hChange p).of_ok
      rw [Disk.makeFolders, Disk.makeFolders, if_neg hEmpty, if_neg hEmpty, hMade, hMade']
      exact ⟨rfl, hAfter⟩
  | case3 p hEmpty hMissing hParent =>
      have hMissing' := (hMissing ▸ hChange p).of_error
      rw [makeFolders_of_missing hEmpty hMissing, makeFolders_of_missing hEmpty hMissing', hParent]
      exact ⟨rfl, h⟩
  | case4 p hEmpty hMissing q hParent _ above e hFault ih =>
      have hMissing' := (hMissing ▸ hChange p).of_error
      have hFault' : (d'.makeFolders q).fault = some e := ih.fault.symm.trans hFault
      rw [makeFolders_of_missing hEmpty hMissing, makeFolders_of_missing hEmpty hMissing', hParent]
      dsimp only
      rw [hFault, hFault']
      exact ⟨rfl, ih.disk⟩
  | case5 p hEmpty hMissing q hParent _ above hFault ih =>
      have hMissing' := (hMissing ▸ hChange p).of_error
      have hFault' : (d'.makeFolders q).fault = none := ih.fault.symm.trans hFault
      rw [makeFolders_of_missing hEmpty hMissing, makeFolders_of_missing hEmpty hMissing', hParent]
      dsimp only
      rw [hFault, hFault']
      exact ih.disk.ensureFolder p
  | case6 p hEmpty e hMissing hFault =>
      have hFault' := (hFault ▸ hChange p).of_error
      rw [Disk.makeFolders, Disk.makeFolders, if_neg hEmpty, if_neg hEmpty, hFault, hFault',
        h.isFolder_eq]
      cases e with
      | missing => exact absurd rfl hMissing
      | _ => exact ⟨rfl, h⟩

end TypedClient.Disk
