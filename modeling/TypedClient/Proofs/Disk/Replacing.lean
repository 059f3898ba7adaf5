import TypedClient.Proofs.Disk.Folders

/-!
Files that are replaced, and files that stay. Main statements: where there is a file a new content
can always be written, and the folder that it lies in is there; and writing a file changes no other
one.
-/

namespace TypedClient.Disk

variable {d before mid after : Disk} {p q : Path} {place : Place} {content old : List UInt8}
  {own own' : Place → Prop}

/-! ### Where a file is -/

/-- A path leads to a file where it ends in the name of one, without a slash. -/
theorem find_eq_file :
    d.find p = .ok (.file content) ↔ ∃ place, d.locate p = .ok (.entry place) ∧
      p.endsInSlash = false ∧ isLong place = false ∧ d.node? place = some (.file content) := by
  unfold find
  cases d.locate p with
  | error e => simp
  | ok spot =>
      cases spot with
      | folder place => simp
      | entry place =>
          simp only [Except.ok.injEq, Spot.entry.injEq, exists_eq_left']
          cases isLong place with
          | true => simp
          | false =>
              rcases d.node? place with _ | _ | found
              · simp
              · simp
              · cases p.endsInSlash <;> simp

/-- A file is written where a path ends in a name, without a slash, and no folder has the name. -/
theorem write_eq_ok :
    d.write p content = .ok after ↔ ∃ place, d.locate p = .ok (.entry place) ∧
      p.endsInSlash = false ∧ isLong place = false ∧ d.node? place ≠ some .folder ∧
      after = d.put place (.file content) := by
  unfold write
  cases d.locate p with
  | error e => simp
  | ok spot =>
      cases spot with
      | folder place => simp
      | entry place =>
          simp only [Except.ok.injEq, Spot.entry.injEq, exists_eq_left']
          cases p.endsInSlash with
          | true => simp
          | false =>
              cases isLong place with
              | true => simp
              | false => rcases d.node? place with _ | _ | found <;> simp [eq_comm]

/-- A file can be replaced. -/
theorem write_succeeds (h : d.find p = .ok (.file old)) (content : List UInt8) :
    ∃ after, d.write p content = .ok after := by
  obtain ⟨place, hLocate, hSlash, hLong, hFile⟩ := find_eq_file.mp h
  exact ⟨_, write_eq_ok.mpr ⟨place, hLocate, hSlash, hLong, by simp [hFile], rfl⟩⟩

/-! ### Its folder -/

theorem walk_append (d : Disk) (place : Place) (front rest : List String) :
    d.walk place (front ++ rest) = (d.walk place front).bind fun mid => d.walk mid rest := by
  induction front generalizing place with
  | nil => rfl
  | cons name names ih =>
      rw [List.cons_append, walk, walk]
      cases d.enter place name with
      | error e => rfl
      | ok next => exact ih next

/-- A name that can be entered is that of a folder, or none at all. -/
theorem node?_of_enter {name : String} {next : Place} (h : d.enter place name = .ok next)
    (hDot : name ≠ ".") (hDots : name ≠ "..") :
    isLong (place ++ [name]) = false ∧ d.node? (place ++ [name]) = some .folder := by
  unfold enter at h
  rw [if_neg hDot, if_neg hDots] at h
  split at h
  · exact absurd h (by simp)
  next hLong =>
  split at h
  · exact absurd h (by simp)
  · exact absurd h (by simp)
  next hFolder =>
  exact ⟨by simpa [isLong] using hLong, hFolder⟩

/-- A path ends where its last name leads to from the others. -/
theorem locate_of_walk {front : List String} {name : String} (hFault : pathFault? p = none)
    (hNames : p.names = front ++ [name]) (hWalk : d.walk (d.start p) front = .ok place) :
    d.locate p = .ok (if name = "." then .folder place
      else if name = ".." then .folder place.dropLast else .entry (place ++ [name])) := by
  rw [start] at hWalk
  rw [locate, hFault, hNames, List.getLast?_concat, List.dropLast_concat]
  dsimp only
  rw [hWalk]
  dsimp only
  split
  · rfl
  · split <;> rfl

/-- A path along which one can walk to its end leads to a folder. -/
theorem find_of_walk {last : Place} (hFault : pathFault? p = none)
    (hWalk : d.walk (d.start p) p.names = .ok last) : d.find p = .ok .folder := by
  rcases List.eq_nil_or_concat p.names with hNone | ⟨front, name, hNames⟩
  · rw [find, locate, hFault, hNone]
    rfl
  rw [List.concat_eq_append] at hNames
  rw [hNames, walk_append] at hWalk
  cases hFront : d.walk (d.start p) front with
  | error e =>
      rw [hFront] at hWalk
      cases hWalk
  | ok place =>
      have hEnter : ∃ next, d.enter place name = .ok next := by
        rw [hFront] at hWalk
        change d.walk place [name] = .ok last at hWalk
        rw [walk] at hWalk
        cases hEnter : d.enter place name with
        | error e =>
            rw [hEnter] at hWalk
            cases hWalk
        | ok next => exact ⟨next, rfl⟩
      obtain ⟨next, hEnter⟩ := hEnter
      rw [find, locate_of_walk hFault hNames hFront]
      by_cases hDot : name = "."
      · rw [if_pos hDot]
      by_cases hDots : name = ".."
      · rw [if_neg hDot, if_pos hDots]
      obtain ⟨hLong, hFolder⟩ := node?_of_enter hEnter hDot hDots
      rw [if_neg hDot, if_neg hDots]
      dsimp only
      rw [hLong, hFolder]
      rfl

/-- Whoever can follow a path can follow one that its text begins with. -/
theorem pathFault?_of_front {rest : String} (h : pathFault? p = none) (hText : p.text = q.text ++ rest)
    (hSome : q.text ≠ "") : pathFault? q = none := by
  unfold pathFault? at h ⊢
  rw [hText, String.toList_append, List.any_append, String.utf8ByteSize_append] at h
  split at h
  · cases h
  next hZero =>
  split at h
  · cases h
  split at h
  · cases h
  next hLong =>
  have hFront : ¬ q.text.toList.any (fun c => decide (c.toNat = 0)) = true := by
    intro hAny
    exact hZero (by rw [hAny]; rfl)
  rw [if_neg hFront, if_neg hSome, if_neg (by omega)]

/-- Where a path ends in a name, every path along the names in front of it leads to a folder. -/
theorem find_of_front (h : d.locate p = .ok (.entry place)) (hRooted : q.rooted = p.rooted)
    (hNames : q.names <+: p.names.dropLast) {rest : String} (hText : p.text = q.text ++ rest)
    (hSome : q.text ≠ "") : d.find q = .ok .folder := by
  obtain ⟨hFault, last, -, hWalk, -⟩ := locate_eq_entry.mp h
  obtain ⟨more, hMore⟩ := hNames
  have hStart : d.start q = if p.rooted then [] else d.here := by rw [start, hRooted]
  rw [← hMore, walk_append, ← hStart] at hWalk
  cases hFront : d.walk (d.start q) q.names with
  | error e =>
      rw [hFront] at hWalk
      cases hWalk
  | ok front => exact find_of_walk (pathFault?_of_front hFault hText hSome) hFront

/-- The folder that a file lies in is there. -/
theorem find_folder? (h : d.locate p = .ok (.entry place)) (hFolder : p.folder? = some q) :
    d.find q = .ok .folder := by
  obtain ⟨hParent, hSome⟩ := Option.filter_eq_some_iff.mp hFolder
  obtain ⟨rest, hText⟩ := Path.parent?_text hParent
  obtain ⟨hRooted, hNames⟩ := Path.parent?_names hParent
  exact find_of_front h hRooted hNames hText (by simpa using hSome)

/-- A path that leads to a folder ends in one, or in the name of one. -/
theorem locate_of_find_folder (h : d.find p = .ok .folder) :
    (∃ place, d.locate p = .ok (.folder place)) ∨ ∃ place, d.locate p = .ok (.entry place) ∧
      isLong place = false ∧ d.node? place = some .folder := by
  unfold find at h
  cases hLocate : d.locate p with
  | error e => simp [hLocate] at h
  | ok spot =>
      cases spot with
      | folder place => exact .inl ⟨place, rfl⟩
      | entry place =>
          refine .inr ⟨place, rfl, ?_⟩
          simp only [hLocate] at h
          split at h
          · cases h
          next hLong =>
          refine ⟨by simpa using hLong, ?_⟩
          rcases hNode : d.node? place with _ | _ | found
          · simp [hNode] at h
          · rfl
          · simp only [hNode] at h
            split at h <;> cases h

/-- A folder that is there is not made. -/
theorem makeFolders_of_find (h : d.find p = .ok .folder) : d.makeFolders p = ⟨d, none⟩ := by
  have hMake : d.makeFolder p = .error .alreadyThere := by
    unfold makeFolder
    rcases locate_of_find_folder h with ⟨place, hLocate⟩ | ⟨place, hLocate, hLong, hFolder⟩
    · rw [hLocate]
    · rw [hLocate]
      dsimp only
      rw [hLong, hFolder]
      rfl
  have hThere : d.isFolder p = true := by rw [isFolder, h]
  rw [makeFolders, hMake, hThere]
  split <;> rfl

/-! ### The other files -/

/-- Paths start from where they did, and all files are the ones that were there, with the same
contents, but for what is at some places. -/
structure KeepsFiles (before after : Disk) (own : Place → Prop) : Prop where
  here : after.here = before.here
  file_iff : ∀ place content, ¬ own place →
    (after.node? place = some (.file content) ↔ before.node? place = some (.file content))

theorem KeepsFiles.refl : d.KeepsFiles d own :=
  ⟨rfl, fun _ _ _ => Iff.rfl⟩

theorem KeepsFiles.trans (h : before.KeepsFiles mid own) (h' : mid.KeepsFiles after own) :
    before.KeepsFiles after own :=
  ⟨h'.here.trans h.here, fun place content hOther =>
    (h'.file_iff place content hOther).trans (h.file_iff place content hOther)⟩

theorem KeepsFiles.mono (h : before.KeepsFiles after own) (hOwn : ∀ place, own place → own' place) :
    before.KeepsFiles after own' :=
  ⟨h.here, fun place content hOther => h.file_iff place content fun hPlace =>
    hOther (hOwn place hPlace)⟩

theorem GrowsTo.keepsFiles {fresh : Place → Prop} (h : before.GrowsTo after fresh) :
    before.KeepsFiles after own :=
  ⟨h.here, fun _ _ _ => h.file_iff⟩

/-- Where a file at a path is. -/
def IsAt (d : Disk) (p : Path) (place : Place) : Prop :=
  place = lead (d.start p) p.names

theorem isAt_eq (h : after.here = before.here) : after.IsAt p = before.IsAt p := by
  funext place
  rw [IsAt, IsAt, start, start, h]

/-- Writing a file changes no other one. -/
theorem keepsFiles_write (h : d.write p content = .ok after) : d.KeepsFiles after (d.IsAt p) := by
  obtain ⟨place, hLocate, -, -, -, rfl⟩ := write_eq_ok.mp h
  obtain ⟨hPlace, hRoot⟩ := locate_eq_lead hLocate
  refine ⟨rfl, fun other found hOther => ?_⟩
  rw [node?_put d place other _ hRoot, if_neg]
  rintro rfl
  exact hOther hPlace

end TypedClient.Disk
