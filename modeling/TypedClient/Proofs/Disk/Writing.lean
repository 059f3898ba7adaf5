import TypedClient.Disk.Basic
import TypedClient.Proofs.Text.Utf8

/-!
Files that were written. Main statement: after a path was written it leads to a file with the
content that was written. The way to it only leads through folders, and none of them is what was
written.
-/

namespace TypedClient.Disk

/-! ### The way -/

section Way

variable {d : Disk} {place q : Place} {content : List UInt8}

/-- A folder is still there after a file was put where none was. -/
theorem node?_put_folder (hq : d.node? q ≠ some .folder)
    (h : d.node? place = some .folder) : (d.put q (.file content)).node? place = some .folder := by
  have hRoot : q ≠ [] := by
    rintro rfl
    exact hq rfl
  rw [node?_put d q place _ hRoot, if_neg, h]
  rintro rfl
  exact hq h

theorem enter_put {name : String} {next : Place} (hq : d.node? q ≠ some .folder)
    (h : d.enter place name = .ok next) :
    (d.put q (.file content)).enter place name = .ok next := by
  unfold enter at h ⊢
  split
  · next hDot => rwa [if_pos hDot] at h
  next hDot =>
  rw [if_neg hDot] at h
  split
  · next hDots => rwa [if_pos hDots] at h
  next hDots =>
  rw [if_neg hDots] at h
  split
  · next hLong => rwa [if_pos hLong] at h
  next hLong =>
  rw [if_neg hLong] at h
  split at h
  · exact absurd h (by simp)
  · exact absurd h (by simp)
  · next hFolder =>
      rw [node?_put_folder hq hFolder]
      exact h

theorem walk_put {names : List String} {last : Place} (hq : d.node? q ≠ some .folder)
    (h : d.walk place names = .ok last) :
    (d.put q (.file content)).walk place names = .ok last := by
  induction names generalizing place with
  | nil => exact h
  | cons name names ih =>
      rw [walk] at h ⊢
      cases hEnter : d.enter place name with
      | error e =>
          rw [hEnter] at h
          exact absurd h (by simp)
      | ok next =>
          rw [hEnter] at h
          rw [enter_put hq hEnter]
          exact ih h

/-- A path ends in a name where its last one is a name and the others lead to a folder. -/
theorem locate_eq_entry {p : Path} :
    d.locate p = .ok (.entry place) ↔ pathFault? p = none ∧ ∃ folder last,
      d.walk (if p.rooted then [] else d.here) p.names.dropLast = .ok folder ∧
        p.names.getLast? = some last ∧ last ≠ "." ∧ last ≠ ".." ∧ place = folder ++ [last] := by
  unfold locate
  cases pathFault? p with
  | some e => simp
  | none =>
      cases p.names.getLast? with
      | none => simp
      | some last =>
          dsimp only
          cases d.walk (if p.rooted then [] else d.here) p.names.dropLast with
          | error e => simp
          | ok folder =>
              by_cases hDot : last = "."
              · simp [hDot]
              · by_cases hDots : last = ".."
                · simp [hDots]
                · simp [hDot, hDots, eq_comm]

/-- A path still ends where it did after a file was put where no folder was. -/
theorem locate_put {p : Path} (hq : d.node? q ≠ some .folder)
    (h : d.locate p = .ok (.entry place)) :
    (d.put q (.file content)).locate p = .ok (.entry place) := by
  obtain ⟨hFault, folder, last, hWalk, hLast⟩ := locate_eq_entry.mp h
  exact locate_eq_entry.mpr ⟨hFault, folder, last, walk_put hq hWalk, hLast⟩

end Way

/-! ### What was written -/

/-- What was written at a path is what it leads to. -/
theorem find_write {d after : Disk} {p : Path} {content : List UInt8}
    (h : d.write p content = .ok after) : after.find p = .ok (.file content) := by
  unfold write at h
  split at h
  · exact absurd h (by simp)
  · exact absurd h (by simp)
  next place hLocate =>
  split at h
  · exact absurd h (by simp)
  next hSlash =>
  split at h
  · exact absurd h (by simp)
  next hLong =>
  split at h
  · exact absurd h (by simp)
  next hFolder =>
  cases h
  have hRoot : place ≠ [] := by
    rintro rfl
    exact hFolder rfl
  rw [find, locate_put hFolder hLocate]
  dsimp only
  rw [if_neg hLong, node?_put d place place _ hRoot, if_pos rfl]
  dsimp only
  rw [if_neg hSlash]

theorem read_write {d after : Disk} {p : Path} {content : List UInt8}
    (h : d.write p content = .ok after) : after.read p = .ok content := by
  rw [read, find_write h]

/-- A file that holds the bytes of a text is read as that text. -/
theorem readText_of_read {d : Disk} {path : Path} {text : String}
    (h : d.read path = .ok (Text.encodeUtf8 text.toList)) : d.readText path = .ok text := by
  rw [readText, h]
  dsimp only
  rw [Text.decodeUtf8?_encodeUtf8]
  exact congrArg Except.ok String.ofList_toList

/-- Where a text can be read there is a file. -/
theorem find_of_readText {d : Disk} {path : Path} {text : String}
    (h : d.readText path = .ok text) : ∃ content, d.find path = .ok (.file content) := by
  rw [readText, read] at h
  split at h
  · cases h
  next content hContent =>
  split at hContent
  · next found hFound => exact ⟨found, hFound⟩
  · cases hContent
  · cases hContent

theorem isThere_of_readText {d : Disk} {path : Path} {text : String}
    (h : d.readText path = .ok text) : d.isThere path = true := by
  obtain ⟨content, hFind⟩ := find_of_readText h
  rw [isThere, hFind]

/-- A text that was written is read again. -/
theorem readText_write {d after : Disk} {p : Path} {text : String}
    (h : d.write p (Text.encodeUtf8 text.toList) = .ok after) : after.readText p = .ok text :=
  readText_of_read (read_write h)

end TypedClient.Disk
