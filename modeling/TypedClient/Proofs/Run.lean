import TypedClient.Run.Basic

/-!
Runs in steps: what a run in two steps ends with, and on which disk, in terms of the two.
-/

namespace TypedClient

/-- The deeds of asking. -/
def Fetched.deeds {α : Type} (f : Fetched α) : List Deed :=
  f.call.toList.map .asked ++ f.events.map .logged

/-- The same with deeds before. -/
def Outcome.after {ε α : Type} (o : Outcome ε α) (deeds : List Deed) : Outcome ε α :=
  { o with deeds := deeds ++ o.deeds }

@[simp] theorem Outcome.disk_after {ε α : Type} (o : Outcome ε α) (deeds : List Deed) :
    (o.after deeds).disk = o.disk := rfl

@[simp] theorem Outcome.result_after {ε α : Type} (o : Outcome ε α) (deeds : List Deed) :
    (o.after deeds).result = o.result := rfl

namespace Run

variable {ε δ α β : Type}

/-- A run in two steps ends well exactly if both do; it ends on the disk of the second. -/
theorem result_bind_eq_ok {r : Run ε α} {f : α → Run ε β} {d : Disk} {b : β}
    (h : ((r >>= f).on d).result = .ok b) :
    ∃ a, (r.on d).result = .ok a ∧ ((f a).on (r.on d).disk).result = .ok b ∧
      ((r >>= f).on d).disk = ((f a).on (r.on d).disk).disk := by
  rw [on_bind] at h ⊢
  cases hFirst : (r.on d).result with
  | error e =>
      rw [hFirst] at h
      exact absurd h (by simp)
  | ok a =>
      rw [hFirst] at h
      exact ⟨a, rfl, h, rfl⟩

/-- A run in two steps goes on where the first one ended. -/
theorem on_bind_of_ok {r : Run ε α} {f : α → Run ε β} {d : Disk} {a : α}
    (h : (r.on d).result = .ok a) :
    (r >>= f).on d = ((f a).on (r.on d).disk).after (r.on d).deeds := by
  rw [on_bind, h]
  rfl

theorem disk_bind_of_ok {r : Run ε α} {f : α → Run ε β} {d : Disk} {a : α}
    (h : (r.on d).result = .ok a) :
    ((r >>= f).on d).disk = ((f a).on (r.on d).disk).disk := by
  rw [on_bind, h]

theorem on_disk_bind (f : Disk → Run ε β) (d : Disk) : (disk >>= f).on d = (f d).on d := rfl

theorem result_bind_of_ok {r : Run ε α} {f : α → Run ε β} {d : Disk} {a : α}
    (h : (r.on d).result = .ok a) :
    ((r >>= f).on d).result = ((f a).on (r.on d).disk).result := by
  rw [on_bind, h]

/-- A run in two steps fails where the first step does, or where the second does after the first
ended well. -/
theorem failed_bind {r : Run ε α} {f : α → Run ε β} {d : Disk} {e : ε}
    (h : ((r >>= f).on d).result = .error e) :
    ((r.on d).result = .error e ∧ ((r >>= f).on d).disk = (r.on d).disk) ∨
      ∃ a, (r.on d).result = .ok a ∧ ((f a).on (r.on d).disk).result = .error e ∧
        ((r >>= f).on d).disk = ((f a).on (r.on d).disk).disk := by
  rw [on_bind] at h ⊢
  cases hFirst : (r.on d).result with
  | error e' =>
      rw [hFirst] at h
      cases h
      exact .inl ⟨rfl, rfl⟩
  | ok a =>
      rw [hFirst] at h
      exact .inr ⟨a, rfl, h, rfl⟩

theorem on_blaming (r : Run ε α) (f : ε → δ) (d : Disk) :
    (r.blaming f).on d = ⟨(r.on d).disk, (r.on d).deeds, (r.on d).result.mapError f⟩ := by
  change Outcome.mk _ _ _ = _
  congr 1
  change _ = (r d).result.mapError f
  cases (r d).result <;> rfl

/-- A run that blames differently fails where the run does, on the same disk. -/
theorem failed_blaming {r : Run ε α} {f : ε → δ} {d : Disk} {e : δ}
    (h : ((r.blaming f).on d).result = .error e) :
    ∃ cause, (r.on d).result = .error cause ∧ e = f cause ∧
      ((r.blaming f).on d).disk = (r.on d).disk := by
  rw [on_blaming] at h ⊢
  cases hResult : (r.on d).result with
  | error cause =>
      rw [hResult] at h
      cases h
      exact ⟨cause, rfl, rfl, rfl⟩
  | ok a =>
      rw [hResult] at h
      cases h

/-- A run that blames differently ends well where the run does, on the same disk. -/
theorem succeeded_blaming {r : Run ε α} {f : ε → δ} {d : Disk} {a : α}
    (h : ((r.blaming f).on d).result = .ok a) :
    (r.on d).result = .ok a ∧ ((r.blaming f).on d).disk = (r.on d).disk := by
  rw [on_blaming] at h ⊢
  cases hResult : (r.on d).result with
  | error cause =>
      rw [hResult] at h
      cases h
  | ok found =>
      rw [hResult] at h
      cases h
      exact ⟨rfl, rfl⟩

/-- A text that a run has written is on the disk that it leaves. -/
theorem write_of_writeText {δ : Type} {path : Path} {text : String} {f : DiskFault → δ}
    {d : Disk} (h : (((writeText path text).blaming f).on d).result = .ok ()) :
    d.write path (Text.encodeUtf8 text.toList) =
      .ok (((writeText path text).blaming f).on d).disk := by
  obtain ⟨hText, hDisk⟩ := succeeded_blaming h
  rw [hDisk]
  unfold on writeText at hText ⊢
  dsimp only at hText ⊢
  cases hWrite : d.write path (Text.encodeUtf8 text.toList) with
  | error e =>
      rw [hWrite] at hText
      cases hText
  | ok after => rfl

/-! ### Deeds before -/

theorem after_after {o : Outcome ε α} {deeds deeds' : List Deed} :
    (o.after deeds').after deeds = o.after (deeds ++ deeds') := by
  rw [Outcome.after, Outcome.after, Outcome.after, List.append_assoc]

theorem on_perform_bind (deeds : List Deed) (f : Unit → Run ε β) (d : Disk) :
    (perform deeds >>= f).on d = ((f ()).on d).after deeds := rfl

theorem on_ofFetched_bind {fetched : Fetched α} {a : α} (h : fetched.result = .ok a)
    (g : FetchError → ε) (f : α → Run ε β) (d : Disk) :
    ((ofFetched fetched).blaming g >>= f).on d = ((f a).on d).after fetched.deeds := by
  have hRun : ((ofFetched fetched).blaming g).on d = ⟨d, fetched.deeds, .ok a⟩ := by
    rw [on_blaming, on, ofFetched, h]
    rfl
  rw [on_bind_of_ok (congrArg Outcome.result hRun), hRun]

/-- A run that asks first and ends well was answered, and goes on with the answer. -/
theorem on_ofFetched_bind_of_ok {fetched : Fetched α} {g : FetchError → ε} {f : α → Run ε β}
    {d : Disk} {b : β} (h : (((ofFetched fetched).blaming g >>= f).on d).result = .ok b) :
    ∃ a, fetched.result = .ok a ∧
      ((ofFetched fetched).blaming g >>= f).on d = ((f a).on d).after fetched.deeds := by
  obtain ⟨a, hAsked, -, -⟩ := result_bind_eq_ok h
  obtain ⟨hAnswer, -⟩ := succeeded_blaming hAsked
  exact ⟨a, hAnswer, on_ofFetched_bind hAnswer g f d⟩

end Run

end TypedClient
