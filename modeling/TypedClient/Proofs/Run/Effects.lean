import TypedClient.Proofs.Disk.Receiving
import TypedClient.Proofs.Run

/-!
What a run does as it is seen from outside: the files that it looks into and writes, the requests
that arrive, and what it says and shows, in order; and which files it may have changed. What a run
in steps does is what the steps do, one after the other.
-/

namespace TypedClient

/-- Whether a deed is seen outside. Reports are not, nor are folders made on the way to a file. -/
def Deed.isOutward : Deed → Bool
  | .logged _ => false
  | .made _ => false
  | _ => true

/-- The deeds that are seen outside. -/
def Deed.outward (deeds : List Deed) : List Deed :=
  deeds.filter Deed.isOutward

@[simp] theorem Deed.outward_append (deeds deeds' : List Deed) :
    outward (deeds ++ deeds') = outward deeds ++ outward deeds' :=
  List.filter_append ..

@[simp] theorem Deed.outward_logged (events : List Event) : outward (events.map .logged) = [] := by
  simp [outward, isOutward]

@[simp] theorem Deed.outward_asked (calls : List ExportCall) :
    outward (calls.map .asked) = calls.map .asked := by
  simp [outward, isOutward]

namespace Run

variable {ε δ α β : Type} {r : Run ε α} {f : α → Run ε β} {d : Disk} {deeds deeds' : List Deed}
  {own own' : Place → Prop} {result : Except ε α} {result' : Except ε β} {a : α} {e : ε}

/-- What a run does on a disk: its deeds as they are seen outside, the only places where it may have
changed a file, and its result. -/
structure Does (r : Run ε α) (d : Disk) (deeds : List Deed) (own : Place → Prop)
    (result : Except ε α) : Prop where
  outward : Deed.outward (r.on d).deeds = deeds
  files : d.KeepsFiles (r.on d).disk own
  result : (r.on d).result = result

/-- A run that fails before it has done anything, or does what is expected of it. -/
def Attempts (r : Run ε α) (d : Disk) (deeds : List Deed) (own : Place → Prop) (a : α) : Prop :=
  (∃ e, r.Does d [] (fun _ => False) (.error e)) ∨ r.Does d deeds own (.ok a)

theorem Does.mono (h : r.Does d deeds own result) (hOwn : ∀ place, own place → own' place) :
    r.Does d deeds own' result :=
  ⟨h.outward, h.files.mono hOwn, h.result⟩

theorem Attempts.does_of_ok {b : α} (h : r.Attempts d deeds own a) (hResult : (r.on d).result = .ok b) :
    r.Does d deeds own (.ok a) := by
  rcases h with ⟨e, hFault⟩ | hDone
  · exact absurd (hFault.result.symm.trans hResult) (by simp)
  · exact hDone

/-! ### Single steps -/

theorem does_done (a : α) (d : Disk) : (done a : Run ε α).Does d [] own (.ok a) :=
  ⟨rfl, .refl, rfl⟩

theorem does_fail (e : ε) (d : Disk) : (fail e : Run ε α).Does d [] own (.error e) :=
  ⟨rfl, .refl, rfl⟩

theorem does_ofExcept (result : Except ε α) (d : Disk) (own : Place → Prop) :
    (ofExcept result).Does d [] own result := by
  cases result with
  | ok a => exact does_done a d
  | error e => exact does_fail e d

theorem does_perform (deeds : List Deed) (d : Disk) :
    (perform deeds : Run ε Unit).Does d (Deed.outward deeds) own (.ok ()) :=
  ⟨rfl, .refl, rfl⟩

theorem does_log (event : Event) (d : Disk) : (log event : Run ε Unit).Does d [] own (.ok ()) :=
  does_perform _ d

/-- A text as it is shown, which is not at all if it is empty. -/
def shownTexts (text : String) : List String :=
  if text = "" then [] else [text]

theorem does_notify (text : String) (d : Disk) (own : Place → Prop) :
    (notify text : Run ε Unit).Does d ((shownTexts text).map .showed) own (.ok ()) := by
  refine ⟨?_, .refl, rfl⟩
  change Deed.outward (if text = "" then [] else [.showed text]) = _
  rw [shownTexts]
  split <;> rfl

theorem does_disk (d : Disk) : (disk : Run ε Disk).Does d [] own (.ok d) :=
  ⟨rfl, .refl, rfl⟩

theorem does_ofFetched (fetched : Fetched α) (d : Disk) (own : Place → Prop) :
    (ofFetched fetched).Does d (fetched.call.toList.map .asked) own fetched.result :=
  ⟨by simp [ofFetched, on], .refl, rfl⟩

/-- Making folders changes no file. -/
theorem does_makeFolders (p : Path) (d : Disk) (own : Place → Prop) :
    ∃ result, (makeFolders p).Does d [] own result :=
  ⟨_, rfl, (d.grows_makeFolders p).keepsFiles, rfl⟩

theorem attempts_writeText (p : Path) (text : String) (d : Disk) :
    (writeText p text).Attempts d [.wrote p (Text.encodeUtf8 text.toList)] (d.IsAt p) () := by
  cases hWrite : d.write p (Text.encodeUtf8 text.toList) with
  | error e =>
      have hRun : (writeText p text).on d = ⟨d, [], .error e⟩ := by rw [on, writeText, hWrite]
      exact .inl ⟨e, by rw [hRun]; rfl, by rw [hRun]; exact .refl, by rw [hRun]⟩
  | ok after =>
      have hRun : (writeText p text).on d =
          ⟨after, [.wrote p (Text.encodeUtf8 text.toList)], .ok ()⟩ := by rw [on, writeText, hWrite]
      exact .inr ⟨by rw [hRun]; rfl, by rw [hRun]; exact Disk.keepsFiles_write hWrite, by rw [hRun]⟩

/-! ### Steps one after the other -/

theorem Does.andThen (h : r.Does d deeds own (.ok a))
    (h' : (f a).Does (r.on d).disk deeds' own result') :
    (r >>= f).Does d (deeds ++ deeds') own result' := by
  obtain ⟨hDeeds, hFiles, hResult⟩ := h
  obtain ⟨hDeeds', hFiles', hResult'⟩ := h'
  have hRun : (r >>= f).on d = ⟨((f a).on (r.on d).disk).disk,
      (r.on d).deeds ++ ((f a).on (r.on d).disk).deeds, ((f a).on (r.on d).disk).result⟩ := by
    rw [on_bind, hResult]
  rw [← hDeeds, ← hDeeds', ← hResult']
  exact ⟨by rw [hRun, Deed.outward_append], by rw [hRun]; exact hFiles.trans hFiles', by rw [hRun]⟩

theorem Does.andThen_of_error (h : r.Does d deeds own (.error e)) (f : α → Run ε β) :
    (r >>= f).Does d deeds own (.error e) := by
  have hRun : (r >>= f).on d = ⟨(r.on d).disk, (r.on d).deeds, .error e⟩ := by
    rw [on_bind, h.result]
  exact ⟨by rw [hRun]; exact h.outward, by rw [hRun]; exact h.files, by rw [hRun]⟩

theorem Does.blaming (h : r.Does d deeds own result) (g : ε → δ) :
    (r.blaming g).Does d deeds own (result.mapError g) := by
  refine ⟨?_, ?_, ?_⟩
  · rw [on_blaming]
    exact h.outward
  · rw [on_blaming]
    exact h.files
  · rw [on_blaming, h.result]

theorem Attempts.blaming (h : r.Attempts d deeds own a) (g : ε → δ) :
    (r.blaming g).Attempts d deeds own a := by
  rcases h with ⟨e, hFault⟩ | hDone
  · exact .inl ⟨g e, hFault.blaming g⟩
  · exact .inr (hDone.blaming g)

/-- What fails after a step that did nothing fails before anything was done. -/
theorem Does.andThen_attempts {b : β} (h : r.Does d [] (fun _ => False) (.ok a))
    (h' : (f a).Attempts (r.on d).disk deeds own b) : (r >>= f).Attempts d deeds own b := by
  rcases h' with ⟨e, hFault⟩ | hDone
  · exact .inl ⟨e, h.andThen hFault⟩
  · exact .inr ((h.mono fun _ h => h.elim).andThen hDone)

/-- Steps that cannot fail may follow. -/
theorem Attempts.andThen {b : β} (h : r.Attempts d deeds own a)
    (h' : (f a).Does (r.on d).disk deeds' own (.ok b)) :
    (r >>= f).Attempts d (deeds ++ deeds') own b := by
  rcases h with ⟨e, hFault⟩ | hDone
  · exact .inl ⟨e, hFault.andThen_of_error f⟩
  · exact .inr (hDone.andThen h')

/-- A run that first makes a folder comes to what the rest of it does. -/
theorem attempts_inFolder {path folder : Path} {rest : Run ε Unit}
    (fault : DiskFault → ε)
    (h : ∀ d : Disk, rest.Attempts d deeds (d.IsAt path) ()) :
    ((makeFolders folder).blaming fault >>= fun _ => rest).Attempts d deeds (d.IsAt path) () := by
  obtain ⟨result, hMade⟩ := does_makeFolders folder d fun _ => False
  have hStep := hMade.blaming fault
  cases result with
  | error e => exact .inl ⟨_, hStep.andThen_of_error _⟩
  | ok _ =>
      refine hStep.andThen_attempts ?_
      rw [← Disk.isAt_eq hStep.files.here]
      exact h _

/-! ### A file in its folder -/

/-- What a run leaves that first makes the folder of a path and then writes a file there. -/
theorem receives_inFolder {path folder : Path} {rest : Run ε Unit} {fault : DiskFault → ε}
    {content : List UInt8} (hFolder : path.folder? = some folder)
    (hRest : ∀ d : Disk, (rest.on d).result = .ok () → d.write path content = .ok (rest.on d).disk)
    (h : (((makeFolders folder).blaming fault >>= fun _ => rest).on d).result = .ok ()) :
    d.Receives (((makeFolders folder).blaming fault >>= fun _ => rest).on d).disk path content := by
  obtain ⟨hRooted, hNames⟩ := Path.folder?_names hFolder
  obtain ⟨_, -, hWritten, hDisk⟩ := result_bind_eq_ok h
  rw [hDisk]
  refine Disk.receives_of_write ?_ (hRest _ hWritten)
  rw [on_blaming]
  exact (d.grows_makeFolders folder).mono fun _ hPlace =>
    (hPlace.of_prefix hNames).of_start rfl hRooted

end Run

end TypedClient
