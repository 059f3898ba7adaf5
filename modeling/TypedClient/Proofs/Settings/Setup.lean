import TypedClient.Proofs.Run.Effects
import TypedClient.Proofs.Settings.Persistence
import TypedClient.Proofs.Text.Blank
import TypedClient.Settings.Interview

/-!
Making settings. Main statements: settings that come of a draft lack nothing and have no white space
around their parts; where there is a file already, saving succeeds; and making settings fails before
anything is saved, or saves what it gives.
-/

namespace TypedClient

open Text

/-! ### Complete drafts -/

/-- Settings of which every part is there, without white space around it. -/
def Settings.IsComplete (s : Settings) : Prop :=
  ∀ p, isBlankText (s.part p) = false ∧ trim (s.part p) = s.part p

theorem Settings.eq_of_part {s s' : Settings} (hPart : ∀ p, s.part p = s'.part p)
    (hRequest : s.request = s'.request) : s = s' := by
  obtain ⟨host, projectId, token, apiVersion, request⟩ := s
  have hHost := hPart .host
  have hProject := hPart .projectId
  have hToken := hPart .token
  have hVersion := hPart .apiVersion
  simp only [part] at hHost hProject hToken hVersion hRequest
  rw [hHost, hProject, hToken, hVersion, hRequest]

namespace Draft

variable {draft : Draft} {settings : Settings} {p : RequiredPart} {value : String}

theorem mem_missing : p ∈ draft.missing ↔ isBlankText ((draft.part p).getD "") = true := by
  have hAll : p ∈ RequiredPart.all := by cases p <;> decide
  rw [missing, List.mem_filter]
  exact and_iff_right hAll

theorem present_eq_some :
    draft.present p = some value ↔ draft.part p = some value ∧ isBlankText value = false := by
  rw [present, Option.filter_eq_some_iff]
  simp

/-- A part is missing if nothing of it is present. -/
theorem present_eq_none : draft.present p = none ↔ p ∈ draft.missing := by
  rw [mem_missing, present]
  cases draft.part p with
  | none => simp [isBlankText]
  | some value => simp [Option.filter]

theorem missing_eq_filter (draft : Draft) :
    draft.missing = RequiredPart.all.filter fun p => (draft.present p).isNone := by
  apply List.filter_congr
  intro p _
  rw [Bool.eq_iff_iff, Option.isNone_iff_eq_none, present_eq_none, mem_missing]

/-- The settings that a draft gives have its parts, without white space around them. -/
theorem complete_eq_ok :
    draft.complete = .ok settings ↔ draft.missing = [] ∧
      (∀ p, settings.part p = trim ((draft.part p).getD "")) ∧
      settings.request = draft.request.getD .standard := by
  rw [complete]
  split
  · next hMissing =>
      rw [Except.ok.injEq]
      constructor
      · rintro rfl
        exact ⟨hMissing, fun p => by cases p <;> rfl, rfl⟩
      · rintro ⟨-, hParts, hRequest⟩
        refine Settings.eq_of_part (fun p => ?_) hRequest.symm
        rw [hParts p]
        cases p <;> rfl
  · next hMissing => simp [hMissing]

/-- A draft that lacks nothing gives settings. -/
theorem exists_complete (h : draft.missing = []) : ∃ settings, draft.complete = .ok settings :=
  ⟨_, if_pos h⟩

theorem demand_of_complete (h : draft.complete = .ok settings) :
    draft.demand = Run.done settings := by
  rw [demand, h]

theorem isComplete_of_complete (h : draft.complete = .ok settings) : settings.IsComplete := by
  obtain ⟨hMissing, hParts, -⟩ := complete_eq_ok.mp h
  intro p
  have hPresent : isBlankText ((draft.part p).getD "") = false := by
    rw [← Bool.not_eq_true, ← mem_missing, hMissing]
    exact List.not_mem_nil
  rw [hParts p, isBlankText_trim, trim_trim]
  exact ⟨hPresent, rfl⟩

end Draft

/-! ### Looking up -/

/-- What is seen of looking for settings: a file that is there is read. -/
def Disk.lookedAt (d : Disk) (path : Path) : List Deed :=
  if d.isThere path then [.read path] else []

namespace Draft

variable {draft : Draft} {path : Path} {d : Disk}

theorem disk_load (path : Path) (d : Disk) : ((Draft.load path).on d).disk = d := by
  rw [on_load]
  split <;> rfl

theorem load_does (path : Path) (d : Disk) (own : Place → Prop) :
    (Draft.load path).Does d (d.lookedAt path) own ((Draft.load path).on d).result := by
  refine ⟨?_, ?_, rfl⟩
  · rw [on_load, Disk.lookedAt]
    split <;> rfl
  · rw [disk_load]
    exact .refl

/-- Where there is a draft there is a file. -/
theorem find_of_load (h : ((Draft.load path).on d).result = .ok (some draft)) :
    ∃ content, d.find path = .ok (.file content) := by
  rw [on_load] at h
  split at h
  · cases hRead : d.readText path with
    | error e => simp [hRead] at h
    | ok text => exact Disk.find_of_readText hRead
  · cases h

/-- It is then read. -/
theorem deeds_of_load (h : ((Draft.load path).on d).result = .ok (some draft)) :
    ((Draft.load path).on d).deeds = [.read path] := by
  rw [on_load] at h ⊢
  split
  · rfl
  · next hThere =>
      rw [if_neg hThere] at h
      cases h

theorem lookedAt_of_load (h : ((Draft.load path).on d).result = .ok (some draft)) :
    d.lookedAt path = [.read path] := by
  obtain ⟨content, hFind⟩ := find_of_load h
  rw [Disk.lookedAt, Disk.isThere, hFind]
  rfl

end Draft

/-! ### Saving -/

namespace Settings

/-- What is seen of saving settings. -/
def wroteAt (s : Settings) (path : Path) : List Deed :=
  [.wrote path (encodeUtf8 s.text.toList)]

theorem attempts_writeOut (s : Settings) (path : Path) (d : Disk) :
    (s.writeOut path).Attempts d (s.wroteAt path) (d.IsAt path) () :=
  ((Run.attempts_writeText path s.text d).blaming (SettingsFault.unwritable path)).andThen
    (Run.does_log _ _)

theorem attempts_save (s : Settings) (path : Path) (d : Disk) :
    (s.save path).Attempts d (s.wroteAt path) (d.IsAt path) () := by
  rw [save_eq]
  cases path.folder? with
  | none => exact s.attempts_writeOut path d
  | some folder => exact Run.attempts_inFolder _ fun d => s.attempts_writeOut path d

variable {path : Path} {d : Disk} {old : List UInt8}

/-- Where settings were saved, their text is in the file. -/
theorem save_receives {s : Settings} (h : ((s.save path).on d).result = .ok ()) :
    d.Receives ((s.save path).on d).disk path (encodeUtf8 s.text.toList) := by
  rw [save_eq] at h ⊢
  cases hFolder : path.folder? with
  | none =>
      rw [hFolder] at h
      exact Disk.receives_of_write .refl (write_of_writeOut h)
  | some folder =>
      rw [hFolder] at h
      exact Run.receives_inFolder hFolder (fun _ hWritten => write_of_writeOut hWritten) h

theorem on_writeOut_of_write {s : Settings} {after : Disk}
    (h : d.write path (encodeUtf8 s.text.toList) = .ok after) :
    (s.writeOut path).on d =
      ⟨after, s.wroteAt path ++ [.logged (Event.settingsSaved path)], .ok ()⟩ := by
  have hRun : (Run.writeText path s.text).on d = ⟨after, s.wroteAt path, .ok ()⟩ := by
    rw [Run.on, Run.writeText, h]
    rfl
  have hFirst : ((Run.writeText path s.text).blaming (SettingsFault.unwritable path)).on d =
      ⟨after, s.wroteAt path, .ok ()⟩ := by
    rw [Run.on_blaming, hRun]
    rfl
  rw [writeOut, Run.on_bind_of_ok (by rw [hFirst]), hFirst]
  rfl

/-- Where the text of settings can be written, saving them comes to just that: the folder of the
file is there. -/
theorem on_save_of_write {s : Settings} {after : Disk}
    (h : d.write path (encodeUtf8 s.text.toList) = .ok after) :
    ((s.save path).on d).result = .ok () ∧ ((s.save path).on d).disk = after := by
  rw [save_eq]
  cases hFolder : path.folder? with
  | none =>
      dsimp only
      rw [on_writeOut_of_write h]
      exact ⟨rfl, rfl⟩
  | some folder =>
      obtain ⟨place, hLocate, -⟩ := Disk.write_eq_ok.mp h
      have hMade : (Run.makeFolders folder).on d = ⟨d, [.made folder], .ok ()⟩ := by
        rw [Run.on, Run.makeFolders,
          Disk.makeFolders_of_find (Disk.find_folder? hLocate hFolder)]
      have hFirst : ((Run.makeFolders folder).blaming (SettingsFault.unwritable folder)).on d =
          ⟨d, [.made folder], .ok ()⟩ := by
        rw [Run.on_blaming, hMade]
        rfl
      dsimp only
      rw [Run.on_bind_of_ok (by rw [hFirst]), hFirst, on_writeOut_of_write h]
      exact ⟨rfl, rfl⟩

/-- Where there is a file, settings can be saved: it can be replaced. -/
theorem save_does_of_file (h : d.find path = .ok (.file old)) (s : Settings) :
    (s.save path).Does d (s.wroteAt path) (d.IsAt path) (.ok ()) := by
  obtain ⟨after, hWrite⟩ := Disk.write_succeeds h (encodeUtf8 s.text.toList)
  exact (s.attempts_save path d).does_of_ok (b := ()) (on_save_of_write hWrite).1

/-- A draft that holds all parts of complete settings gives these. -/
theorem complete_eq_of_part {s : Settings} {draft : Draft} (h : s.IsComplete)
    (hPart : ∀ p, draft.part p = some (s.part p))
    (hRequest : s.request = draft.request.getD .standard) : draft.complete = .ok s := by
  have hMissing : draft.missing = [] := by
    refine List.eq_nil_iff_forall_not_mem.mpr fun p hMem => ?_
    rw [Draft.mem_missing, hPart, Option.getD_some, (h p).1] at hMem
    cases hMem
  refine Draft.complete_eq_ok.mpr ⟨hMissing, fun p => ?_, hRequest⟩
  rw [hPart, Option.getD_some, (h p).2]

/-- Complete settings are what their own draft gives. -/
theorem complete_draft_of_isComplete {s : Settings} (h : s.IsComplete) :
    s.draft.complete = .ok s :=
  complete_eq_of_part h (fun p => by cases p <;> rfl) rfl

/-- Complete settings that were saved are found again as they are. -/
theorem load_of_save_complete {s : Settings} (hComplete : s.IsComplete)
    (h : ((s.save path).on d).result = .ok ()) :
    ((Settings.load path).on ((s.save path).on d).disk).result = .ok (some s) := by
  rw [load_of_draft (loadDraft_of_save h), complete_draft_of_isComplete hComplete]

/-- What is seen of settings that are made: they are saved, and it is said that they are. -/
def savedAt (s : Settings) (path : Path) : List Deed :=
  s.wroteAt path ++ [.said (.saved path)]

end Settings

/-! ### Making settings -/

/-- What is seen of asking. -/
def Interviewed.deeds (i : Interviewed) : List Deed :=
  (Run.shownTexts i.shown).map .showed

/-- What can come of making settings after asking: there was no answer, or parts are still missing,
or they could not be saved, or they were saved as they are given. -/
inductive Interviewed.SetsUp (i : Interviewed) (path : Path) (d : Disk)
    (r : Run SetupFault Settings) : Prop
  | unanswered (part : RequiredPart) (fault : PromptFault) (hAnswers : i.result = .error (part, fault))
      (h : r.Does d i.deeds (fun _ => False) (.error (.prompt part fault)))
  | incomplete (draft : Draft) (missing : List RequiredPart) (hAnswers : i.result = .ok draft)
      (hComplete : draft.complete = .error missing)
      (h : r.Does d i.deeds (fun _ => False) (.error (.settings (.incomplete missing))))
  | unsaved (draft : Draft) (settings : Settings) (fault : SettingsFault)
      (hAnswers : i.result = .ok draft) (hComplete : draft.complete = .ok settings)
      (hSave : ((settings.save path).on d).result = .error fault)
      (h : r.Does d i.deeds (fun _ => False) (.error (.settings fault)))
  | saved (draft : Draft) (settings : Settings) (hAnswers : i.result = .ok draft)
      (hComplete : draft.complete = .ok settings)
      (hSave : ((settings.save path).on d).result = .ok ())
      (hDisk : (r.on d).disk = ((settings.save path).on d).disk)
      (h : r.Does d (i.deeds ++ settings.savedAt path) (d.IsAt path) (.ok settings))

theorem setUp_setsUp (given stored : Draft) (path : Path) (typed : Option (List String)) (d : Disk) :
    (interview given stored RequiredPart.all typed stored).SetsUp path d
      (setUp given stored path typed) := by
  unfold setUp
  dsimp only
  generalize interview given stored RequiredPart.all typed stored = i
  have hShown : ∀ own, (Run.notify i.shown : Run SetupFault Unit).Does d i.deeds own (.ok ()) :=
    Run.does_notify i.shown d
  cases hAnswers : i.result with
  | error refused =>
      obtain ⟨part, fault⟩ := refused
      refine .unanswered part fault hAnswers ?_
      rw [← List.append_nil i.deeds]
      exact (hShown _).andThen (Run.does_fail _ d)
  | ok draft =>
      cases hComplete : draft.complete with
      | error missing =>
          have hDemand : draft.demand = Run.fail (.incomplete missing) := by
            rw [Draft.demand, hComplete]
          refine .incomplete draft missing hAnswers hComplete ?_
          dsimp only
          rw [← List.append_nil i.deeds, hDemand]
          exact (hShown _).andThen (((Run.does_fail _ d).blaming _).andThen_of_error _)
      | ok settings =>
          have hDemand := Draft.demand_of_complete hComplete
          rcases settings.attempts_save path d with ⟨fault, hSave⟩ | hSave
          · refine .unsaved draft settings fault hAnswers hComplete hSave.result ?_
            dsimp only
            rw [← List.append_nil i.deeds, hDemand]
            exact (hShown _).andThen (((Run.does_done _ d).blaming _).andThen
              ((hSave.blaming _).andThen_of_error _))
          · have hNamed := (hSave.blaming SetupFault.settings).result
            refine .saved draft settings hAnswers hComplete hSave.result ?_ ?_ <;> dsimp only <;>
              rw [hDemand]
            · refine (Run.disk_bind_of_ok rfl).trans ((Run.disk_bind_of_ok rfl).trans
                ((Run.disk_bind_of_ok hNamed).trans ?_))
              change (((settings.save path).blaming SetupFault.settings).on d).disk = _
              rw [Run.on_blaming]
            · exact (hShown _).andThen (((Run.does_done _ d).blaming _).andThen
                ((hSave.blaming _).andThen ((Run.does_perform _ _).andThen (Run.does_done _ _))))

namespace Interviewed.SetsUp

variable {i : Interviewed} {path : Path} {d : Disk} {r : Run SetupFault Settings}

/-- Without an answer nothing is saved. -/
theorem does_of_unanswered (h : i.SetsUp path d r) {part : RequiredPart} {fault : PromptFault}
    (hAnswers : i.result = .error (part, fault)) :
    r.Does d i.deeds (fun _ => False) (.error (.prompt part fault)) := by
  cases h with
  | unanswered part' fault' hOther h =>
      cases hOther.symm.trans hAnswers
      exact h
  | incomplete draft missing hOther => cases hOther.symm.trans hAnswers
  | unsaved draft settings fault' hOther => cases hOther.symm.trans hAnswers
  | saved draft settings hOther => cases hOther.symm.trans hAnswers

/-- Settings that lack nothing are saved where there is a file already. -/
theorem does_of_complete (h : i.SetsUp path d r) {draft : Draft} {settings : Settings}
    {old : List UInt8} (hAnswers : i.result = .ok draft) (hComplete : draft.complete = .ok settings)
    (hFile : d.find path = .ok (.file old)) :
    r.Does d (i.deeds ++ settings.savedAt path) (d.IsAt path) (.ok settings) ∧
      ((Settings.load path).on (r.on d).disk).result = .ok (some settings) := by
  cases h with
  | unanswered part fault hOther => cases hOther.symm.trans hAnswers
  | incomplete draft' missing hOther hLacks =>
      cases hOther.symm.trans hAnswers
      cases hLacks.symm.trans hComplete
  | unsaved draft' settings' fault hOther hGiven hSave =>
      cases hSave.symm.trans (settings'.save_does_of_file hFile).result
  | saved draft' settings' hOther hGiven hSave hDisk h =>
      cases hOther.symm.trans hAnswers
      cases hGiven.symm.trans hComplete
      rw [hDisk]
      exact ⟨h, Settings.load_of_save_complete (Draft.isComplete_of_complete hComplete) hSave⟩

end Interviewed.SetsUp

end TypedClient
