import TypedClient.Proofs.Settings.Conversation

/-!
Settings that are made of what is given, what was stored and what is typed. Main statement: either a
question gets no answer, and nothing was done, or there are settings that lack nothing, and these are
saved and found again.
-/

namespace TypedClient

open Text

/-- Settings that lack nothing and come of what is given, and otherwise of what was answered; what is
asked for is as it was stored. -/
structure Settings.MadeFrom (settings : Settings) (given stored : Draft)
    (exchanges : List Exchange) : Prop where
  complete : settings.IsComplete
  fixed : ∀ p value, given.present p = some value → settings.part p = trim value
  asked : exchanges.map (·.part) = given.missing
  answered : ∀ e ∈ exchanges, ∃ answer, stored.outcome e = some answer ∧
    settings.part e.part = trim answer
  request : settings.request = stored.request.getD .standard

namespace Draft

variable {given stored : Draft} {exchanges : List Exchange} {values : List (RequiredPart × String)}
  {path : Path} {d : Disk} {e : Exchange} {value : String}

theorem outcome_not_blank (h : stored.outcome e = some value) : isBlankText value = false := by
  rw [outcome] at h
  split at h
  · exact answer?_not_blank h
  · exact kept_not_blank h

/-- Where there is a value for each part the settings lack nothing: what is given is not blank, and
neither is what was answered. -/
theorem exists_madeFrom (h : given.Provides stored RequiredPart.all exchanges values)
    (hAsked : exchanges.map (·.part) = given.missing) :
    ∃ settings, (stored.setAll values).complete = .ok settings ∧
      settings.MadeFrom given stored exchanges := by
  have hAll : ∀ p, p ∈ RequiredPart.all := by
    intro p
    cases p <;> decide
  have hPart : ∀ p value, (p, value) ∈ values → (stored.setAll values).part p = some value :=
    fun p value hMem => part_setAll (by rw [h.order]; decide) hMem
  have hMissing : (stored.setAll values).missing = [] := by
    rw [List.eq_nil_iff_forall_not_mem]
    intro p hp
    rw [mem_missing] at hp
    cases hPresent : given.present p with
    | some value =>
        rw [hPart p _ (h.fixed p (hAll p) value hPresent), Option.getD_some, isBlankText_trim,
          (present_eq_some.mp hPresent).2] at hp
        cases hp
    | none =>
        rw [present_eq_none, ← hAsked] at hPresent
        obtain ⟨e, he, rfl⟩ := List.mem_map.mp hPresent
        obtain ⟨answer, hOutcome, hMem⟩ := h.answered e he
        rw [hPart _ _ hMem, Option.getD_some, outcome_not_blank hOutcome] at hp
        cases hp
  obtain ⟨settings, hComplete⟩ := exists_complete hMissing
  obtain ⟨-, hSame, hRequest⟩ := complete_eq_ok.mp hComplete
  refine ⟨settings, hComplete, isComplete_of_complete hComplete, fun p value hPresent => ?_, hAsked,
    fun e he => ?_, by rw [hRequest, request_setAll]⟩
  · rw [hSame, hPart p _ (h.fixed p (hAll p) value hPresent), Option.getD_some, trim_trim]
  · obtain ⟨answer, hOutcome, hMem⟩ := h.answered e he
    exact ⟨answer, hOutcome, by rw [hSame, hPart _ _ hMem, Option.getD_some]⟩

end Draft

/-- Settings are only not saved where a folder or a file cannot be written. -/
theorem Settings.exists_unwritable {s : Settings} {path : Path} {d : Disk} {fault : SettingsFault}
    (h : ((s.save path).on d).result = .error fault) :
    ∃ place cause, fault = .unwritable place cause := by
  have hWriteOut : ∀ d : Disk, ((s.writeOut path).on d).result = .error fault →
      ∃ place cause, fault = .unwritable place cause := by
    intro d hOut
    rcases Run.failed_bind hOut with ⟨hText, -⟩ | ⟨_, -, hLog, -⟩
    · obtain ⟨cause, -, rfl, -⟩ := Run.failed_blaming hText
      exact ⟨path, cause, rfl⟩
    · cases hLog
  rw [save_eq] at h
  split at h
  · exact hWriteOut d h
  · next folder _ =>
      rcases Run.failed_bind h with ⟨hMade, -⟩ | ⟨_, -, hRest, -⟩
      · obtain ⟨cause, -, rfl, -⟩ := Run.failed_blaming hMade
        exact ⟨folder, cause, rfl⟩
      · exact hWriteOut _ hRest

/-- What is seen of a conversation. -/
def Draft.told (stored : Draft) (exchanges : List Exchange) : List Deed :=
  (Run.shownTexts (concat (exchanges.map stored.shown))).map .showed

/-- What can come of making settings after a conversation. If a part got no answer then that is all.
If not then there are settings that lack nothing: they cannot be written, and no file has changed, or
they are saved, and from then on they are the ones that are found. -/
inductive SetupEnds (given stored : Draft) (path : Path) (d : Disk) (exchanges : List Exchange)
    (r : Run SetupFault Settings) : Option (RequiredPart × PromptFault) → Prop
  | unanswered (part : RequiredPart) (fault : PromptFault) (hDisk : (r.on d).disk = d)
      (h : r.Does d (stored.told exchanges) (fun _ => False) (.error (.prompt part fault))) :
      SetupEnds given stored path d exchanges r (some (part, fault))
  | unsaved (settings : Settings) (place : Path) (cause : DiskFault)
      (hMade : settings.MadeFrom given stored exchanges)
      (hSave : ((settings.save path).on d).result = .error (.unwritable place cause))
      (h : r.Does d (stored.told exchanges) (fun _ => False)
        (.error (.settings (.unwritable place cause)))) :
      SetupEnds given stored path d exchanges r none
  | saved (settings : Settings) (hMade : settings.MadeFrom given stored exchanges)
      (hFile : d.Receives (r.on d).disk path (encodeUtf8 settings.text.toList))
      (hLoad : ((Settings.load path).on (r.on d).disk).result = .ok (some settings))
      (h : r.Does d (stored.told exchanges ++ settings.savedAt path) (d.IsAt path)
        (.ok settings)) :
      SetupEnds given stored path d exchanges r none

section Ends

variable {given stored : Draft} {path : Path} {typed : Option (List String)} {d : Disk}
  {exchanges : List Exchange} {fault? : Option (RequiredPart × PromptFault)}

theorem disk_setUp_of_unanswered {fault : RequiredPart × PromptFault}
    (h : (interview given stored RequiredPart.all typed stored).result = .error fault) :
    ((setUp given stored path typed).on d).disk = d := by
  unfold setUp
  dsimp only
  rw [Run.notify, Run.on_perform_bind, Outcome.disk_after, h]
  rfl

theorem setupEnds_of_tells
    (h : (interview given stored RequiredPart.all typed stored).Tells given stored RequiredPart.all
      typed stored exchanges fault?) :
    SetupEnds given stored path d exchanges (setUp given stored path typed) fault? := by
  have hTold : (interview given stored RequiredPart.all typed stored).deeds =
      stored.told exchanges := by
    rw [Interviewed.deeds, h.shown, Draft.told]
  have hResult := h.result
  have hEnds := setUp_setsUp given stored path typed d
  cases fault? with
  | some fault =>
      have hDoes := hEnds.does_of_unanswered hResult
      rw [hTold] at hDoes
      exact .unanswered fault.1 fault.2 (disk_setUp_of_unanswered hResult) hDoes
  | none =>
      obtain ⟨values, hProvides, hFilled⟩ := hResult
      have hAsked := h.conversation.inOrder.2 rfl
      rw [← Draft.missing_eq_filter] at hAsked
      obtain ⟨settings, hComplete, hMade⟩ := Draft.exists_madeFrom hProvides hAsked
      cases hEnds with
      | unanswered part fault hOther => cases hOther.symm.trans hFilled
      | incomplete draft missing hOther hLacks =>
          cases hOther.symm.trans hFilled
          cases hLacks.symm.trans hComplete
      | unsaved draft found fault hOther hGiven hSave hDoes =>
          cases hOther.symm.trans hFilled
          cases hGiven.symm.trans hComplete
          rw [hTold] at hDoes
          obtain ⟨place, cause, rfl⟩ := Settings.exists_unwritable hSave
          exact .unsaved settings place cause hMade hSave hDoes
      | saved draft found hOther hGiven hSave hDisk hDoes =>
          cases hOther.symm.trans hFilled
          cases hGiven.symm.trans hComplete
          rw [hTold] at hDoes
          refine .saved settings hMade ?_ ?_ hDoes <;> rw [hDisk]
          · exact Settings.save_receives hSave
          · exact Settings.load_of_save_complete hMade.complete hSave

end Ends

/-- Whoever is at the terminal is asked for just the parts that are not given, or blank, in their
order, each until an answer will do. Without an answer to one of these questions nothing was done.
With all of them there are settings that lack nothing: of what is given, without white space around
it, and otherwise of the answers, where an empty line stands for what was stored, or else for the
usual choice, and a blank token for the one that was stored. These settings are saved and found
again, unless they cannot be written. That parts are missing is never the fault. -/
theorem setUp_all_or_nothing (given stored : Draft) (path : Path) (typed : Option (List String))
    (d : Disk) :
    (∃ exchanges fault?, stored.Conversation given.missing typed exchanges fault? ∧
      SetupEnds given stored path d exchanges (setUp given stored path typed) fault?) ∧
    ∀ missing, ((setUp given stored path typed).on d).result ≠
      .error (.settings (.incomplete missing)) := by
  obtain ⟨exchanges, fault?, hTells⟩ :=
    Draft.interview_tells given stored RequiredPart.all typed stored
  have hEnds : SetupEnds given stored path d exchanges (setUp given stored path typed) fault? :=
    setupEnds_of_tells hTells
  have hConversation := hTells.conversation
  rw [← Draft.missing_eq_filter] at hConversation
  refine ⟨⟨exchanges, fault?, hConversation, hEnds⟩, fun missing hIncomplete => ?_⟩
  cases hEnds with
  | unanswered part fault _ h => cases h.result.symm.trans hIncomplete
  | unsaved settings place cause _ _ h => cases h.result.symm.trans hIncomplete
  | saved settings _ _ _ h => cases h.result.symm.trans hIncomplete

/-- The host is given, the project is taken from what was stored, a blank line keeps the token, and a
blank version counts as none. -/
example :
    ((setUp ⟨some " https://host ", none, none, some " ", none⟩
      ⟨some "old", some "7", some " kept ", none, none⟩ ⟨false, [settingsFile]⟩
      (some ["", " \t", ""])).on (Disk.empty ["home"])).result =
        .ok ⟨"https://host", "7", "kept", defaultApiVersion, .standard⟩ := by
  decide +kernel

end TypedClient
