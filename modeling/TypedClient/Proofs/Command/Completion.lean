import TypedClient.Proofs.Command.Effects
import TypedClient.Proofs.Settings.Dialogue

/-!
Settings that lack parts when a description is fetched. Main statement: the person at the terminal is
asked for just these parts, and the run goes on with the settings that are then in the file: what
was there is kept, what was not is what was answered; settings that lack nothing are used as they
are, and nothing is asked or written.
-/

namespace TypedClient

open Text

/-- Settings that come of a draft and of what was asked for: what was present and what was answered,
without white space around it, and the request of the draft. -/
structure Draft.CompletedAs (draft : Draft) (exchanges : List Exchange) (settings : Settings) :
    Prop where
  kept : ∀ p value, draft.present p = some value → settings.part p = trim value
  answered : ∀ e ∈ exchanges, ∃ answer, e.answer? = some answer ∧ settings.part e.part = trim answer
  request : settings.request = draft.request.getD .standard

namespace Draft

variable {draft filled : Draft} {exchanges : List Exchange} {settings : Settings}

/-- A draft in which every part was filled gives settings. -/
theorem completedAs_of_fills (h : draft.Fills RequiredPart.all exchanges draft filled)
    (hParts : exchanges.map (·.part) = draft.missing) :
    ∃ settings, filled.complete = .ok settings ∧ draft.CompletedAs exchanges settings := by
  have hAll : ∀ p, p ∈ RequiredPart.all := by
    intro p
    cases p <;> decide
  have hMissing : filled.missing = [] := by
    rw [List.eq_nil_iff_forall_not_mem]
    intro p hp
    rw [mem_missing] at hp
    cases hPresent : draft.present p with
    | some value =>
        rw [h.kept p (hAll p) value hPresent, Option.getD_some, isBlankText_trim,
          (present_eq_some.mp hPresent).2] at hp
        cases hp
    | none =>
        rw [present_eq_none, ← hParts] at hPresent
        obtain ⟨e, he, rfl⟩ := List.mem_map.mp hPresent
        obtain ⟨answer, hAnswer, hFilled⟩ := h.answered e he
        obtain ⟨line, -, hTaken⟩ := Option.bind_eq_some_iff.mp hAnswer
        rw [hFilled, Option.getD_some, RequiredPart.answer?_not_blank hTaken] at hp
        cases hp
  obtain ⟨settings, hComplete⟩ := exists_complete hMissing
  obtain ⟨-, hPart, hRequest⟩ := complete_eq_ok.mp hComplete
  refine ⟨settings, hComplete, ?_, ?_, ?_⟩
  · intro p value hPresent
    rw [hPart p, h.kept p (hAll p) value hPresent, Option.getD_some, trim_trim]
  · intro e he
    obtain ⟨answer, hAnswer, hFilled⟩ := h.answered e he
    exact ⟨answer, hAnswer, by rw [hPart, hFilled, Option.getD_some]⟩
  · rw [hRequest, h.request]

/-- A draft that lacks nothing gives settings with what is present. -/
theorem completedAs_of_complete (h : draft.complete = .ok settings) :
    draft.CompletedAs [] settings := by
  obtain ⟨-, hPart, hRequest⟩ := complete_eq_ok.mp h
  refine ⟨fun p value hPresent => ?_, by simp, hRequest⟩
  rw [hPart p, (present_eq_some.mp hPresent).1, Option.getD_some]

end Draft

namespace Command

variable {s : Surroundings} {config : Option Path} {target : Target} {d : Disk} {draft : Draft}
  {settings : Settings} {path : Path} {deeds : List Deed} {own : Place → Prop}

/-- What is left of a command that fetches when it has its settings. -/
def fetchWith (s : Surroundings) (target : Target) (d : Disk) (settings : Settings) :
    Run CommandFault Unit :=
  finish (fetchInto s.network settings (outputPath d target) target.options)

/-- It asks a service, writes the client and says so, and that is all that is seen of it. -/
theorem fetchWith_outward (s : Surroundings) (target : Target) (d : Disk) (settings : Settings)
    (d' : Disk) {deed : Deed}
    (h : deed ∈ Deed.outward ((fetchWith s target d settings).on d').deeds) :
    (∃ call, deed = .asked call) ∨ (∃ content, deed = .wrote (outputPath d target) content) ∨
      ∃ line, deed = .said line := by
  cases fetchInto_fetches s.network settings (outputPath d target) target.options d' with
  | unsent e hDoes =>
      rw [fetchWith, (finish_of_error hDoes).outward] at h
      cases h
  | failed call e _ hDoes =>
      rw [fetchWith, (finish_of_error hDoes).outward] at h
      exact .inl ⟨call, List.mem_singleton.mp h⟩
  | written call g _ _ hDoes =>
      rw [fetchWith, (finish_of_report [.asked call] hDoes).outward] at h
      simp only [closing, Generated.written, List.cons_append, List.nil_append, List.mem_cons,
        List.not_mem_nil, or_false] at h
      exact h.imp (⟨_, ·⟩) (Or.imp (⟨_, ·⟩) (⟨_, ·⟩))

/-- The run of a command that fetches, from a disk: after some deeds it goes on from another disk
with the settings that are then in the file, and no other file was changed on the way. Nothing is
asked any more, and only the client is written. -/
structure GoesOn (s : Surroundings) (config : Option Path) (target : Target) (d : Disk)
    (opening : List Deed) (saved : Disk) (settings : Settings) : Prop where
  load : ((Settings.load (settingsPath d config)).on saved).result = .ok (some settings)
  files : d.KeepsFiles saved (d.IsAt (settingsPath d config))
  run : ∃ deeds, Deed.outward deeds = opening ∧
    ((Command.fetch config target).body s).on d =
      ((fetchWith s target d settings).on saved).after deeds
  silent : ∀ text, Deed.showed text ∉ ((fetchWith s target d settings).on saved).deeds
  writes : ∀ path content, Deed.wrote path content ∈
    ((fetchWith s target d settings).on saved).deeds → path = outputPath d target

theorem goesOn_of_obtain (target : Target)
    (h : (obtain s (settingsPath d config)).Does d deeds (d.IsAt (settingsPath d config))
      (.ok settings))
    (hLoad : ((Settings.load (settingsPath d config)).on
      ((obtain s (settingsPath d config)).on d).disk).result = .ok (some settings)) :
    GoesOn s config target d deeds ((obtain s (settingsPath d config)).on d).disk settings := by
  refine ⟨hLoad, h.files, ⟨_, h.outward, ?_⟩, fun text hMem => ?_, fun path content hMem => ?_⟩
  · rw [body_fetch, Run.on_disk_bind, Run.on_bind_of_ok h.result]
    rfl
  · have hSeen := fetchWith_outward s target d settings _ (List.mem_filter.mpr ⟨hMem, rfl⟩)
    simp at hSeen
  · have hSeen := fetchWith_outward s target d settings _ (List.mem_filter.mpr ⟨hMem, rfl⟩)
    simpa using hSeen

/-! ### Asking -/

/-- What is seen of asking for what a draft lacks. -/
def asking (path : Path) (draft : Draft) (exchanges : List Exchange) : List Deed :=
  [.read path, .showed (completeNotice draft.missing),
    .showed (concat (exchanges.map Exchange.shown))]

theorem completeNotice_ne_empty (missing : List RequiredPart) : completeNotice missing ≠ "" := by
  intro hEmpty
  obtain ⟨hFront, -⟩ := String.append_eq_empty_iff.mp hEmpty
  obtain ⟨hFront, -⟩ := String.append_eq_empty_iff.mp hFront
  exact absurd hFront (by decide)

section Incomplete

variable (hDraft : ((Draft.load path).on d).result = .ok (some draft))

include hDraft

theorem on_load_of_draft :
    ((Draft.load path).blaming CommandFault.settings).on d =
      ⟨d, ((Draft.load path).on d).deeds, .ok (some draft)⟩ := by
  rw [Run.on_blaming, hDraft, Draft.disk_load]
  rfl

/-- A draft that lacks nothing is used as it is. -/
theorem obtain_on_of_complete (hComplete : draft.complete = .ok settings) :
    (obtain s path).on d = ⟨d, [.read path], .ok settings⟩ := by
  have hLoad := on_load_of_draft hDraft
  have hMissing := (Draft.complete_eq_ok.mp hComplete).1
  rw [Draft.deeds_of_load hDraft] at hLoad
  unfold obtain
  rw [Run.on_bind_of_ok (congrArg Outcome.result hLoad), hLoad]
  dsimp only
  rw [if_pos hMissing, Draft.demand_of_complete hComplete]
  rfl

/-- A draft that lacks parts is shown to, and then settings are made. -/
theorem obtain_on_of_incomplete (hMissing : draft.missing ≠ []) :
    (obtain s path).on d = ((Run.notify (completeNotice draft.missing) >>= fun _ =>
      (setUp draft draft path s.typed).blaming CommandFault.setup).on d).after
        ((Draft.load path).on d).deeds := by
  have hLoad := on_load_of_draft hDraft
  unfold obtain
  rw [Run.on_bind_of_ok (congrArg Outcome.result hLoad), hLoad]
  dsimp only
  rw [if_neg hMissing]

theorem obtain_does_of_incomplete (hMissing : draft.missing ≠ []) {result : Except SetupFault Settings}
    (h : (setUp draft draft path s.typed).Does d deeds own result) :
    (obtain s path).Does d ([.read path, .showed (completeNotice draft.missing)] ++ deeds) own
      (result.mapError .setup) := by
  have hNotice : (Run.notify (completeNotice draft.missing) : Run CommandFault Unit).Does d
      [.showed (completeNotice draft.missing)] own (.ok ()) := by
    have hShown := Run.does_notify (ε := CommandFault) (completeNotice draft.missing) d own
    rwa [Run.shownTexts, if_neg (completeNotice_ne_empty _)] at hShown
  have hLoad := (Draft.load_does path d own).outward
  rw [Draft.lookedAt_of_load hDraft] at hLoad
  have hRest : (Run.notify (completeNotice draft.missing) >>= fun _ =>
      (setUp draft draft path s.typed).blaming CommandFault.setup).Does d
      ([.showed (completeNotice draft.missing)] ++ deeds) own (result.mapError .setup) :=
    hNotice.andThen (h.blaming _)
  have hRun := obtain_on_of_incomplete hDraft hMissing (s := s)
  refine ⟨?_, ?_, ?_⟩
  · rw [hRun, Outcome.after, Deed.outward_append, hLoad, hRest.outward]
    rfl
  · rw [hRun]
    exact hRest.files
  · rw [hRun]
    exact hRest.result

theorem disk_obtain_of_incomplete (hMissing : draft.missing ≠ []) :
    ((obtain s path).on d).disk = ((setUp draft draft path s.typed).on d).disk := by
  rw [obtain_on_of_incomplete hDraft hMissing]
  refine (Run.disk_bind_of_ok rfl).trans ?_
  change (((setUp draft draft path s.typed).blaming CommandFault.setup).on d).disk = _
  rw [Run.on_blaming]

end Incomplete

/-- Settings that are found in a file are those of the draft in it. -/
theorem exists_draft_of_load
    (h : ((Settings.load path).on d).result = .ok (some settings)) :
    ∃ draft, ((Draft.load path).on d).result = .ok (some draft) ∧
      draft.complete = .ok settings := by
  obtain ⟨stored?, hDraft, hRest, -⟩ := Run.result_bind_eq_ok h
  cases stored? with
  | none => cases hRest
  | some draft =>
      refine ⟨draft, hDraft, ?_⟩
      rw [Settings.load_of_draft hDraft] at h
      cases hComplete : draft.complete with
      | error missing => simp [hComplete] at h
      | ok found => simpa [hComplete] using h

/-- What can come of a command that fetches with a draft that lacks parts, after some exchanges: all
of these parts were answered, and the run goes on with the settings that this makes; or one was not,
and the run is over with no file changed. -/
inductive Completes (s : Surroundings) (config : Option Path) (target : Target) (d : Disk)
    (draft : Draft) (exchanges : List Exchange) : Prop
  | answered (settings : Settings) (saved : Disk)
      (hParts : exchanges.map (·.part) = draft.missing)
      (hSettings : draft.CompletedAs exchanges settings)
      (hGoesOn : GoesOn s config target d (asking (settingsPath d config) draft exchanges ++
        settings.savedAt (settingsPath d config)) saved settings)
  | unanswered (e : Exchange) (hParts : exchanges.map (·.part) <+: draft.missing)
      (hLast : exchanges.getLast? = some e) (hTaken : e.taken = none)
      (h : ((Command.fetch config target).body s).Does d
        (asking (settingsPath d config) draft exchanges) (fun _ => False)
        (.error (.setup (.prompt e.part .endOfInput))))

section Asked

variable {exchanges : List Exchange} {filled : Draft}
  (hDraft : ((Draft.load (settingsPath d config)).on d).result = .ok (some draft))
  (hMissing : draft.missing ≠ [])
  (hDeeds : (interview draft draft RequiredPart.all s.typed draft).deeds =
    [.showed (concat (exchanges.map Exchange.shown))])

include hDraft hMissing hDeeds

/-- What was answered is saved, over the file that the draft is in. -/
theorem completes_of_fills (target : Target)
    (hResult : (interview draft draft RequiredPart.all s.typed draft).result = .ok filled)
    (hFills : draft.Fills RequiredPart.all exchanges draft filled)
    (hParts : exchanges.map (·.part) = draft.missing) :
    Completes s config target d draft exchanges := by
  obtain ⟨settings, hComplete, hCompleted⟩ := Draft.completedAs_of_fills hFills hParts
  obtain ⟨content, hFile⟩ := Draft.find_of_load hDraft
  obtain ⟨hMade, hLoad⟩ := (setUp_setsUp draft draft (settingsPath d config) s.typed
    d).does_of_complete hResult hComplete hFile
  have hObtain := obtain_does_of_incomplete hDraft hMissing hMade
  rw [hDeeds, ← List.append_assoc] at hObtain
  rw [← disk_obtain_of_incomplete hDraft hMissing] at hLoad
  exact .answered settings _ hParts hCompleted (goesOn_of_obtain target hObtain hLoad)

theorem completes_of_ended (target : Target) {e : Exchange}
    (hResult : (interview draft draft RequiredPart.all s.typed draft).result =
      .error (e.part, .endOfInput))
    (hParts : exchanges.map (·.part) <+: draft.missing)
    (hLast : exchanges.getLast? = some e) (hTaken : e.taken = none) :
    Completes s config target d draft exchanges := by
  have hObtain := obtain_does_of_incomplete hDraft hMissing
    ((setUp_setsUp draft draft (settingsPath d config) s.typed d).does_of_unanswered hResult)
  rw [hDeeds] at hObtain
  refine .unanswered e hParts hLast hTaken ?_
  rw [body_fetch]
  exact (Run.does_disk d).andThen (hObtain.andThen_of_error _)

end Asked

/-- Settings that lack nothing are used as they are. -/
theorem goesOn_of_complete (target : Target)
    (hDraft : ((Draft.load (settingsPath d config)).on d).result = .ok (some draft))
    (hMissing : draft.missing = []) :
    ∃ settings, draft.CompletedAs [] settings ∧
      GoesOn s config target d [.read (settingsPath d config)] d settings := by
  obtain ⟨settings, hComplete⟩ := Draft.exists_complete hMissing
  have hObtain := obtain_on_of_complete hDraft hComplete (s := s)
  have hDisk : ((obtain s (settingsPath d config)).on d).disk = d := by rw [hObtain]
  have hDoes : (obtain s (settingsPath d config)).Does d [.read (settingsPath d config)]
      (d.IsAt (settingsPath d config)) (.ok settings) := by
    exact ⟨by rw [hObtain]; rfl, by rw [hDisk]; exact .refl, by rw [hObtain]⟩
  have hStored : ((Settings.load (settingsPath d config)).on d).result = .ok (some settings) := by
    rw [Settings.load_of_draft hDraft, hComplete]
  have hGoesOn := goesOn_of_obtain target hDoes (by rw [hDisk]; exact hStored)
  rw [hDisk] at hGoesOn
  exact ⟨settings, Draft.completedAs_of_complete hComplete, hGoesOn⟩

/-- Where there is a draft, whoever is at the terminal is asked for just the parts that it lacks, in
their order, each until a line will do. If all of them are answered then the settings in the file are
from then on those that the run goes on with: what was present and what was answered. If not then no
file has changed. A draft that lacks nothing is used as it is: nothing is asked, nothing is written,
and the run goes on from the same disk. -/
theorem fetch_completes_settings (s : Surroundings) (config : Option Path) (target : Target)
    (d : Disk) (draft : Draft)
    (hDraft : ((Draft.load (settingsPath d config)).on d).result = .ok (some draft)) :
    (∀ lines, s.typed = some lines → draft.missing ≠ [] →
      ∃ exchanges, Dialogue draft.missing lines exchanges ∧
        Completes s config target d draft exchanges) ∧
    (draft.missing = [] → ∃ settings, draft.CompletedAs [] settings ∧
      GoesOn s config target d [.read (settingsPath d config)] d settings) := by
  refine ⟨fun lines hTyped hMissing => ?_, goesOn_of_complete target hDraft⟩
  obtain ⟨exchanges, hDialogue, hShown, hFilling⟩ :=
    Draft.interview_dialogue draft (by decide : RequiredPart.all.Nodup) lines draft
  rw [← Draft.missing_eq_filter] at hDialogue
  rw [← hTyped] at hShown hFilling
  have hDeeds : (interview draft draft RequiredPart.all s.typed draft).deeds =
      [.showed (concat (exchanges.map Exchange.shown))] := by
    rw [Interviewed.deeds, hShown, Run.shownTexts,
      if_neg (concat_shown_ne_empty (hDialogue.ne_nil hMissing))]
    rfl
  refine ⟨exchanges, hDialogue, ?_⟩
  cases hFilling with
  | filled filled hResult hFills =>
      have hAll : ∀ e ∈ exchanges, e.taken ≠ none := by
        intro e he hNone
        obtain ⟨answer, hAnswer, -⟩ := hFills.answered e he
        rw [Exchange.answer?, hNone] at hAnswer
        cases hAnswer
      exact completes_of_fills hDraft hMissing hDeeds target hResult hFills (hDialogue.parts_eq hAll)
  | ended e hLast hTaken hResult =>
      exact completes_of_ended hDraft hMissing hDeeds target hResult hDialogue.parts_prefix hLast
        hTaken

theorem settingsPath_eq {before after : Disk} (h : after.here = before.here) (config : Option Path) :
    settingsPath after config = settingsPath before config := by
  rw [settingsPath, settingsPath, Disk.absolute, Disk.absolute, Disk.herePath, Disk.herePath, h]

theorem settingsPath_home :
    settingsPath (Disk.empty ["home"]) none = ⟨true, ["home", settingsFile]⟩ := by decide

/-- The draft of settings that lack two parts. -/
def partly : Draft :=
  ⟨some "http://127.0.0.1:8080", some " 5", none, none, none⟩

/-- The same as JSON. -/
def partlyJson : Json.Value :=
  .object [("apifoxHost", .text "http://127.0.0.1:8080"), ("projectId", .text " 5")]

/-- A file that gives no other parts is looked up as this draft. -/
theorem load_unfinished :
    ((Draft.load (settingsPath unfinished none)).on unfinished).result = .ok (some partly) := by
  have hText : "\x7b\"apifoxHost\":\"http://127.0.0.1:8080\",\"projectId\":\" 5\"\x7d" =
      partlyJson.render .compact := by rfl
  have hFree : partlyJson.NumberFree := by
    simp [partlyJson, Json.Value.NumberFree, Json.Value.NumberFreeMembers]
  have hFile : unfinished.read (settingsPath unfinished none) =
      .ok (encodeUtf8 (partlyJson.render .compact).toList) := by
    rw [← hText]
    rfl
  refine Draft.load_of_render Json.Layout.compact_blank hFree (fun t ht => ?_) hFile
  unfold partlyJson at ht
  repeat' first | cases ‹Json.Tree.Denotes _ _› | cases ‹Json.Members.Denote _ _›
  rfl

/-- Settings that lack nothing, with white space around two parts. -/
def ready : Settings :=
  ⟨"http://127.0.0.1:8080", " 5", "secret", "v\n", .standard⟩

/-- A disk where these settings were saved. -/
def prepared : Disk :=
  ((ready.save ⟨true, ["home", settingsFile]⟩).on (Disk.empty ["home"])).disk

theorem save_ready :
    ((ready.save ⟨true, ["home", settingsFile]⟩).on (Disk.empty ["home"])).result = .ok () ∧
      prepared = (Disk.empty ["home"]).put ["home", settingsFile]
        (.file (encodeUtf8 ready.text.toList)) :=
  Settings.on_save_of_write rfl

/-- A client that goes beside the settings. -/
def beside : Target :=
  ⟨some ⟨false, ["api.ts"]⟩, false, false, "/api"⟩

/-- The token is asked for twice, the version once, and the project keeps its number; settings that
lack nothing are read and not written. -/
theorem unfinished_completed :
    ((Draft.load (settingsPath unfinished none)).on unfinished).result = .ok (some partly) ∧
    (∃ exchanges settings saved, Dialogue [.token, .apiVersion] ["", " secret", ""] exchanges ∧
      exchanges.map (·.part) = [.token, .apiVersion] ∧ settings.part .projectId = "5" ∧
      GoesOn hesitant none beside unfinished
        (asking (settingsPath unfinished none) partly exchanges ++
          settings.savedAt (settingsPath unfinished none)) saved settings) ∧
    ((Draft.load (settingsPath prepared none)).on prepared).result = .ok (some ready.draft) ∧
    ∃ settings, ready.draft.CompletedAs [] settings ∧ GoesOn hesitant none beside prepared
      [.read (settingsPath prepared none)] prepared settings := by
  obtain ⟨hSave, hSaved⟩ := save_ready
  have hPath : settingsPath prepared none = ⟨true, ["home", settingsFile]⟩ :=
    (settingsPath_eq (by rw [hSaved]; rfl) none).trans settingsPath_home
  have hPrepared : ((Draft.load (settingsPath prepared none)).on prepared).result =
      .ok (some ready.draft) := by
    rw [hPath]
    exact Settings.loadDraft_of_save hSave
  have hLacks : partly.missing = [.token, .apiVersion] := by decide
  refine ⟨load_unfinished, ?_, hPrepared,
    (fetch_completes_settings hesitant none beside prepared _ hPrepared).2 (by decide)⟩
  obtain ⟨exchanges, hDialogue, hCompletes⟩ :=
    (fetch_completes_settings hesitant none beside unfinished _ load_unfinished).1
      ["", " secret", ""] rfl (by rw [hLacks]; simp)
  cases hCompletes with
  | answered settings saved hParts hSettings hGoesOn =>
      rw [hLacks] at hDialogue hParts
      refine ⟨exchanges, settings, saved, hDialogue, hParts, ?_, hGoesOn⟩
      exact (hSettings.kept .projectId " 5" (by decide)).trans (by decide)
  | unanswered e _ _ _ hOver =>
      cases hOver.result.symm.trans unfinished_fetched

end Command

end TypedClient
