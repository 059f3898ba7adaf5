import TypedClient.Proofs.Command.Completion
import TypedClient.Proofs.Command.Endings
import TypedClient.Proofs.Settings.AllOrNothing

/-!
Making settings where there are some already. Main statement: who takes what was stored as the answer
to every question keeps the settings, run after run, and the file stays as the first run left it.
-/

namespace TypedClient

open Text

/-! ### Taking what was stored -/

namespace RequiredPart

theorem typed_empty (part : RequiredPart) : part.typed "" = "" := by
  cases part <;> decide

end RequiredPart

namespace Draft

variable {stored : Draft} {parts : List RequiredPart} {lines : List String}
  {exchanges : List Exchange} {fault? : Option (RequiredPart × PromptFault)} {path : Path} {d : Disk}
  {settings : Settings}

theorem answer?_of_present {part : RequiredPart} {value : String}
    (h : stored.present part = some value) : stored.answer? part "" = some value := by
  rw [answer?, if_pos part.typed_empty, offered, h, Option.some_or]

/-- Where all parts are present and there is an empty line for each of them, each takes its line, and
the answer is what is present. -/
theorem outcomes_of_empty (h : stored.Conversation parts (some lines) exchanges fault?)
    (hPresent : ∀ p ∈ parts, stored.present p ≠ none)
    (hEmpty : List.replicate parts.length "" <+: lines) :
    fault? = none ∧ ∀ e ∈ exchanges, stored.outcome e = stored.present e.part := by
  generalize hTyped : some lines = typed at h
  induction h generalizing lines with
  | done => exact ⟨rfl, by simp⟩
  | nobody => cases hTyped
  | @ended part parts left hRefused =>
      cases hTyped
      obtain ⟨value, hValue⟩ := Option.ne_none_iff_exists'.mp (hPresent part List.mem_cons_self)
      have hMem : "" ∈ left := hEmpty.subset (by simp)
      cases (hRefused _ hMem).symm.trans (answer?_of_present hValue)
  | silent =>
      cases hTyped
      simp at hEmpty
  | @answered part parts refused rest line answer exchanges fault? hRefused hTaken _ ih =>
      cases hTyped
      obtain ⟨value, hValue⟩ := Option.ne_none_iff_exists'.mp (hPresent part List.mem_cons_self)
      rw [List.length_cons, List.replicate_succ] at hEmpty
      cases refused with
      | cons first refused =>
          obtain ⟨rfl, -⟩ := List.cons_prefix_cons.mp hEmpty
          cases (hRefused _ List.mem_cons_self).symm.trans (answer?_of_present hValue)
      | nil =>
          obtain ⟨rfl, hRest⟩ := List.cons_prefix_cons.mp hEmpty
          obtain ⟨hNone, hOutcomes⟩ :=
            ih (fun p hp => hPresent p (List.mem_cons_of_mem _ hp)) hRest rfl
          refine ⟨hNone, List.forall_mem_cons.mpr ⟨?_, hOutcomes⟩⟩
          exact (answer?_of_present hValue).trans hValue.symm

/-- Settings in which every part is what is present in a draft are those that the draft gives. -/
theorem eq_of_madeFrom {made : Settings} (hMade : made.MadeFrom blank stored exchanges)
    (hOutcomes : ∀ e ∈ exchanges, stored.outcome e = stored.present e.part)
    (hComplete : stored.complete = .ok settings) : made = settings := by
  obtain ⟨-, hPart, hRequest⟩ := complete_eq_ok.mp hComplete
  refine Settings.eq_of_part (fun p => ?_) (hMade.request.trans hRequest.symm)
  have hBlank : blank.present p = none := by
    cases p <;> rfl
  rw [present_eq_none, ← hMade.asked] at hBlank
  obtain ⟨e, he, rfl⟩ := List.mem_map.mp hBlank
  obtain ⟨answer, hOutcome, hAnswer⟩ := hMade.answered e he
  rw [hOutcomes e he] at hOutcome
  rw [hAnswer, hPart, (present_eq_some.mp hOutcome).1, Option.getD_some]

/-- Whoever takes what is stored makes the settings again that it gives. -/
theorem setUp_of_empty (hLoad : ((Draft.load path).on d).result = .ok (some stored))
    (hComplete : stored.complete = .ok settings)
    (hEmpty : List.replicate RequiredPart.all.length "" <+: lines) :
    ((setUp blank stored path (some lines)).on d).result = .ok settings ∧
      d.Receives ((setUp blank stored path (some lines)).on d).disk path
        (encodeUtf8 settings.text.toList) ∧
      ((Settings.load path).on ((setUp blank stored path (some lines)).on d).disk).result =
        .ok (some settings) := by
  obtain ⟨exchanges, fault?, hTells⟩ := interview_tells blank stored RequiredPart.all (some lines) stored
  have hPresent : ∀ p ∈ RequiredPart.all.filter fun p => (blank.present p).isNone,
      stored.present p ≠ none := by
    intro p _ hNone
    rw [present_eq_none, (complete_eq_ok.mp hComplete).1] at hNone
    cases hNone
  obtain ⟨rfl, hOutcomes⟩ := outcomes_of_empty hTells.conversation hPresent hEmpty
  obtain ⟨old, hFile⟩ := find_of_load hLoad
  cases (setupEnds_of_tells hTells : SetupEnds _ _ path d _ _ _) with
  | unsaved made place cause hMade hSave =>
      cases hSave.symm.trans (made.save_does_of_file hFile).result
  | saved made hMade hReceives hFound h =>
      cases eq_of_madeFrom hMade hOutcomes hComplete
      exact ⟨h.result, hReceives, hFound⟩

end Draft

/-! ### Runs -/

/-- Someone is at the terminal who takes what is offered in answer to every question. -/
def Surroundings.TakesOffers (s : Surroundings) : Prop :=
  ∃ lines, s.typed = some lines ∧ List.replicate RequiredPart.all.length "" <+: lines

/-- An ending with the code 0 that leaves settings where they are found again, in their own text. -/
structure Ending.Keeps (e : Ending) (path : Path) (settings : Settings) : Prop where
  code : e.code = 0
  load : ((Settings.load path).on e.disk).result = .ok (some settings)
  file : e.disk.find path = .ok (.file (encodeUtf8 settings.text.toList))

/-- The disk after the same arguments were run in some surroundings, one after the other. -/
def Disk.afterRuns (d : Disk) (args : List String) (sessions : List Surroundings) : Disk :=
  sessions.foldl (fun d s => (runArguments s args d).disk) d

namespace Command

variable {s : Surroundings} {config : Option Path} {d : Disk} {args : List String}
  {settings : Settings} {stored : Draft}

theorem startingDraft_on {path : Path} (h : ((Draft.load path).on d).result = .ok (some stored)) :
    (startingDraft path).on d = ⟨d, [.read path], .ok stored⟩ := by
  have hDisk := Draft.disk_load path d
  have hDeeds := Draft.deeds_of_load h
  rw [Run.on, startingDraft, h, hDisk, hDeeds]
  rfl

/-- A command that makes settings ends well, on the disk that this leaves, where they are made. -/
theorem run_configure {given : Draft}
    (hDraft : ((Draft.load (settingsPath d config)).on d).result = .ok (some stored))
    (hMade : ((setUp given stored (settingsPath d config) s.typed).on d).result = .ok settings) :
    ((Command.configure config given).run s d).code = 0 ∧
      ((Command.configure config given).run s d).disk =
        ((setUp given stored (settingsPath d config) s.typed).on d).disk := by
  have hStart := startingDraft_on hDraft
  have hBody : ((Command.configure config given).body s).on d =
      (((setUp given stored (settingsPath d config) s.typed).blaming CommandFault.setup >>= fun made =>
        Run.log (Event.settingsMade made)).on d).after [.read (settingsPath d config)] := by
    unfold body
    rw [Run.on_disk_bind]
    dsimp only
    rw [Run.on_bind_of_ok (congrArg Outcome.result hStart), hStart]
  have hNamed : (((setUp given stored (settingsPath d config) s.typed).blaming
      CommandFault.setup).on d).result = .ok settings := by
    rw [Run.on_blaming, hMade]
    rfl
  rw [run_eq_ending, hBody, ending_after, Run.on_bind_of_ok hNamed, Run.on_blaming]
  exact ⟨rfl, rfl⟩

/-- A run that takes what was stored keeps it; no other file is touched. -/
theorem configure_keeps (hArgs : Arguments.read args = .ok (.configure config .blank))
    (hTakes : s.TakesOffers)
    (hLoad : ((Settings.load (settingsPath d config)).on d).result = .ok (some settings)) :
    (runArguments s args d).Keeps (settingsPath d config) settings ∧
      d.KeepsFiles (runArguments s args d).disk (d.IsAt (settingsPath d config)) := by
  obtain ⟨lines, hTyped, hEmpty⟩ := hTakes
  obtain ⟨stored, hDraft, hComplete⟩ := exists_draft_of_load hLoad
  obtain ⟨hResult, hReceives, hFound⟩ := Draft.setUp_of_empty hDraft hComplete hEmpty
  rw [← hTyped] at hResult hReceives hFound
  obtain ⟨hCode, hDisk⟩ := run_configure hDraft hResult
  rw [← hDisk] at hReceives hFound
  rw [runArguments, hArgs]
  exact ⟨⟨hCode, hFound, hReceives.file⟩, hReceives.files⟩

/-- However often what was stored is taken, the settings are found again, and no other file is
touched. The induction is on the runs; what each of them leaves is where the next one starts. -/
theorem afterRuns_keeps (hArgs : Arguments.read args = .ok (.configure config .blank))
    {sessions : List Surroundings} (hTakes : ∀ s ∈ sessions, s.TakesOffers)
    (hLoad : ((Settings.load (settingsPath d config)).on d).result = .ok (some settings)) :
    ((Settings.load (settingsPath d config)).on (d.afterRuns args sessions)).result =
        .ok (some settings) ∧
      d.KeepsFiles (d.afterRuns args sessions) (d.IsAt (settingsPath d config)) := by
  induction sessions generalizing d with
  | nil => exact ⟨hLoad, .refl⟩
  | cons s sessions ih =>
      obtain ⟨hTakesFirst, hTakesRest⟩ := List.forall_mem_cons.mp hTakes
      obtain ⟨hKeeps, hFiles⟩ := configure_keeps hArgs hTakesFirst hLoad
      have hPath := settingsPath_eq hFiles.here config
      obtain ⟨hFound, hRest⟩ := ih hTakesRest (by rw [hPath]; exact hKeeps.load)
      rw [hPath] at hFound hRest
      rw [Disk.isAt_eq hFiles.here] at hRest
      exact ⟨hFound, hFiles.trans hRest⟩

end Command

/-- Where a file holds settings, and whoever is at the terminal takes what is offered in answer to
every question, the command that makes settings ends with the code 0 and leaves the same settings, in
their own text. So does every further run, so that from the first one on the file has the same bytes.
No other file is touched. -/
theorem taking_offers_keeps_settings {args : List String} {config : Option Path} {d : Disk}
    {settings : Settings} (hArgs : Arguments.read args = .ok (.configure config .blank))
    (hLoad : ((Settings.load (Command.settingsPath d config)).on d).result = .ok (some settings))
    (earlier : List Surroundings) (s : Surroundings)
    (hTakes : ∀ t ∈ s :: earlier, t.TakesOffers) :
    (runArguments s args (d.afterRuns args earlier)).Keeps (Command.settingsPath d config)
        settings ∧
      d.KeepsFiles (runArguments s args (d.afterRuns args earlier)).disk
        (d.IsAt (Command.settingsPath d config)) := by
  obtain ⟨hTakesLast, hTakesEarlier⟩ := List.forall_mem_cons.mp hTakes
  obtain ⟨hFound, hFiles⟩ := Command.afterRuns_keeps hArgs hTakesEarlier hLoad
  have hPath := Command.settingsPath_eq hFiles.here config
  rw [← hPath] at hFound
  obtain ⟨hKeeps, hRest⟩ := Command.configure_keeps hArgs hTakesLast hFound
  rw [hPath] at hKeeps hRest
  rw [Disk.isAt_eq hFiles.here] at hRest
  exact ⟨hKeeps, hFiles.trans hRest⟩

/-- Someone who only ever types empty lines. -/
def agreeable : Surroundings :=
  ⟨⟨none, false⟩, some (List.replicate 9 "")⟩

/-- A disk with settings that have white space around two parts and a member with no meaning, and that
say what is asked for only in part. -/
def uneven : Disk :=
  (Disk.empty ["home"]).put ["home", settingsFile] (.file (encodeUtf8
    ("\x7b\"version\":\" v\\u3000\",\"accessToken\":\"Schlüssel\\t\",\"more\":[1],\"projectId\":\"5\","
      ++ "\"apifoxHost\":\"h\",\"requestBody\":\x7b\"oasVersion\":\"3.0\"\x7d\x7d").toList))

/-- The draft in it. -/
def unevenDraft : Draft :=
  ⟨some "h", some "5", some "Schlüssel\t", some " v\u3000",
    some ⟨⟨.all, []⟩, ⟨false, false⟩, .v30, .json⟩⟩

/-- The settings in it. -/
def evened : Settings :=
  ⟨"h", "5", "Schlüssel", "v", ⟨⟨.all, []⟩, ⟨false, false⟩, .v30, .json⟩⟩

/-- The first run leaves the settings in their own text, and the third one leaves them so. -/
theorem uneven_keeps_settings :
    ((Settings.load (Command.settingsPath uneven none)).on uneven).result = .ok (some evened) ∧
      agreeable.TakesOffers ∧
      (runArguments agreeable ["config"] uneven).Keeps (Command.settingsPath uneven none) evened ∧
      (runArguments agreeable ["config"]
        (uneven.afterRuns ["config"] [agreeable, agreeable])).Keeps
          (Command.settingsPath uneven none) evened := by
  have hDraft : ((Draft.load (Command.settingsPath uneven none)).on uneven).result =
      .ok (some unevenDraft) :=
    Draft.load_of_readText (Disk.readText_of_read rfl) (by decide +kernel)
  have hLoad : ((Settings.load (Command.settingsPath uneven none)).on uneven).result =
      .ok (some evened) := by
    have hSettings : unevenDraft.complete = .ok evened := by decide +kernel
    rw [Settings.load_of_draft hDraft, hSettings]
  have hTakes : agreeable.TakesOffers := ⟨_, rfl, by decide⟩
  have hArgs : Arguments.read ["config"] = .ok (.configure none .blank) := rfl
  refine ⟨hLoad, hTakes, ?_, ?_⟩
  · exact (taking_offers_keeps_settings hArgs hLoad [] agreeable (by simpa using hTakes)).1
  · exact (taking_offers_keeps_settings hArgs hLoad [agreeable, agreeable] agreeable
      (by simpa using hTakes)).1

end TypedClient
