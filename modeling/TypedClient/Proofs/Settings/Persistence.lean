import TypedClient.Proofs.Disk.Writing
import TypedClient.Proofs.Run
import TypedClient.Proofs.Settings.Text
import TypedClient.Service.Fetch
import TypedClient.Settings.File

/-!
Settings that were saved and are looked up again. Main statement: whatever the settings and the
path, if saving succeeds then the draft found there gives every part as it was, and the settings
found there are the ones saved, without white space around their parts; parts that hold nothing
else are reported missing.
-/

namespace TypedClient

/-! ### Saving -/

/-- The end of saving: the text is written, and it is reported that it was. -/
def Settings.writeOut (s : Settings) (path : Path) : Run SettingsFault Unit := do
  (Run.writeText path s.text).blaming (.unwritable path)
  Run.log (Event.settingsSaved path)

theorem Settings.save_eq (s : Settings) (path : Path) :
    s.save path = match path.folder? with
      | none => s.writeOut path
      | some folder =>
        (Run.makeFolders folder).blaming (.unwritable folder) >>= fun _ => s.writeOut path := by
  unfold save
  cases path.folder? <;> rfl

theorem Settings.write_of_writeOut {s : Settings} {path : Path} {d : Disk}
    (h : ((s.writeOut path).on d).result = .ok ()) :
    d.write path (Text.encodeUtf8 s.text.toList) = .ok ((s.writeOut path).on d).disk := by
  obtain ⟨_, hText, _, hDisk⟩ := Run.result_bind_eq_ok h
  rw [writeOut, hDisk]
  exact Run.write_of_writeText hText

/-- Whatever folders are made before, saving ends with writing the text of the settings. -/
theorem Settings.write_of_save {s : Settings} {path : Path} {d : Disk}
    (h : ((s.save path).on d).result = .ok ()) :
    ∃ before : Disk, before.write path (Text.encodeUtf8 s.text.toList) =
      .ok ((s.save path).on d).disk := by
  rw [save_eq] at h ⊢
  cases hFolder : path.folder? with
  | none =>
      rw [hFolder] at h
      exact ⟨d, write_of_writeOut h⟩
  | some folder =>
      rw [hFolder] at h
      obtain ⟨_, _, hRest, hDisk⟩ := Run.result_bind_eq_ok h
      dsimp only at hDisk ⊢
      rw [hDisk]
      exact ⟨_, write_of_writeOut hRest⟩

/-! ### Looking up -/

/-- Looking up a draft: the disk stays as it is, and a file that is there is read. -/
theorem Draft.on_load (path : Path) (d : Disk) :
    (Draft.load path).on d =
      if d.isThere path then
        ⟨d, [.read path], match d.readText path with
          | .error e => .error (.unreadable path e)
          | .ok text => match Draft.ofString text with
            | .error e => .error (.malformed path e)
            | .ok draft => .ok (some draft)⟩
      else ⟨d, [.logged (Event.settingsMissing path)], .ok none⟩ := by
  unfold load
  rw [Run.on_bind]
  dsimp only [Run.on_disk]
  split
  · have hRead : ((Run.readText path).blaming (SettingsFault.unreadable path)).on d =
        ⟨d, [.read path], (d.readText path).mapError (.unreadable path)⟩ := by
      rw [Run.on_blaming, Run.on, Run.readText]
    rw [Run.on_bind, hRead]
    cases d.readText path with
    | error e => rfl
    | ok text =>
        dsimp only [Except.mapError]
        cases Draft.ofString text <;> rfl
  · rfl

/-- A file with the text of a draft is looked up as that draft, and only read. -/
theorem Draft.on_load_of_readText {path : Path} {d : Disk} {text : String} {draft : Draft}
    (hText : d.readText path = .ok text) (hDraft : Draft.ofString text = .ok draft) :
    (Draft.load path).on d = ⟨d, [.read path], .ok (some draft)⟩ := by
  rw [on_load, if_pos (Disk.isThere_of_readText hText), hText]
  dsimp only
  rw [hDraft]

theorem Draft.load_of_readText {path : Path} {d : Disk} {text : String} {draft : Draft}
    (hText : d.readText path = .ok text) (hDraft : Draft.ofString text = .ok draft) :
    ((Draft.load path).on d).result = .ok (some draft) := by
  rw [on_load_of_readText hText hDraft]

/-- A file with JSON that gives a draft is looked up as that draft. -/
theorem Draft.load_of_render {path : Path} {d : Disk} {layout : Json.Layout} {v : Json.Value}
    {draft : Draft} (hLayout : layout.Blank) (hFree : v.NumberFree)
    (hDraft : ∀ t : Json.Tree, t.Denotes v →
      (t.readRecord Draft.record Json.fullRoom).result = .ok draft)
    (hFile : d.read path = .ok (Text.encodeUtf8 (v.render layout).toList)) :
    ((Draft.load path).on d).result = .ok (some draft) :=
  load_of_readText (Disk.readText_of_read hFile) (Json.readString_render hLayout hFree hDraft)

/-- The settings in a file are those that the draft in it gives, unless it lacks parts. -/
theorem Settings.load_of_draft {path : Path} {d : Disk} {draft : Draft}
    (h : ((Draft.load path).on d).result = .ok (some draft)) :
    ((Settings.load path).on d).result = match draft.complete with
      | .ok settings => .ok (some settings)
      | .error missing => .error (.incomplete missing) := by
  unfold load
  rw [Run.result_bind_of_ok h]
  dsimp only
  rw [Run.on_bind, Draft.demand]
  cases draft.complete <;> rfl

namespace Settings

/-- What settings hold for a part. -/
def part (s : Settings) : RequiredPart → String
  | .host => s.host
  | .projectId => s.projectId
  | .token => s.token
  | .apiVersion => s.apiVersion

/-- The parts that hold nothing but white space, in the order in which they are written. -/
def blankParts (s : Settings) : List RequiredPart :=
  [.host, .projectId, .token, .apiVersion].filter fun p => Text.isBlankText (s.part p)

/-- The settings without white space around their parts. -/
def trimmed (s : Settings) : Settings :=
  ⟨Text.trim s.host, Text.trim s.projectId, Text.trim s.token, Text.trim s.apiVersion, s.request⟩

theorem complete_draft (s : Settings) :
    s.draft.complete = if s.blankParts = [] then .ok s.trimmed else .error s.blankParts := by
  have hMissing : s.draft.missing = s.blankParts := by
    apply List.filter_congr
    intro p _
    cases p <;> rfl
  rw [Draft.complete, hMissing]
  rfl

/-- Settings whose parts have no white space around them are not changed by taking it away. -/
theorem trimmed_eq_self {s : Settings} (h : ∀ p, Text.trim (s.part p) = s.part p) :
    s.trimmed = s := by
  have hHost : Text.trim s.host = s.host := h .host
  have hProject : Text.trim s.projectId = s.projectId := h .projectId
  have hToken : Text.trim s.token = s.token := h .token
  have hVersion : Text.trim s.apiVersion = s.apiVersion := h .apiVersion
  rw [trimmed, hHost, hProject, hToken, hVersion]

/-- What is found where settings were saved is their draft. -/
theorem loadDraft_of_save {s : Settings} {path : Path} {d : Disk}
    (h : ((s.save path).on d).result = .ok ()) :
    ((Draft.load path).on ((s.save path).on d).disk).result = .ok (some s.draft) := by
  obtain ⟨before, hWrite⟩ := write_of_save h
  exact Draft.load_of_readText (Disk.readText_write hWrite) s.ofString_text

theorem loadSettings_of_save {s : Settings} {path : Path} {d : Disk}
    (h : ((s.save path).on d).result = .ok ()) :
    ((Settings.load path).on ((s.save path).on d).disk).result =
      if s.blankParts = [] then .ok (some s.trimmed) else .error (.incomplete s.blankParts) := by
  rw [load_of_draft (loadDraft_of_save h), complete_draft]
  by_cases hBlank : s.blankParts = []
  · rw [if_pos hBlank, if_pos hBlank]
  · rw [if_neg hBlank, if_neg hBlank]

/-- What is found where settings were saved: a draft with every part as it was, and the settings
without white space around their parts, unless there is nothing else in one of them. What is sent
of the request is read as that request. -/
theorem load_of_save {s : Settings} {path : Path} {d : Disk}
    (h : ((s.save path).on d).result = .ok ()) :
    ((Draft.load path).on ((s.save path).on d).disk).result = .ok (some s.draft) ∧
      ((Settings.load path).on ((s.save path).on d).disk).result =
        (if s.blankParts = [] then .ok (some s.trimmed)
          else .error (.incomplete s.blankParts)) ∧
      ((∀ p, Text.trim (s.part p) = s.part p) → s.trimmed = s) ∧
      ∀ url, (Json.readString Export.Request.read (s.exportCall url).body).result =
        .ok s.request :=
  ⟨loadDraft_of_save h, loadSettings_of_save h, trimmed_eq_self, fun _ => s.read_requestText⟩

/-- Settings with white space around two parts, nothing else in a third, and characters that are
escaped where they are written. -/
def crooked : Settings where
  host := " https://host\t"
  projectId := "\x01 \"quoted\" \\ \x7f"
  token := "\u3000"
  apiVersion := "v\n"
  request := ⟨⟨.tags, ["a/b", "\x08"]⟩, ⟨true, false⟩, .v30, .yaml⟩

theorem crooked_load_of_save :
    ((crooked.save ⟨false, [settingsFile]⟩).on (Disk.empty ["home"])).result = .ok () ∧
      ((Draft.load ⟨false, [settingsFile]⟩).on
        ((crooked.save ⟨false, [settingsFile]⟩).on (Disk.empty ["home"])).disk).result =
          .ok (some crooked.draft) ∧
      ((Settings.load ⟨false, [settingsFile]⟩).on
        ((crooked.save ⟨false, [settingsFile]⟩).on (Disk.empty ["home"])).disk).result =
          .error (.incomplete [.token]) := by
  have hSave : ((crooked.save ⟨false, [settingsFile]⟩).on (Disk.empty ["home"])).result =
      .ok () := by rfl
  have hBlank : crooked.blankParts = [.token] := by decide
  obtain ⟨hDraft, hLoad, -⟩ := load_of_save hSave
  refine ⟨hSave, hDraft, ?_⟩
  rw [hLoad, hBlank]
  rfl

end Settings

end TypedClient
