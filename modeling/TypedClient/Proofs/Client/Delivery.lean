import TypedClient.Proofs.Client.Callables
import TypedClient.Proofs.Client.Fetching
import TypedClient.Proofs.Service.Reply

/-!
Runs that generate a client into a file and succeed. Main statement: the file holds just the client
for the description, whatever was there before, and what is reported of it is so; the folders above
the file are there, every other file is as it was, and nothing is gone.
-/

namespace TypedClient

open Text

/-! ### Writing -/

variable {d : Disk} {output path : Path} {o : Options} {text : String} {report : Report}

theorem write_of_writeOut (h : ((writeOut path text).on d).result = .ok ()) :
    d.write path (encodeUtf8 text.toList) = .ok ((writeOut path text).on d).disk := by
  obtain ⟨_, hText, _, hDisk⟩ := Run.result_bind_eq_ok h
  rw [writeOut, hDisk]
  exact Run.write_of_writeText hText

/-- What was written is in the file. -/
theorem writeOutput_receives (h : ((writeOutput path text).on d).result = .ok ()) :
    d.Receives ((writeOutput path text).on d).disk path (encodeUtf8 text.toList) := by
  rw [writeOutput_eq] at h ⊢
  cases hFolder : path.folder? with
  | none =>
      rw [hFolder] at h
      exact Disk.receives_of_write .refl (write_of_writeOut h)
  | some folder =>
      rw [hFolder] at h
      dsimp only at h ⊢
      rw [Run.log, Run.on_perform_bind] at h ⊢
      exact Run.receives_inFolder hFolder (fun _ hWritten => write_of_writeOut hWritten) h

/-! ### Whole runs -/

/-- What is reported of a run that put the client for a description into a file is so, and so is
what it left of the disk. -/
structure Report.Matches (report : Report) (doc : Document) (o : Options) (path : Path)
    (before after : Disk) : Prop where
  output : report.output = path
  bytes : report.bytes = (encodeUtf8 (doc.generate o).code.toList).length
  operations : report.operations = ((Client.ofDocument doc o).script o).callables.length
  code : ((Client.ofDocument doc o).script o).render = (doc.generate o).code
  text : after.readText path = .ok (doc.generate o).code
  disk : before.Receives after path (encodeUtf8 (doc.generate o).code.toList)

theorem Disk.Receives.readText {before after : Disk}
    (h : before.Receives after path (encodeUtf8 text.toList)) : after.readText path = .ok text :=
  readText_of_read (by rw [read, h.file])

theorem matches_report (doc : Document) {after : Disk}
    (h : d.Receives after output (encodeUtf8 (doc.generate o).code.toList)) :
    ((doc.generate o).report output).Matches doc o output d after where
  output := rfl
  bytes := (length_encodeUtf8 _).symm
  operations := by
    rw [Client.callables_ofDocument, List.length_map]
    rfl
  code := rfl
  text := h.readText
  disk := h

theorem exists_of_generate {g : Generated} (h : generate text o = .ok g) :
    ∃ doc, Document.parse text = .ok doc ∧ g = doc.generate o := by
  unfold generate at h
  split at h
  · next doc hParse =>
      cases h
      exact ⟨doc, hParse, rfl⟩
  · cases h

theorem generateInto_on {g : Generated} (hGenerate : generate text o = .ok g) (output : Path)
    (d : Disk) :
    (generateInto output o text).on d =
      (((writeOutput output g.code).blaming GenerationFault.output >>= fun _ =>
        pure (g.report output)).on d).after ((Document.events text o).map .logged ++
          [.logged (Event.generatedClient g.operations)]) := by
  have hMade : ∀ f : Generated → Run GenerationFault Report,
      ((Run.ofExcept (generate text o)).blaming .document >>= f).on d = (f g).on d := by
    intro f
    rw [hGenerate]
    rfl
  unfold generateInto
  rw [Run.on_perform_bind, hMade, Run.log, Run.on_perform_bind, Run.after_after]
  rfl

/-- What a run that succeeds writes is the client for the description in the text. -/
theorem generateInto_matches (h : ((generateInto output o text).on d).result = .ok report) :
    ∃ doc, Document.parse text = .ok doc ∧
      report.Matches doc o output d ((generateInto output o text).on d).disk := by
  rcases generateInto_does output o text d with ⟨e, hFault⟩ | ⟨g, hGenerate, hDone⟩
  · cases hFault.result.symm.trans h
  cases hDone.result.symm.trans h
  obtain ⟨doc, hParse, rfl⟩ := exists_of_generate hGenerate
  refine ⟨doc, hParse, matches_report doc ?_⟩
  rw [generateInto_on hGenerate] at h ⊢
  obtain ⟨_, hBlamed, -, hDisk⟩ := Run.result_bind_eq_ok h
  obtain ⟨hWritten, hSame⟩ := Run.succeeded_blaming hBlamed
  rw [Outcome.disk_after, hDisk, Run.on_pure]
  dsimp only
  rw [hSame]
  exact writeOutput_receives hWritten

/-- A run that fetches and succeeds comes to what generating from the answer comes to. -/
theorem fetchInto_generates {n : Network} {settings : Settings}
    (h : ((fetchInto n settings output o).on d).result = .ok report) :
    ∃ reply, n.Answers reply ∧ ((generateInto output o reply.text).on d).result = .ok report ∧
      ((fetchInto n settings output o).on d).disk =
        ((generateInto output o reply.text).on d).disk := by
  unfold fetchInto at h ⊢
  obtain ⟨url, -, hConnected⟩ := Run.on_ofFetched_bind_of_ok h
  rw [hConnected, Run.log, Run.on_perform_bind, Run.after_after] at h ⊢
  rw [Outcome.result_after] at h
  obtain ⟨text, hText, hAsked⟩ := Run.on_ofFetched_bind_of_ok h
  rw [hAsked] at h ⊢
  rw [Outcome.result_after] at h
  rw [Outcome.disk_after, Outcome.disk_after]
  cases n.ask_follows settings url with
  | unsent e _ hResult => cases hResult.symm.trans hText
  | refused e _ hResult => cases hResult.symm.trans hText
  | answered reply _ hReply _ hResult =>
      cases hResult.symm.trans hText
      exact ⟨reply, hReply, h, rfl⟩

/-- What a run that fetches and succeeds writes is the client for the description in the answer. -/
theorem fetchInto_matches {n : Network} {settings : Settings}
    (h : ((fetchInto n settings output o).on d).result = .ok report) :
    ∃ reply doc, n.Answers reply ∧ Document.parse reply.text = .ok doc ∧
      report.Matches doc o output d ((fetchInto n settings output o).on d).disk := by
  obtain ⟨reply, hReply, hResult, hDisk⟩ := fetchInto_generates h
  obtain ⟨doc, hParse, hMatches⟩ := generateInto_matches hResult
  refine ⟨reply, doc, hReply, hParse, ?_⟩
  rw [hDisk]
  exact hMatches

/-- Whatever was at the output before, a run that succeeds leaves just the client there, for the
description in the text that it was given or in the answer that it got. It reports the output, how
many bytes that client has and how many functions it offers. All folders above the output are there,
every other file has the content that it had, no folder is gone, and nothing is new but what is on
the way to the output. -/
theorem successful_run_delivers (output : Path) (o : Options) (d : Disk) :
    (∀ text report, ((generateInto output o text).on d).result = .ok report →
      ∃ doc, Document.parse text = .ok doc ∧
        report.Matches doc o output d ((generateInto output o text).on d).disk) ∧
    (∀ network settings report, ((fetchInto network settings output o).on d).result = .ok report →
      ∃ reply doc, network.Answers reply ∧ Document.parse reply.text = .ok doc ∧
        report.Matches doc o output d ((fetchInto network settings output o).on d).disk) :=
  ⟨fun _ _ h => generateInto_matches h, fun _ _ _ h => fetchInto_matches h⟩

/-- A description of one operation, with a title that has more bytes than characters. -/
def accented : String :=
  "\x7b\"info\":\x7b\"title\":\"Größe\"\x7d,\"paths\":\x7b\"/ping\":\x7b\"get\":\x7b\x7d\x7d\x7d\x7d"

/-- A disk with a file that is longer than the client for it. -/
def longerClient : Disk :=
  (Disk.empty ["home"]).put ["home", "api.ts"] (.file (List.replicate 2000 0x2F))

/-- The way to that file leads into a folder that is not there and back. -/
def roundabout : Path := ⟨false, ["src", "..", "api.ts"]⟩

/-- A service on this machine that answers with that description, and settings that name it. -/
def accentedService : Network :=
  ⟨some ⟨8080, some ⟨200, encodeUtf8 accented.toList, none⟩⟩, true⟩

def localSettings : Settings :=
  ⟨"http://127.0.0.1:8080", "5", "secret", "v", .standard⟩

/-- The folder is made, and the file holds the client in its 615 bytes and nothing behind it; fetched
or not. -/
theorem longerClient_replaced :
    ((generateInto roundabout .standard accented).on longerClient).result =
        .ok ⟨roundabout, 615, 1⟩ ∧
      ((fetchInto accentedService localSettings roundabout .standard).on longerClient).result =
        .ok ⟨roundabout, 615, 1⟩ ∧
      ∃ doc content, Document.parse accented = .ok doc ∧
        content = encodeUtf8 (doc.generate .standard).code.toList ∧ content.length = 615 ∧
        ((generateInto roundabout .standard accented).on longerClient).disk.find roundabout =
          .ok (.file content) ∧
        ((generateInto roundabout .standard accented).on longerClient).disk.find
          ⟨false, ["src"]⟩ = .ok .folder ∧
        ((fetchInto accentedService localSettings roundabout .standard).on
          longerClient).disk.find roundabout = .ok (.file content) := by
  have hFetch : ((fetchInto accentedService localSettings roundabout .standard).on
      longerClient).result = .ok ⟨roundabout, 615, 1⟩ := by decide +kernel
  have hText : (⟨200, encodeUtf8 accented.toList, none⟩ : Reply).Holds accented :=
    ⟨rfl, rfl, rfl, by decide⟩
  have hGenerate : ((generateInto roundabout .standard accented).on longerClient).result =
      .ok ⟨roundabout, 615, 1⟩ := by
    obtain ⟨reply, ⟨server, hServer, hReply⟩, hResult, -⟩ := fetchInto_generates hFetch
    cases hServer
    cases hReply
    rwa [hText.text_eq] at hResult
  obtain ⟨doc, hParse, hMatches⟩ :=
    (successful_run_delivers roundabout .standard longerClient).1 _ _ hGenerate
  obtain ⟨reply, fetched, ⟨server, hServer, hReply⟩, hFetched, hFetchedMatches⟩ :=
    (successful_run_delivers roundabout .standard longerClient).2 _ _ _ hFetch
  cases hServer
  cases hReply
  rw [hText.text_eq, hParse] at hFetched
  cases hFetched
  refine ⟨hGenerate, hFetch, doc, _, hParse, rfl, hMatches.bytes.symm, hMatches.disk.file, ?_,
    hFetchedMatches.disk.file⟩
  have hUnder : roundabout.LiesUnder ⟨false, ["src"]⟩ :=
    .above (.parent (by decide : roundabout.parent? = some ⟨false, ["src", ".."]⟩)) (by decide)
  exact hMatches.disk.above _ hUnder (by decide)

end TypedClient
