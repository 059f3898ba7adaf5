import TypedClient.Proofs.Client.Failure
import TypedClient.Proofs.Run.Effects

/-!
What fetching a description and generating its client does, seen from outside. Main statement: at
most one request arrives, and it says what the settings say; and a client is only written if that
was answered well with a description that can be read.
-/

namespace TypedClient

open Text

/-! ### A client -/

theorem attempts_writeOut (path : Path) (text : String) (d : Disk) :
    (writeOut path text).Attempts d [.wrote path (encodeUtf8 text.toList)] (d.IsAt path) () :=
  ((Run.attempts_writeText path text d).blaming (OutputFault.file path)).andThen
    (Run.does_log _ _)

theorem attempts_writeOutput (path : Path) (text : String) (d : Disk) :
    (writeOutput path text).Attempts d [.wrote path (encodeUtf8 text.toList)] (d.IsAt path) () := by
  rw [writeOutput_eq]
  cases path.folder? with
  | none => exact attempts_writeOut path text d
  | some folder =>
      refine (Run.does_log _ d).andThen_attempts ?_
      exact Run.attempts_inFolder _ fun d => attempts_writeOut path text d

/-- What is seen of writing a client. -/
def Generated.written (g : Generated) (output : Path) : List Deed :=
  [.wrote output (encodeUtf8 g.code.toList)]

/-- What is reported of a written client. -/
def Generated.report (g : Generated) (output : Path) : Report :=
  ⟨output, g.code.utf8ByteSize, g.operations⟩

/-- A client is generated of a text that can be read, and that is all. -/
theorem generateInto_does (output : Path) (o : Options) (text : String) (d : Disk) :
    (∃ e, (generateInto output o text).Does d [] (fun _ => False) (.error e)) ∨
      ∃ g, generate text o = .ok g ∧ (generateInto output o text).Does d (g.written output)
        (d.IsAt output) (.ok (g.report output)) := by
  have hEvents : (Run.perform ((Document.events text o).map .logged) : Run GenerationFault _).Does d
      [] (fun _ => False) (.ok ()) := by
    simpa using Run.does_perform ((Document.events text o).map .logged) d
  have hRead := (Run.does_ofExcept (generate text o) d fun _ => False).blaming
    GenerationFault.document
  cases hGenerate : generate text o with
  | error e =>
      rw [hGenerate] at hRead
      unfold generateInto
      rw [hGenerate]
      exact .inl ⟨_, hEvents.andThen (hRead.andThen_of_error _)⟩
  | ok g =>
      have hAll : (generateInto output o text).Attempts d (g.written output) (d.IsAt output)
          (g.report output) := by
        rw [hGenerate] at hRead
        unfold generateInto
        rw [hGenerate]
        refine hEvents.andThen_attempts (hRead.andThen_attempts ?_)
        refine (Run.does_log _ d).andThen_attempts ?_
        exact ((attempts_writeOutput output g.code d).blaming _).andThen (Run.does_done _ _)
      rcases hAll with hFault | hDone
      · exact .inl hFault
      · exact .inr ⟨g, rfl, hDone⟩

/-! ### Asking -/

/-- The network has a server that answers with a reply. -/
def Network.Answers (n : Network) (reply : Reply) : Prop :=
  ∃ server, n.server = some server ∧ server.reply = some reply

/-- A client is generated of what the network answers, and answers well. -/
def Network.Gives (n : Network) (o : Options) (g : Generated) : Prop :=
  ∃ reply, n.Answers reply ∧ isSuccess reply.status = true ∧ generate reply.text o = .ok g

/-- What settings ask a service for. -/
def Settings.AsksFor (s : Settings) (call : ExportCall) : Prop :=
  ∃ url, exportEndpoint s.host s.projectId = .ok url ∧ call = s.exportCall url.withoutUserinfo

theorem Network.connect_call (n : Network) (s : Settings) : (n.connect s).call = none := by
  unfold connect
  split
  · rfl
  · split <;> rfl

theorem Network.endpoint_of_connect {n : Network} {s : Settings} {url : Url}
    (h : (n.connect s).result = .ok url) : exportEndpoint s.host s.projectId = .ok url := by
  unfold connect at h
  split at h
  · cases h
  next hUrl =>
  split at h <;> cases h
  exact hUrl

/-- What can come of a call: it does not arrive, or it is not answered well, or there is the text of
an answer. -/
inductive Fetched.Follows (n : Network) (call : ExportCall) (f : Fetched String) : Prop
  | unsent (e : FetchError) (hCall : f.call = none) (hResult : f.result = .error e)
  | refused (e : FetchError) (hCall : f.call = some call) (hResult : f.result = .error e)
  | answered (reply : Reply) (hCall : f.call = some call) (hReply : n.Answers reply)
      (hSuccess : isSuccess reply.status = true) (hResult : f.result = .ok reply.text)

/-- What arrives is what the settings say, and there is only a text if that was answered well. -/
theorem Network.ask_follows (n : Network) (s : Settings) (url : Url) :
    (n.ask s url).Follows n (s.exportCall url.withoutUserinfo) := by
  unfold ask
  split
  · exact .unsent _ rfl rfl
  dsimp only
  split
  · exact .unsent _ rfl rfl
  split
  · exact .unsent _ rfl rfl
  next server hServer =>
  split
  · exact .unsent _ rfl rfl
  split
  · exact .refused _ rfl rfl
  next reply hReply =>
  split
  · next hSuccess => exact .answered reply rfl ⟨server, hServer, hReply⟩ hSuccess rfl
  · exact .refused _ rfl rfl

/-- What can come of fetching a client: it fails before or after a request arrived, or the client of
what was answered is written. -/
inductive Settings.Fetches (n : Network) (s : Settings) (output : Path) (o : Options) (d : Disk)
    (r : Run GenerationFault Report) : Prop
  | unsent (e : GenerationFault) (h : r.Does d [] (fun _ => False) (.error e))
  | failed (call : ExportCall) (e : GenerationFault) (hCall : s.AsksFor call)
      (h : r.Does d [.asked call] (fun _ => False) (.error e))
  | written (call : ExportCall) (g : Generated) (hCall : s.AsksFor call) (hGives : n.Gives o g)
      (h : r.Does d (.asked call :: g.written output) (d.IsAt output) (.ok (g.report output)))

theorem fetchInto_fetches (n : Network) (s : Settings) (output : Path) (o : Options) (d : Disk) :
    s.Fetches n output o d (fetchInto n s output o) := by
  have hConnect := (Run.does_ofFetched (n.connect s) d fun _ => False).blaming
    GenerationFault.fetch
  rw [n.connect_call] at hConnect
  unfold fetchInto
  cases hUrl : (n.connect s).result with
  | error e =>
      rw [hUrl] at hConnect
      exact .unsent _ (hConnect.andThen_of_error _)
  | ok url =>
      rw [hUrl] at hConnect
      have hAsk := (Run.does_ofFetched (n.ask s url) d fun _ => False).blaming
        GenerationFault.fetch
      have hCall : s.AsksFor (s.exportCall url.withoutUserinfo) :=
        ⟨url, Network.endpoint_of_connect hUrl, rfl⟩
      cases n.ask_follows s url with
      | unsent e hNone hResult =>
          rw [hNone, hResult] at hAsk
          exact .unsent _ (hConnect.andThen ((Run.does_log _ d).andThen (hAsk.andThen_of_error _)))
      | refused e hSome hResult =>
          rw [hSome, hResult] at hAsk
          exact .failed _ _ hCall
            (hConnect.andThen ((Run.does_log _ d).andThen (hAsk.andThen_of_error _)))
      | answered reply hSome hReply hSuccess hResult =>
          rw [hSome, hResult] at hAsk
          rcases generateInto_does output o reply.text d with ⟨e, hFault⟩ | ⟨g, hGenerate, hDone⟩
          · exact .failed _ e hCall
              (hConnect.andThen ((Run.does_log _ d).andThen (hAsk.andThen hFault)))
          · exact .written _ g hCall ⟨reply, hReply, hSuccess, hGenerate⟩
              ((hConnect.mono fun _ h => h.elim).andThen ((Run.does_log _ d).andThen
                ((hAsk.mono fun _ h => h.elim).andThen hDone)))

end TypedClient
