import TypedClient.Command.Run
import TypedClient.Proofs.Client.Fetching
import TypedClient.Proofs.Settings.Setup

/-!
What the two commands that generate a client do, seen from outside. Main statement: whatever the
disk, the answers and the service, the settings are saved at most once, then at most one request
arrives, then at most one client is written, and nothing else; each of them only happens on the
grounds of the one before, and the code is 0 just when the client was written.
-/

namespace TypedClient

open Text

namespace Command

/-! ### Finding settings -/

/-- The end of a command that generates a client: it says what was written. -/
def finish (r : Run GenerationFault Report) : Run CommandFault Unit := do
  let report ← r.blaming .generation
  Run.say (.generated report.operations report.output)

theorem body_fetch (s : Surroundings) (settings : Option Path) (target : Target) :
    (Command.fetch settings target).body s =
      Run.disk >>= fun d => obtain s (settingsPath d settings) >>= fun found =>
        finish (fetchInto s.network found (outputPath d target) target.options) := by
  unfold body finish
  rfl

/-- What is seen of the end of a command: a client was written, and it is said so; or a fault is
shown. -/
def closing (output : Path) : Except String Generated → List Deed
  | .ok g => g.written output ++ [.said (.generated g.operations output)]
  | .error message => [.showed (faultLine message)]

end Command

/-- How a command that generates a client ends: what is seen of it, its code, and the only places
where a file may have changed. -/
structure Ending.Delivers (e : Ending) (before : Disk) (opening : List Deed) (own : Place → Prop)
    (output : Path) (made : Except String Generated) : Prop where
  outward : Deed.outward e.deeds = opening ++ Command.closing output made
  code : e.code = if made.isOk then 0 else 1
  files : before.KeepsFiles e.disk fun place =>
    own place ∨ made.isOk = true ∧ before.IsAt output place

theorem Ending.Delivers.mono {e : Ending} {before : Disk} {opening : List Deed}
    {own own' : Place → Prop} {output : Path} {made : Except String Generated}
    (h : e.Delivers before opening own output made) (hOwn : ∀ place, own place → own' place) :
    e.Delivers before opening own' output made :=
  ⟨h.outward, h.code, h.files.mono fun place => Or.imp_left (hOwn place)⟩

namespace Command

variable {s : Surroundings} {c : Command} {d : Disk} {deeds : List Deed} {own : Place → Prop}
  {output : Path}

theorem finish_of_error {r : Run GenerationFault Report} {e : GenerationFault}
    (h : r.Does d deeds own (.error e)) : (finish r).Does d deeds own (.error (.generation e)) :=
  (h.blaming _).andThen_of_error _

theorem finish_of_report {r : Run GenerationFault Report} {g : Generated} (deeds : List Deed)
    (h : r.Does d (deeds ++ g.written output) own (.ok (g.report output))) :
    (finish r).Does d (deeds ++ closing output (.ok g)) own (.ok ()) := by
  rw [closing, ← List.append_assoc]
  exact (h.blaming _).andThen (Run.does_perform _ _)

/-! ### Whole commands -/

/-- What is seen of a command that fetches, before a client is written. -/
def opening (d : Disk) (path : Path) (shown : List String) (saved : Option Settings)
    (asked : Option ExportCall) : List Deed :=
  d.lookedAt path ++ shown.map .showed ++ saved.toList.flatMap (·.savedAt path) ++
    asked.toList.map .asked

end Command

/-- A run of the command that fetches: texts are shown, settings are saved, a request arrives and a
client is written, in this order and each at most once. Settings that are saved or asked with are
complete, and a client is written only if the answer gives it. -/
structure Ending.Fetches (e : Ending) (n : Network) (before : Disk) (path output : Path) (o : Options)
    (shown : List String) (saved : Option Settings) (asked : Option ExportCall)
    (made : Except String Generated) : Prop where
  delivers : e.Delivers before (Command.opening before path shown saved asked)
    (fun place => saved.isSome = true ∧ before.IsAt path place) output made
  complete : ∀ found ∈ saved, found.IsComplete
  asks : ∀ call ∈ asked, ∃ found : Settings, found.IsComplete ∧ found.AsksFor call ∧
    (saved = some found ∨
      saved = none ∧ ((Settings.load path).on before).result = .ok (some found))
  gives : ∀ g, made = .ok g → asked.isSome = true ∧ n.Gives o g

/-- A run of the command that reads a file: nothing else is seen before a client is written, which
the text in the file gives. -/
structure Ending.Reads (e : Ending) (before : Disk) (input output : Path) (o : Options)
    (made : Except String Generated) : Prop where
  delivers : e.Delivers before [.read input] (fun _ => False) output made
  gives : ∀ g, made = .ok g → ∃ text, before.readText input = .ok text ∧ generate text o = .ok g

/-- A service that answers with an empty description, and a person who types a token only when asked
a second time. -/
def hesitant : Surroundings where
  network := ⟨some ⟨8080, some ⟨200, encodeUtf8 "\x7b\x7d".toList, none⟩⟩, true⟩
  typed := some ["", " secret", ""]

/-- A disk with settings that lack two parts, and a file that is no description. -/
def unfinished : Disk :=
  ((Disk.empty ["home"]).put ["home", settingsFile] (.file (encodeUtf8
    "\x7b\"apifoxHost\":\"http://127.0.0.1:8080\",\"projectId\":\" 5\"\x7d".toList))).put
    ["home", "api.ts"] (.file (encodeUtf8 "// older".toList))

theorem unfinished_fetched :
    (((Command.fetch none ⟨some ⟨false, ["api.ts"]⟩, false, false, "/api"⟩).body hesitant).on
      unfinished).result = .ok () := by
  decide +kernel

end TypedClient
