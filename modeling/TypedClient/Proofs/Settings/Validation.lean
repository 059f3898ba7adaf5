import TypedClient.Proofs.Settings.Setup

/-!
Drafts on trial. Main statement: a draft gives settings just if it lacks none of the required parts;
what it is refused for are exactly the parts that it lacks, in the order in which they are written;
what it gives has its parts without the white space around them, and stands every further trial; and
settings in a file are the draft in it on trial.
-/

namespace TypedClient

open Text

namespace Draft

variable {draft : Draft} {settings : Settings} {reported : List RequiredPart} {p : RequiredPart}

/-- A part is lacking: what is given of it, if anything, is white space only. -/
def Lacks (draft : Draft) (p : RequiredPart) : Prop :=
  ∀ value, draft.part p = some value → ∀ c ∈ value.toList, isBlank c = true

theorem mem_missing_iff_lacks : p ∈ draft.missing ↔ draft.Lacks p := by
  rw [mem_missing, isBlankText, List.all_eq_true, Lacks]
  cases draft.part p with
  | none => simp
  | some value => simp

/-- Nothing is given by default: a part that is not lacking was given. -/
theorem exists_part_of_not_lacks (h : ¬ draft.Lacks p) :
    ∃ value, draft.part p = some value ∧ isBlankText value = false := by
  have hPresent : draft.present p ≠ none := by
    rw [Ne, present_eq_none, mem_missing_iff_lacks]
    exact h
  obtain ⟨value, hValue⟩ := Option.ne_none_iff_exists'.mp hPresent
  exact ⟨value, present_eq_some.mp hValue⟩

/-- What a draft is rightly refused for: the parts that it lacks, in the order in which they are
written, and there are some. -/
structure RefusedFor (draft : Draft) (reported : List RequiredPart) : Prop where
  ne_nil : reported ≠ []
  inOrder : reported.Sublist [.host, .projectId, .token, .apiVersion]
  mem_iff : ∀ p, p ∈ reported ↔ draft.Lacks p

/-- What a draft rightly gives: every part as it was given, but for the white space around it, and
what it asks for or else the standard request. -/
structure Gives (draft : Draft) (settings : Settings) : Prop where
  parts : ∀ p, ∃ value, draft.part p = some value ∧ settings.part p = trim value ∧
    IsCoreOf (settings.part p) value
  nonempty : ∀ p, settings.part p ≠ ""
  given : ∀ request, draft.request = some request → settings.request = request
  standard : draft.request = none → settings.request = .standard
  /-- A further trial changes nothing. -/
  again : settings.draft.complete = .ok settings

theorem complete_eq_error :
    draft.complete = .error reported ↔ draft.missing ≠ [] ∧ reported = draft.missing := by
  rw [complete]
  split
  · next hMissing => simp [hMissing]
  · next hMissing =>
      rw [Except.error.injEq, eq_comm]
      exact (and_iff_right hMissing).symm

theorem refusedFor_of_complete (h : draft.complete = .error reported) :
    draft.RefusedFor reported := by
  obtain ⟨hSome, rfl⟩ := complete_eq_error.mp h
  exact ⟨hSome, List.filter_sublist, fun _ => mem_missing_iff_lacks⟩

theorem gives_of_complete (h : draft.complete = .ok settings) : draft.Gives settings := by
  have hComplete := isComplete_of_complete h
  obtain ⟨hMissing, hParts, hRequest⟩ := complete_eq_ok.mp h
  constructor
  case parts =>
    intro p
    have hThere : ¬ draft.Lacks p := by
      rw [← mem_missing_iff_lacks, hMissing]
      exact List.not_mem_nil
    obtain ⟨value, hValue, -⟩ := exists_part_of_not_lacks hThere
    have hTrim : settings.part p = trim value := by rw [hParts p, hValue, Option.getD_some]
    exact ⟨value, hValue, hTrim, hTrim ▸ trim_isCoreOf value⟩
  case nonempty =>
    intro p hEmpty
    have hBlank := (hComplete p).1
    rw [hEmpty] at hBlank
    exact absurd hBlank (by decide)
  case given =>
    rintro request hGiven
    rw [hRequest, hGiven, Option.getD_some]
  case standard =>
    intro hNone
    rw [hRequest, hNone, Option.getD_none]
  case again => exact Settings.complete_draft_of_isComplete hComplete

/-- What comes of looking for settings where a draft was looked for: what the draft gives, or that
it lacks parts. -/
def onTrial : Option Draft → Except SettingsFault (Option Settings)
  | none => .ok none
  | some draft => (draft.complete.mapError .incomplete).map some

/-- A draft on trial does nothing else, and nothing is seen of it. -/
theorem on_demand_some (draft : Draft) (d : Disk) :
    (draft.demand >>= fun settings => pure (some settings)).on d =
      ⟨d, [], onTrial (some draft)⟩ := by
  rw [Run.on_bind, demand, onTrial]
  cases draft.complete <;> rfl

/-- Looking for settings is looking for a draft and trying it. -/
theorem on_load_settings (path : Path) (d : Disk) :
    (Settings.load path).on d =
      ⟨((Draft.load path).on d).disk, ((Draft.load path).on d).deeds,
        ((Draft.load path).on d).result.bind onTrial⟩ := by
  unfold Settings.load
  rw [Run.on_bind]
  cases ((Draft.load path).on d).result with
  | error fault => rfl
  | ok found =>
      cases found with
      | none =>
          dsimp only [Except.bind]
          rw [Run.on_pure, List.append_nil, onTrial]
      | some draft =>
          dsimp only [Except.bind]
          rw [on_demand_some, List.append_nil]

/-- A draft gives settings just if no required part is missing, and that is if it lacks none; then
every part was given. If it is refused, then for exactly the parts that it lacks, in their order.
The settings are its parts without white space around them, and are given again by their own draft.
The settings in a file are those that the draft in it gives. -/
theorem trial_exact (draft : Draft) :
    ((∃ settings, draft.complete = .ok settings) ↔ draft.missing = []) ∧
      (draft.missing = [] ↔ ∀ p, ¬ draft.Lacks p) ∧
      (draft.missing = [] → ∀ p, ∃ value, draft.part p = some value) ∧
      (∀ reported, draft.complete = .error reported →
        reported = draft.missing ∧ draft.RefusedFor reported) ∧
      (∀ settings, draft.complete = .ok settings → draft.Gives settings) ∧
      RequiredPart.all.map RequiredPart.name =
        ["apifoxHost", "projectId", "accessToken", "version"] ∧
      ∀ path d, (Settings.load path).on d =
        ⟨((Draft.load path).on d).disk, ((Draft.load path).on d).deeds,
          ((Draft.load path).on d).result.bind onTrial⟩ := by
  have hLacks : draft.missing = [] ↔ ∀ p, ¬ draft.Lacks p := by
    simp only [List.eq_nil_iff_forall_not_mem, mem_missing_iff_lacks]
  refine ⟨⟨?_, exists_complete⟩, hLacks, ?_, ?_, fun _ => gives_of_complete, rfl, on_load_settings⟩
  · rintro ⟨settings, hComplete⟩
    exact (complete_eq_ok.mp hComplete).1
  · intro hMissing p
    obtain ⟨value, hValue, -⟩ := exists_part_of_not_lacks (hLacks.mp hMissing p)
    exact ⟨value, hValue⟩
  · intro reported hComplete
    exact ⟨(complete_eq_error.mp hComplete).2, refusedFor_of_complete hComplete⟩

end Draft

end TypedClient
