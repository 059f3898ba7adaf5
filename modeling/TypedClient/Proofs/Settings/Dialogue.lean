import TypedClient.Proofs.Settings.Conversation

/-!
What a person is asked. Main statement: who completes a draft is asked for just the parts that it
lacks, one after the other, for each until a line will do; what is present is kept, and a part that
was asked for is what the line that did stands for.
-/

namespace TypedClient

open Text

/-! ### Lines -/

namespace RequiredPart

/-- What a line stands for as the answer to the question for a part of which nothing is known: an
empty line for the usual choice, if there is one, and any other for itself, unless it is blank. -/
def answer? (part : RequiredPart) (line : String) : Option String :=
  if part.typed line = "" then part.standard?
  else if isBlankText (part.typed line) then none
  else some (part.typed line)

/-- The question for a part of which nothing is known, with the line that is typed; a token is not
shown. -/
def echo : RequiredPart → String → String
  | .token, _ => SecretPrompt.question ⟨label .token, none⟩
  | part, line => Prompt.question ⟨part.label, part.standard?⟩ ++ part.typed line ++ "\n"

/-- What is shown of a line that will not do. -/
def refusal (part : RequiredPart) (line : String) : String :=
  part.echo line ++ if part.typed line = "" then "" else rejection

/-- What is shown of a line that will do, as an answer. -/
def settling : RequiredPart → String → String → String
  | .token, line, _ => echo .token line ++ SecretPrompt.settled ⟨label .token, none⟩
  | part, line, answer =>
    part.echo line ++ Prompt.settled ⟨part.label, part.standard?⟩ answer

/-- What is shown if there is no line. -/
def silence : RequiredPart → String
  | .token => label .token ++ ": "
  | part => Prompt.question ⟨part.label, part.standard?⟩

variable {part : RequiredPart} {line answer : String}

theorem answer?_of_empty (h : part.typed line = "") : part.answer? line = part.standard? :=
  if_pos h

theorem answer?_of_blank (h : part.typed line ≠ "") (hBlank : isBlankText (part.typed line) = true) :
    part.answer? line = none := by
  rw [answer?, if_neg h, if_pos hBlank]

theorem answer?_of_text (h : part.typed line ≠ "") (hText : isBlankText (part.typed line) = false) :
    part.answer? line = some (part.typed line) := by
  rw [answer?, if_neg h, hText]
  rfl

/-- What will do is not blank. -/
theorem answer?_not_blank (h : part.answer? line = some answer) : isBlankText answer = false := by
  rw [answer?] at h
  split at h
  · exact standard?_not_blank h
  split at h
  · cases h
  next hText =>
  cases h
  simpa using hText

theorem refusal_of_empty (h : part.typed line = "") : part.refusal line = part.echo line := by
  rw [refusal, if_pos h, String.append_empty]

theorem refusal_of_ne (h : part.typed line ≠ "") :
    part.refusal line = part.echo line ++ rejection := by
  rw [refusal, if_neg h]

theorem echo_of_ne_token (h : part ≠ .token) (line : String) :
    part.echo line = Prompt.question ⟨part.label, part.standard?⟩ ++ typedText line ++ "\n" := by
  cases part with
  | token => exact absurd rfl h
  | _ => rfl

theorem settling_of_ne_token (h : part ≠ .token) (line answer : String) :
    part.settling line answer =
      part.echo line ++ Prompt.settled ⟨part.label, part.standard?⟩ answer := by
  cases part with
  | token => exact absurd rfl h
  | _ => rfl

theorem silence_ne_empty (part : RequiredPart) : part.silence ≠ "" := by
  cases part <;> decide

theorem settling_ne_empty (part : RequiredPart) (line answer : String) :
    part.settling line answer ≠ "" := by
  cases part <;> simp [settling, echo, SecretPrompt.question]

end RequiredPart

/-! ### One part -/

namespace Draft

variable {stored : Draft} {part : RequiredPart}

theorem ask_token (h : stored.present .token = none) (lines : List String) :
    stored.ask .token lines = SecretPrompt.ask ⟨RequiredPart.label .token, none⟩ lines := by
  rw [ask, h]
  dsimp only [Option.isSome_none]
  rw [if_neg (by decide), String.append_empty]

theorem ask_of_ne_token (hPart : part ≠ .token) (h : stored.present part = none)
    (lines : List String) :
    stored.ask part lines = Prompt.ask ⟨part.label, part.standard?⟩ lines := by
  cases part with
  | token => exact absurd rfl hPart
  | _ => simp only [ask, h, Option.none_or]

theorem ask_nil (h : stored.present part = none) :
    stored.ask part [] = ⟨part.silence, [], .error .endOfInput⟩ := by
  by_cases hPart : part = .token
  · subst hPart
    rw [ask_token h]
    rfl
  · rw [ask_of_ne_token hPart h]
    cases part with
    | token => exact absurd rfl hPart
    | _ => rfl

theorem ask_cons_token (h : stored.present .token = none) (line : String) (lines : List String) :
    stored.ask .token (line :: lines) = match RequiredPart.answer? .token line with
      | some answer => ⟨RequiredPart.settling .token line answer, lines, .ok answer⟩
      | none => (stored.ask .token lines).after (RequiredPart.refusal .token line) := by
  rw [ask_token h, ask_token h, SecretPrompt.ask]
  by_cases hEmpty : RequiredPart.typed .token line = ""
  · rw [RequiredPart.answer?_of_empty hEmpty, RequiredPart.refusal_of_empty hEmpty]
    exact if_pos hEmpty
  · cases hBlank : isBlankText (RequiredPart.typed .token line) with
    | true =>
        rw [RequiredPart.answer?_of_blank hEmpty hBlank, RequiredPart.refusal_of_ne hEmpty]
        exact (if_neg hEmpty).trans (if_pos hBlank)
    | false =>
        rw [RequiredPart.answer?_of_text hEmpty hBlank]
        exact (if_neg hEmpty).trans (if_neg (by rw [← Bool.not_eq_true] at hBlank; exact hBlank))

/-- A line that will do is the answer; after another one the question is put again. -/
theorem ask_cons (h : stored.present part = none) (line : String) (lines : List String) :
    stored.ask part (line :: lines) = match part.answer? line with
      | some answer => ⟨part.settling line answer, lines, .ok answer⟩
      | none => (stored.ask part lines).after (part.refusal line) := by
  by_cases hPart : part = .token
  · subst hPart
    exact ask_cons_token h line lines
  have hTyped := RequiredPart.typed_of_ne_token hPart line
  rw [ask_of_ne_token hPart h, ask_of_ne_token hPart h, Prompt.ask, ← hTyped]
  dsimp only
  by_cases hEmpty : part.typed line = ""
  · rw [RequiredPart.answer?_of_empty hEmpty, RequiredPart.refusal_of_empty hEmpty, if_pos hEmpty,
      RequiredPart.echo_of_ne_token hPart, ← hTyped]
    cases hUsual : part.standard? with
    | none => rfl
    | some usual =>
        dsimp only
        rw [RequiredPart.standard?_not_blank hUsual, RequiredPart.settling_of_ne_token hPart,
          RequiredPart.echo_of_ne_token hPart, ← hTyped, hUsual]
        rfl
  · rw [if_neg hEmpty]
    dsimp only
    cases hBlank : isBlankText (part.typed line) with
    | true =>
        rw [RequiredPart.answer?_of_blank hEmpty hBlank, RequiredPart.refusal_of_ne hEmpty,
          RequiredPart.echo_of_ne_token hPart, ← hTyped]
        rfl
    | false =>
        rw [RequiredPart.answer?_of_text hEmpty hBlank]
        dsimp only
        rw [RequiredPart.settling_of_ne_token hPart, RequiredPart.echo_of_ne_token hPart, ← hTyped]
        rfl

end Draft

/-! ### Exchanges -/

namespace Exchange

/-- The answer that the exchange came to. -/
def answer? (e : Exchange) : Option String :=
  e.taken.bind e.part.answer?

/-- What is shown meanwhile. -/
def shown (e : Exchange) : String :=
  concat (e.refused.map e.part.refusal) ++ match e.taken with
    | some line => e.part.settling line ((e.part.answer? line).getD "")
    | none => e.part.silence

theorem shown_cons (part : RequiredPart) (line : String) (refused : List String)
    (taken : Option String) :
    shown ⟨part, line :: refused, taken⟩ = part.refusal line ++ shown ⟨part, refused, taken⟩ := by
  rw [shown, shown, List.map_cons, concat, String.append_assoc]

/-- Something is always shown: the question at least. -/
theorem shown_ne_empty (e : Exchange) : e.shown ≠ "" := by
  intro hEmpty
  obtain ⟨-, hLast⟩ := String.append_eq_empty_iff.mp hEmpty
  cases hTaken : e.taken with
  | none =>
      rw [hTaken] at hLast
      exact e.part.silence_ne_empty hLast
  | some line =>
      rw [hTaken] at hLast
      exact e.part.settling_ne_empty _ _ hLast

end Exchange

/-- Parts are asked for one after the other. Each of them takes the first line that will do, and the
next one goes on behind it; if there is none the dialogue is over. -/
inductive Dialogue : List RequiredPart → List String → List Exchange → Prop
  | done (lines : List String) : Dialogue [] lines []
  | unanswered (part : RequiredPart) (parts : List RequiredPart) (lines : List String)
      (hRefused : ∀ line ∈ lines, part.answer? line = none) :
      Dialogue (part :: parts) lines [⟨part, lines, none⟩]
  | answered {part : RequiredPart} {parts : List RequiredPart} {refused rest : List String}
      {line answer : String} {exchanges : List Exchange}
      (hRefused : ∀ l ∈ refused, part.answer? l = none) (hTaken : part.answer? line = some answer)
      (hRest : Dialogue parts rest exchanges) :
      Dialogue (part :: parts) (refused ++ line :: rest) (⟨part, refused, some line⟩ :: exchanges)

namespace Dialogue

variable {parts : List RequiredPart} {lines : List String} {exchanges : List Exchange}

/-- Nothing is asked for out of turn. -/
theorem parts_prefix (h : Dialogue parts lines exchanges) :
    exchanges.map (·.part) <+: parts := by
  induction h with
  | done => exact List.prefix_refl _
  | unanswered part parts => exact ⟨parts, rfl⟩
  | answered _ _ _ ih => exact List.cons_prefix_cons.mpr ⟨rfl, ih⟩

theorem ne_nil (h : Dialogue parts lines exchanges) (hParts : parts ≠ []) : exchanges ≠ [] := by
  cases h with
  | done => exact absurd rfl hParts
  | unanswered => simp
  | answered => simp

/-- Where every question was answered, all parts were asked for. -/
theorem parts_eq (h : Dialogue parts lines exchanges) (hAll : ∀ e ∈ exchanges, e.taken ≠ none) :
    exchanges.map (·.part) = parts := by
  induction h with
  | done => rfl
  | unanswered => exact absurd rfl (hAll _ (List.mem_singleton_self _))
  | answered _ _ _ ih =>
      rw [List.map_cons, ih fun e he => hAll e (List.mem_cons_of_mem _ he)]

end Dialogue

/-- Whoever is asked for something sees it. -/
theorem concat_shown_ne_empty {exchanges : List Exchange} (h : exchanges ≠ []) :
    concat (exchanges.map Exchange.shown) ≠ "" := by
  cases exchanges with
  | nil => exact absurd rfl h
  | cons e rest =>
      intro hEmpty
      exact e.shown_ne_empty (String.append_eq_empty_iff.mp hEmpty).1

namespace Draft

variable {stored before after : Draft} {part p : RequiredPart} {parts : List RequiredPart}
  {exchanges : List Exchange} {value : String}

/-! ### All parts -/

/-- What is filled into a draft: of some parts what is present, without white space around it, and
what was answered. All else stays. -/
structure Fills (stored : Draft) (parts : List RequiredPart) (exchanges : List Exchange)
    (before after : Draft) : Prop where
  kept : ∀ p ∈ parts, ∀ value, stored.present p = some value → after.part p = some (trim value)
  answered : ∀ e ∈ exchanges, ∃ answer, e.answer? = some answer ∧ after.part e.part = some answer
  others : ∀ p ∉ parts, after.part p = before.part p
  request : after.request = before.request

/-- What can come of asking for all that is missing: the draft is filled, or the lines came to an
end. -/
inductive Filling (stored : Draft) (parts : List RequiredPart) (exchanges : List Exchange)
    (before : Draft) (result : Except (RequiredPart × PromptFault) Draft) : Prop
  | filled (after : Draft) (hResult : result = .ok after)
      (h : stored.Fills parts exchanges before after)
  | ended (e : Exchange) (hLast : exchanges.getLast? = some e) (hTaken : e.taken = none)
      (hResult : result = .error (e.part, .endOfInput))

/-! ### What is missing in a draft -/

section Missing

variable {e : Exchange} {lines : List String} {values : List (RequiredPart × String)}
  {fault? : Option (RequiredPart × PromptFault)}

theorem kept_of_missing (h : stored.present part = none) : stored.kept part = none := by
  cases part with
  | token => exact h
  | _ => rfl

theorem answer?_of_missing (h : stored.present part = none) (line : String) :
    stored.answer? part line = part.answer? line := by
  rw [answer?, offered, h, Option.none_or, kept_of_missing h, RequiredPart.answer?]

theorem outcome_of_missing (h : stored.present e.part = none) : stored.outcome e = e.answer? := by
  rw [outcome, Exchange.answer?]
  cases e.taken with
  | none => exact kept_of_missing h
  | some line => exact answer?_of_missing h line

/-- What is shown of a part that is missing does not depend on the draft. -/
theorem shown_of_missing {refused : List String} {taken : Option String}
    (h : stored.present part = none) (hRefused : ∀ l ∈ refused, part.answer? l = none)
    (hTaken : ∀ line, taken = some line → ∃ answer, part.answer? line = some answer) :
    stored.shown ⟨part, refused, taken⟩ = Exchange.shown ⟨part, refused, taken⟩ := by
  induction refused with
  | nil =>
      cases taken with
      | none => simp [shown, Exchange.shown, concat, ask_nil h]
      | some line =>
          obtain ⟨answer, hAnswer⟩ := hTaken line rfl
          simp [shown, Exchange.shown, concat, ask_cons h, hAnswer]
  | cons line refused ih =>
      obtain ⟨hLine, hRest⟩ := List.forall_mem_cons.mp hRefused
      rw [Exchange.shown_cons, ← ih hRest, shown, List.cons_append, ask_cons h, hLine]
      rfl

/-- A conversation about parts that are missing is a dialogue, and a fault can only be that the lines
came to an end. -/
theorem dialogue_of_conversation (h : stored.Conversation parts (some lines) exchanges fault?)
    (hMissing : ∀ p ∈ parts, stored.present p = none) :
    Dialogue parts lines exchanges ∧
      exchanges.map stored.shown = exchanges.map Exchange.shown ∧
      ∀ fault, fault? = some fault → ∃ e, exchanges.getLast? = some e ∧ e.taken = none ∧
        fault = (e.part, .endOfInput) := by
  generalize hTyped : some lines = typed at h
  induction h generalizing lines with
  | done => exact ⟨.done lines, rfl, by simp⟩
  | nobody => cases hTyped
  | @ended part parts left hRefused =>
      cases hTyped
      have hPart := hMissing part List.mem_cons_self
      have hNone : ∀ l ∈ left, part.answer? l = none := fun l hl =>
        (answer?_of_missing hPart l).symm.trans (hRefused l hl)
      refine ⟨.unanswered part parts left hNone, ?_, ?_⟩
      · rw [List.map_singleton, List.map_singleton, shown_of_missing hPart hNone (by simp)]
      · rintro _ ⟨⟩
        exact ⟨_, rfl, rfl, rfl⟩
  | silent hKept =>
      rw [kept_of_missing (hMissing _ List.mem_cons_self)] at hKept
      cases hKept
  | @answered part parts refused rest line answer exchanges fault? hRefused hTaken _ ih =>
      cases hTyped
      have hPart := hMissing part List.mem_cons_self
      have hNone : ∀ l ∈ refused, part.answer? l = none := fun l hl =>
        (answer?_of_missing hPart l).symm.trans (hRefused l hl)
      have hSome := (answer?_of_missing hPart line).symm.trans hTaken
      obtain ⟨hDialogue, hShown, hFault⟩ :=
        ih (fun p hp => hMissing p (List.mem_cons_of_mem _ hp)) rfl
      refine ⟨.answered hNone hSome hDialogue, ?_, fun fault hEq => ?_⟩
      · rw [List.map_cons, List.map_cons, hShown, shown_of_missing hPart hNone]
        rintro _ ⟨⟩
        exact ⟨answer, hSome⟩
      · obtain ⟨e, hLast, hOver⟩ := hFault fault hEq
        refine ⟨e, ?_, hOver⟩
        rw [List.getLast?_cons, hLast]
        rfl

theorem fills_of_provides (hNodup : parts.Nodup)
    (hMissing : ∀ e ∈ exchanges, stored.present e.part = none)
    (h : stored.Provides stored parts exchanges values) :
    stored.Fills parts exchanges before (before.setAll values) where
  kept := fun p hp value hPresent =>
    part_setAll (by rw [h.order]; exact hNodup) (h.fixed p hp value hPresent)
  answered := by
    intro e he
    obtain ⟨answer, hOutcome, hMem⟩ := h.answered e he
    rw [outcome_of_missing (hMissing e he)] at hOutcome
    exact ⟨answer, hOutcome, part_setAll (by rw [h.order]; exact hNodup) hMem⟩
  others := fun p hp => part_setAll_of_notMem (by rw [h.order]; exact hp)
  request := request_setAll before values

end Missing

/-- Whoever is asked for the parts of a draft that is given is asked for those that are missing. -/
theorem interview_dialogue (stored : Draft) {parts : List RequiredPart} (hNodup : parts.Nodup)
    (lines : List String) (draft : Draft) :
    ∃ exchanges, Dialogue (parts.filter fun p => (stored.present p).isNone) lines exchanges ∧
      (interview stored stored parts (some lines) draft).shown =
        concat (exchanges.map Exchange.shown) ∧
      stored.Filling parts exchanges draft (interview stored stored parts (some lines) draft).result := by
  obtain ⟨exchanges, fault?, hTells⟩ := interview_tells stored stored parts (some lines) draft
  have hMissing : ∀ p ∈ parts.filter fun p => (stored.present p).isNone, stored.present p = none :=
    fun p hp => Option.isNone_iff_eq_none.mp (List.mem_filter.mp hp).2
  obtain ⟨hDialogue, hShown, hFault⟩ := dialogue_of_conversation hTells.conversation hMissing
  refine ⟨exchanges, hDialogue, by rw [hTells.shown, hShown], ?_⟩
  have hResult := hTells.result
  cases fault? with
  | none =>
      obtain ⟨values, hProvides, hFilled⟩ := hResult
      refine .filled _ hFilled (fills_of_provides hNodup (fun e he => ?_) hProvides)
      exact hMissing _ (hTells.conversation.inOrder.1.subset (List.mem_map_of_mem he))
  | some fault =>
      obtain ⟨e, hLast, hTaken, rfl⟩ := hFault fault rfl
      exact .ended e hLast hTaken hResult

end Draft

end TypedClient
