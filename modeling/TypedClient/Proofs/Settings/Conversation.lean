import TypedClient.Proofs.Settings.Setup

/-!
What a person is asked where some parts are given and some were stored. Main statement: just the parts
that are not given are asked for, one after the other, each until a line will do; an interview fills in
what is given and what was answered, or it ends with the part that got no answer.
-/

namespace TypedClient

open Text

/-! ### Lines -/

namespace RequiredPart

/-- What arrives of a line that is typed for a part. A token arrives as it is typed. -/
def typed : RequiredPart → String → String
  | .token, line => line
  | _, line => typedText line

variable {part : RequiredPart} {answer : String}

theorem standard?_not_blank (h : part.standard? = some answer) : isBlankText answer = false := by
  cases part <;> cases h <;> decide

theorem typed_of_ne_token (h : part ≠ .token) (line : String) : part.typed line = typedText line := by
  cases part with
  | token => exact absurd rfl h
  | _ => rfl

end RequiredPart

namespace Draft

/-- What an empty line stands for as an answer: the part that was stored, or else the usual choice. -/
def offered (stored : Draft) (part : RequiredPart) : Option String :=
  (stored.present part).or part.standard?

/-- What a blank answer stands for, and none at all: the token that was stored. -/
def kept (stored : Draft) : RequiredPart → Option String
  | .token => stored.present .token
  | _ => none

/-- What a line stands for as the answer to the question for a part. -/
def answer? (stored : Draft) (part : RequiredPart) (line : String) : Option String :=
  if part.typed line = "" then stored.offered part
  else if isBlankText (part.typed line) then stored.kept part
  else some (part.typed line)

variable {stored : Draft} {part : RequiredPart} {line value : String}

theorem kept_of_ne_token (h : part ≠ .token) : stored.kept part = none := by
  cases part with
  | token => exact absurd rfl h
  | _ => rfl

theorem kept_not_blank (h : stored.kept part = some value) : isBlankText value = false := by
  cases part with
  | token => exact (present_eq_some.mp h).2
  | _ => cases h

theorem offered_not_blank (h : stored.offered part = some value) : isBlankText value = false := by
  rw [offered] at h
  cases hPresent : stored.present part with
  | some found =>
      rw [hPresent] at h
      cases h
      exact (present_eq_some.mp hPresent).2
  | none =>
      rw [hPresent, Option.none_or] at h
      exact RequiredPart.standard?_not_blank h

/-- What will do is not blank. -/
theorem answer?_not_blank (h : stored.answer? part line = some value) : isBlankText value = false := by
  rw [answer?] at h
  split at h
  · exact offered_not_blank h
  split at h
  · exact kept_not_blank h
  next hText =>
  cases h
  simpa using hText

/-- Where a line does not do there is nothing to keep. -/
theorem kept_of_answer? (h : stored.answer? part line = none) : stored.kept part = none := by
  by_cases hPart : part = .token
  · subst hPart
    rw [answer?] at h
    split at h
    · rw [offered, Option.or_eq_none_iff] at h
      exact h.1
    split at h
    · exact h
    · cases h
  · exact kept_of_ne_token hPart

/-! ### One question -/

/-- What comes of a line that is typed for a part: it is answered with what the line stands for, or
the question is put again. What is shown of the line does not depend on those behind it. -/
def TakesLine (stored : Draft) (part : RequiredPart) (line : String) : Prop :=
  ∃ shown, ∀ lines, stored.ask part (line :: lines) = match stored.answer? part line with
    | some answer => ⟨shown, lines, .ok answer⟩
    | none => (stored.ask part lines).after shown

theorem takesLine_text (hPart : part ≠ .token) (stored : Draft) (line : String) :
    stored.TakesLine part line := by
  have hAsk : stored.ask part = Prompt.ask ⟨part.label, stored.offered part⟩ := by
    cases part with
    | token => exact absurd rfl hPart
    | _ => rfl
  have hTyped := RequiredPart.typed_of_ne_token hPart line
  rw [TakesLine, hAsk, answer?, kept_of_ne_token hPart, hTyped]
  by_cases hEmpty : typedText line = ""
  · cases hOffered : stored.offered part with
    | none => exact ⟨_, fun lines => by rw [Prompt.ask, if_pos hEmpty, if_pos hEmpty]⟩
    | some usual =>
        have hUsual := Bool.eq_false_iff.mp (offered_not_blank hOffered)
        exact ⟨_, fun lines => by
          rw [Prompt.ask, if_pos hEmpty, if_pos hEmpty]; exact if_neg hUsual⟩
  · rw [if_neg hEmpty]
    by_cases hBlank : isBlankText (typedText line) = true
    · exact ⟨_, fun lines => by rw [Prompt.ask, if_neg hEmpty, if_pos hBlank]; exact if_pos hBlank⟩
    · exact ⟨_, fun lines => by rw [Prompt.ask, if_neg hEmpty, if_neg hBlank]; exact if_neg hBlank⟩

theorem takesLine_token (stored : Draft) (line : String) : stored.TakesLine .token line := by
  have hTyped : RequiredPart.typed .token line = line := rfl
  have hOffered : stored.offered .token = stored.kept .token := Option.or_none
  have hAsk : stored.ask .token = SecretPrompt.ask ⟨RequiredPart.label .token ++
      (if (stored.kept .token).isSome then keepHint else ""), stored.kept .token⟩ := rfl
  rw [TakesLine, hAsk, answer?, hTyped, hOffered]
  cases hKept : stored.kept .token with
  | none =>
      by_cases hEmpty : line = ""
      · rw [if_pos hEmpty]
        exact ⟨_, fun lines => by rw [SecretPrompt.ask]; exact if_pos hEmpty⟩
      rw [if_neg hEmpty]
      by_cases hBlank : isBlankText line = true
      · rw [if_pos hBlank]
        exact ⟨_, fun lines => by
          rw [SecretPrompt.ask]; exact (if_neg hEmpty).trans (if_pos hBlank)⟩
      · rw [if_neg hBlank]
        exact ⟨_, fun lines => by
          rw [SecretPrompt.ask]; exact (if_neg hEmpty).trans (if_neg hBlank)⟩
  | some value =>
      have hAnswer : (if line = "" then some value else
          if isBlankText line then some value else some line) =
            some (if isBlankText line then value else line) := by
        split
        · next hEmpty => rw [hEmpty]; rfl
        · split <;> rfl
      rw [hAnswer]
      exact ⟨_, fun lines => by rw [SecretPrompt.ask]⟩

theorem takesLine (stored : Draft) (part : RequiredPart) (line : String) :
    stored.TakesLine part line := by
  by_cases hPart : part = .token
  · subst hPart
    exact takesLine_token stored line
  · exact takesLine_text hPart stored line

theorem exists_ask_nil (stored : Draft) (part : RequiredPart) :
    ∃ shown, stored.ask part [] = ⟨shown, [], match stored.kept part with
      | some value => .ok value
      | none => .error .endOfInput⟩ := by
  cases part with
  | token =>
      rw [ask, kept]
      cases stored.present .token with
      | none => exact ⟨_, rfl⟩
      | some value => exact ⟨_, rfl⟩
  | _ => exact ⟨_, rfl⟩

end Draft

/-! ### One part -/

/-- What passes about one part: the lines that would not do, and the one that did; none if there were
no more lines. -/
structure Exchange where
  part : RequiredPart
  refused : List String
  taken : Option String

namespace Draft

variable {stored : Draft} {part : RequiredPart} {line value : String}

/-- What is shown in an exchange. -/
def shown (stored : Draft) (e : Exchange) : String :=
  (stored.ask e.part (e.refused ++ e.taken.toList)).shown

/-- The answer that an exchange came to. -/
def outcome (stored : Draft) (e : Exchange) : Option String :=
  match e.taken with
  | some line => stored.answer? e.part line
  | none => stored.kept e.part

/-- How a part is asked for: until a line will do, or there are no more; then it is kept or there is
no answer. -/
inductive Asks (stored : Draft) (part : RequiredPart) (lines : List String) : Prop
  | answered (refused rest : List String) (line answer : String)
      (hLines : lines = refused ++ line :: rest)
      (hRefused : ∀ l ∈ refused, stored.answer? part l = none)
      (hTaken : stored.answer? part line = some answer)
      (hAsk : stored.ask part lines = ⟨stored.shown ⟨part, refused, some line⟩, rest, .ok answer⟩)
  | silent (value : String) (hLines : lines = []) (hKept : stored.kept part = some value)
      (hAsk : stored.ask part lines = ⟨stored.shown ⟨part, [], none⟩, [], .ok value⟩)
  | ended (hRefused : ∀ l ∈ lines, stored.answer? part l = none) (hKept : stored.kept part = none)
      (hAsk : stored.ask part lines =
        ⟨stored.shown ⟨part, lines, none⟩, [], .error .endOfInput⟩)

theorem asks (stored : Draft) (part : RequiredPart) (lines : List String) :
    stored.Asks part lines := by
  induction lines with
  | nil =>
      obtain ⟨shown, hAsk⟩ := exists_ask_nil stored part
      have hShown : stored.shown ⟨part, [], none⟩ = shown := congrArg Answered.shown hAsk
      cases hKept : stored.kept part with
      | some value =>
          refine .silent value rfl hKept ?_
          rw [hAsk, hKept, hShown]
      | none =>
          refine .ended (by simp) hKept ?_
          rw [hAsk, hKept, hShown]
  | cons line lines ih =>
      obtain ⟨shown, hAsk⟩ := stored.takesLine part line
      cases hAnswer : stored.answer? part line with
      | some answer =>
          rw [hAnswer] at hAsk
          refine .answered [] lines line answer rfl (by simp) hAnswer ?_
          rw [Draft.shown, List.nil_append, Option.toList_some, hAsk, hAsk]
      | none =>
          rw [hAnswer] at hAsk
          have hShown : ∀ refused taken, stored.shown ⟨part, line :: refused, taken⟩ =
              shown ++ stored.shown ⟨part, refused, taken⟩ := fun refused taken =>
            congrArg Answered.shown (hAsk (refused ++ taken.toList))
          cases ih with
          | answered refused rest taken answer hLines hRefused hTaken hRest =>
              refine .answered (line :: refused) rest taken answer (by rw [hLines]; rfl)
                (List.forall_mem_cons.mpr ⟨hAnswer, hRefused⟩) hTaken ?_
              rw [hAsk, hRest, hShown]
              rfl
          | silent value hLines hKept => cases hKept.symm.trans (kept_of_answer? hAnswer)
          | ended hRefused hKept hRest =>
              refine .ended (List.forall_mem_cons.mpr ⟨hAnswer, hRefused⟩) hKept ?_
              rw [hAsk, hRest, hShown]
              rfl

/-! ### All parts -/

/-- Parts are asked for one after the other, and each goes on behind the line that the one before it
took. If one of them gets no answer then that is the end, and it is told which one and why. -/
inductive Conversation (stored : Draft) : List RequiredPart → Option (List String) →
    List Exchange → Option (RequiredPart × PromptFault) → Prop
  | done (typed : Option (List String)) : Conversation stored [] typed [] none
  | nobody (part : RequiredPart) (parts : List RequiredPart) :
      Conversation stored (part :: parts) none [] (some (part, .noTerminal))
  | ended {part : RequiredPart} (parts : List RequiredPart) {lines : List String}
      (hRefused : ∀ line ∈ lines, stored.answer? part line = none)
      (hKept : stored.kept part = none) :
      Conversation stored (part :: parts) (some lines) [⟨part, lines, none⟩]
        (some (part, .endOfInput))
  | silent {part : RequiredPart} {parts : List RequiredPart} {value : String}
      {exchanges : List Exchange} {fault? : Option (RequiredPart × PromptFault)}
      (hKept : stored.kept part = some value)
      (hRest : Conversation stored parts (some []) exchanges fault?) :
      Conversation stored (part :: parts) (some []) (⟨part, [], none⟩ :: exchanges) fault?
  | answered {part : RequiredPart} {parts : List RequiredPart} {refused rest : List String}
      {line answer : String} {exchanges : List Exchange}
      {fault? : Option (RequiredPart × PromptFault)}
      (hRefused : ∀ l ∈ refused, stored.answer? part l = none)
      (hTaken : stored.answer? part line = some answer)
      (hRest : Conversation stored parts (some rest) exchanges fault?) :
      Conversation stored (part :: parts) (some (refused ++ line :: rest))
        (⟨part, refused, some line⟩ :: exchanges) fault?

variable {given draft : Draft} {parts : List RequiredPart} {typed : Option (List String)}
  {lines rest : List String} {exchanges : List Exchange} {e : Exchange} {p : RequiredPart}
  {fault? : Option (RequiredPart × PromptFault)} {values : List (RequiredPart × String)}

/-- Nothing is asked for out of turn, and all parts are if there is no fault. -/
theorem Conversation.inOrder (h : stored.Conversation parts typed exchanges fault?) :
    exchanges.map (·.part) <+: parts ∧ (fault? = none → exchanges.map (·.part) = parts) := by
  induction h with
  | done => exact ⟨List.prefix_refl _, fun _ => rfl⟩
  | nobody => exact ⟨List.nil_prefix, fun hNone => by cases hNone⟩
  | ended => exact ⟨List.cons_prefix_cons.mpr ⟨rfl, List.nil_prefix⟩, fun hNone => by cases hNone⟩
  | silent _ _ ih | answered _ _ _ ih =>
      exact ⟨List.cons_prefix_cons.mpr ⟨rfl, ih.1⟩, fun hNone => by rw [List.map_cons, ih.2 hNone]⟩

theorem part_set (draft : Draft) (part p : RequiredPart) (value : String) :
    (draft.set part value).part p = if p = part then some value else draft.part p := by
  cases part <;> cases p <;> rfl

theorem request_set (draft : Draft) (part : RequiredPart) (value : String) :
    (draft.set part value).request = draft.request := by
  cases part <;> rfl

/-- The draft with values for parts. -/
def setAll (draft : Draft) (values : List (RequiredPart × String)) : Draft :=
  values.foldl (fun d v => d.set v.1 v.2) draft

theorem part_setAll_of_notMem (h : p ∉ values.map Prod.fst) :
    (draft.setAll values).part p = draft.part p := by
  induction values generalizing draft with
  | nil => rfl
  | cons v values ih =>
      rw [List.map_cons, List.mem_cons, not_or] at h
      rw [setAll, List.foldl_cons, ← setAll, ih h.2, part_set, if_neg h.1]

/-- Of values for different parts each one is filled in. -/
theorem part_setAll (hNodup : (values.map Prod.fst).Nodup) (h : (p, value) ∈ values) :
    (draft.setAll values).part p = some value := by
  induction values generalizing draft with
  | nil => cases h
  | cons v values ih =>
      rw [List.map_cons, List.nodup_cons] at hNodup
      rw [setAll, List.foldl_cons, ← setAll]
      rcases List.mem_cons.mp h with rfl | h
      · rw [part_setAll_of_notMem hNodup.1, part_set, if_pos rfl]
      · exact ih hNodup.2 h

theorem request_setAll (draft : Draft) (values : List (RequiredPart × String)) :
    (draft.setAll values).request = draft.request := by
  induction values generalizing draft with
  | nil => rfl
  | cons v values ih => rw [setAll, List.foldl_cons, ← setAll, ih, request_set]

/-- A value for each part: what is given, without white space around it, or what was answered. -/
structure Provides (given stored : Draft) (parts : List RequiredPart) (exchanges : List Exchange)
    (values : List (RequiredPart × String)) : Prop where
  order : values.map Prod.fst = parts
  fixed : ∀ p ∈ parts, ∀ value, given.present p = some value → (p, trim value) ∈ values
  answered : ∀ e ∈ exchanges, ∃ answer, stored.outcome e = some answer ∧ (e.part, answer) ∈ values

theorem Provides.of_present (hPresent : given.present part = some value)
    (h : given.Provides stored parts exchanges values) :
    given.Provides stored (part :: parts) exchanges ((part, trim value) :: values) where
  order := by rw [List.map_cons, h.order]
  fixed := by
    intro p hp found hFound
    rcases List.mem_cons.mp hp with rfl | hp
    · rw [hPresent] at hFound
      cases hFound
      exact List.mem_cons_self
    · exact List.mem_cons_of_mem _ (h.fixed p hp found hFound)
  answered := by
    intro e he
    obtain ⟨answer, hOutcome, hMem⟩ := h.answered e he
    exact ⟨answer, hOutcome, List.mem_cons_of_mem _ hMem⟩

theorem Provides.of_outcome (hPresent : given.present e.part = none)
    (hOutcome : stored.outcome e = some value) (h : given.Provides stored parts exchanges values) :
    given.Provides stored (e.part :: parts) (e :: exchanges) ((e.part, value) :: values) where
  order := by rw [List.map_cons, h.order]
  fixed := by
    intro p hp found hFound
    rcases List.mem_cons.mp hp with rfl | hp
    · rw [hPresent] at hFound
      cases hFound
    · exact List.mem_cons_of_mem _ (h.fixed p hp found hFound)
  answered := by
    intro e' he
    rcases List.mem_cons.mp he with rfl | he
    · exact ⟨value, hOutcome, List.mem_cons_self⟩
    · obtain ⟨answer, hAnswer, hMem⟩ := h.answered e' he
      exact ⟨answer, hAnswer, List.mem_cons_of_mem _ hMem⟩

end Draft

/-- What came of asking for parts is told by a conversation about those that are not given: what is
shown, and the values that are filled in, or the fault. -/
structure Interviewed.Tells (i : Interviewed) (given stored : Draft) (parts : List RequiredPart)
    (typed : Option (List String)) (draft : Draft) (exchanges : List Exchange)
    (fault? : Option (RequiredPart × PromptFault)) : Prop where
  conversation : stored.Conversation (parts.filter fun p => (given.present p).isNone) typed
    exchanges fault?
  shown : i.shown = concat (exchanges.map stored.shown)
  result : match fault? with
    | none => ∃ values, given.Provides stored parts exchanges values ∧
      i.result = .ok (draft.setAll values)
    | some fault => i.result = .error fault

namespace Draft

variable {given stored draft : Draft} {part : RequiredPart} {parts : List RequiredPart}
  {lines rest : List String} {e : Exchange} {value : String} {exchanges : List Exchange}
  {fault? : Option (RequiredPart × PromptFault)}

/-- A question that is answered is told before those behind it. -/
theorem tells_of_outcome (hPresent : given.present e.part = none)
    (hAsk : stored.ask e.part lines = ⟨stored.shown e, rest, .ok value⟩)
    (hOutcome : stored.outcome e = some value)
    (hConversation : stored.Conversation (parts.filter fun p => (given.present p).isNone) (some rest)
      exchanges fault? → stored.Conversation
        (e.part :: parts.filter fun p => (given.present p).isNone) (some lines) (e :: exchanges)
        fault?)
    (h : (interview given stored parts (some rest) (draft.set e.part value)).Tells given stored parts
      (some rest) (draft.set e.part value) exchanges fault?) :
    (interview given stored (e.part :: parts) (some lines) draft).Tells given stored
      (e.part :: parts) (some lines) draft (e :: exchanges) fault? := by
  have hInterview : interview given stored (e.part :: parts) (some lines) draft =
      (interview given stored parts (some rest) (draft.set e.part value)).after (stored.shown e) := by
    rw [interview, hPresent]
    dsimp only
    rw [hAsk]
  rw [hInterview]
  refine ⟨?_, ?_, ?_⟩
  · rw [List.filter_cons_of_pos (by simp [hPresent])]
    exact hConversation h.conversation
  · exact congrArg (stored.shown e ++ ·) h.shown
  · have hResult := h.result
    cases fault? with
    | some fault => exact hResult
    | none =>
        obtain ⟨values, hProvides, hFilled⟩ := hResult
        exact ⟨_, hProvides.of_outcome hPresent hOutcome, hFilled⟩

theorem interview_of_present (hPresent : given.present part = some value) (stored : Draft)
    (typed : Option (List String)) (draft : Draft) :
    interview given stored (part :: parts) typed draft =
      interview given stored parts typed (draft.set part (trim value)) := by
  rw [interview.eq_def]
  dsimp only
  rw [hPresent]

theorem interview_of_nobody (hPresent : given.present part = none) (stored draft : Draft) :
    interview given stored (part :: parts) none draft = ⟨"", .error (part, .noTerminal)⟩ := by
  rw [interview, hPresent]

/-- Whoever is asked for parts is asked for those that are not given. The induction is on the parts
that are left. -/
theorem interview_tells (given stored : Draft) (parts : List RequiredPart)
    (typed : Option (List String)) (draft : Draft) :
    ∃ exchanges fault?, (interview given stored parts typed draft).Tells given stored parts typed
      draft exchanges fault? := by
  induction parts generalizing typed draft with
  | nil =>
      exact ⟨[], none, .done typed, rfl, [], ⟨rfl, by simp, by simp⟩, rfl⟩
  | cons part parts ih =>
      cases hPresent : given.present part with
      | some value =>
          obtain ⟨exchanges, fault?, h⟩ := ih typed (draft.set part (trim value))
          refine ⟨exchanges, fault?, ?_, ?_, ?_⟩
          · rw [List.filter_cons_of_neg (by simp [hPresent])]
            exact h.conversation
          · rw [interview_of_present hPresent]
            exact h.shown
          · have hResult := h.result
            rw [interview_of_present hPresent]
            cases fault? with
            | some fault => exact hResult
            | none =>
                obtain ⟨values, hProvides, hFilled⟩ := hResult
                exact ⟨_, hProvides.of_present hPresent, hFilled⟩
      | none =>
          have hAsked : (part :: parts).filter (fun p => (given.present p).isNone) =
              part :: parts.filter fun p => (given.present p).isNone :=
            List.filter_cons_of_pos (by simp [hPresent])
          cases typed with
          | none =>
              refine ⟨[], some (part, .noTerminal), ?_, ?_, ?_⟩
              · rw [hAsked]
                exact .nobody part _
              all_goals
                rw [interview_of_nobody hPresent]
              rfl
          | some lines =>
              cases stored.asks part lines with
              | answered refused rest line answer hLines hRefused hTaken hAsk =>
                  subst hLines
                  obtain ⟨exchanges, fault?, h⟩ := ih (some rest) (draft.set part answer)
                  exact ⟨_, fault?, tells_of_outcome (e := ⟨part, refused, some line⟩) hPresent hAsk
                    hTaken (.answered hRefused hTaken) h⟩
              | silent value hLines hKept hAsk =>
                  subst hLines
                  obtain ⟨exchanges, fault?, h⟩ := ih (some []) (draft.set part value)
                  exact ⟨_, fault?, tells_of_outcome (e := ⟨part, [], none⟩) hPresent hAsk hKept
                    (.silent hKept) h⟩
              | ended hRefused hKept hAsk =>
                  refine ⟨[⟨part, lines, none⟩], some (part, .endOfInput), ?_, ?_, ?_⟩
                  · rw [hAsked]
                    exact .ended _ hRefused hKept
                  all_goals
                    rw [interview, hPresent]
                    dsimp only
                    rw [hAsk]
                  · simp [concat]

end Draft

end TypedClient
