import TypedClient.Proofs.Json.Form
import TypedClient.Settings.Basic

/-!
The forms in which settings are written. Each reader of settings is shown to read just what its form
makes of what is told: a name, a truth value, some texts, and records of these with what is standard
in each. The standard of the form of a request is the standard request.
-/

namespace TypedClient

open Json

/-! ### Values as a whole -/

namespace Json

/-- The name that is given: as a text, or as an object with it as its one member, which is null. -/
def Outline.name? : Outline → Option String
  | .text s => some s
  | .object [(s, .null)] => some s
  | _ => none

/-- The texts, if that is what all of these are. -/
def Outline.allTexts? : List Outline → Option (List String)
  | [] => some []
  | .text s :: os => (allTexts? os).map (s :: ·)
  | _ :: _ => none

/-- What is meant by one of several names. -/
def Outline.asName? (names : List String) (o : Outline) : Option Value :=
  o.name?.bind fun s => if s ∈ names then some (.text s) else none

/-- What is meant by a truth value. -/
def Outline.asFlag? : Outline → Option Value
  | .flag b => some (.flag b)
  | _ => none

/-- What is meant by a list of texts. -/
def Outline.asTexts? : Outline → Option Value
  | .list os => (allTexts? os).map fun ss => .list (ss.map .text)
  | _ => none

/-- What is meant by a text that may be null. -/
def Outline.asTextOrNull? : Outline → Option Value
  | .null => some .null
  | .text s => some (.text s)
  | _ => none

namespace Form

/-- One of several names. -/
def name (names : List String) (standard : String) : Form :=
  .leaf (Outline.asName? names) (.text standard)

/-- A truth value. -/
def flag (standard : Bool) : Form :=
  .leaf Outline.asFlag? (.flag standard)

/-- A list of texts, and none as standard. -/
def texts : Form :=
  .leaf Outline.asTexts? (.list [])

/-- A text that may be null, as it is as standard. -/
def textOrNull : Form :=
  .leaf Outline.asTextOrNull? .null

end Form

variable {α : Type}

/-- The value of a name, among values that are called after their names. -/
theorem exists_lookup {names : List (String × α)} {nameOf : α → String}
    (h : ∀ e ∈ names, nameOf e.2 = e.1) {s : String} (hs : s ∈ names.map (·.1)) :
    ∃ a, names.lookup s = some a ∧ nameOf a = s := by
  induction names with
  | nil => exact absurd hs List.not_mem_nil
  | cons e names ih =>
      rcases e with ⟨other, a⟩
      by_cases hOther : s = other
      · subst hOther
        exact ⟨a, List.lookup_cons_self, h _ (List.mem_cons_self ..)⟩
      · rw [List.lookup_cons, beq_false_of_ne hOther]
        exact ih (fun e he => h e (List.mem_cons_of_mem _ he))
          ((List.mem_cons.mp hs).resolve_left hOther)

theorem reads_name {names : List (String × α)} {nameOf : α → String}
    (h : ∀ e ∈ names, nameOf e.2 = e.1) (standard : String) (room : Nat) :
    Reads (Tree.readName names (room + 1)) (.name (names.map (·.1)) standard)
      fun a => .text (nameOf a) := by
  intro t o v ht hv
  obtain ⟨s, hs, hKnown⟩ := Option.bind_eq_some_iff.mp hv
  obtain ⟨hMem, hv⟩ := Option.ite_none_right_eq_some.mp hKnown
  cases hv
  obtain ⟨a, hLookup, hName⟩ := exists_lookup h hMem
  have hValue : ∀ stop, nameValue names s stop = .ok a := by
    intro stop
    rw [nameValue, hLookup]
  refine ⟨a, ?_, congrArg Value.text hName⟩
  unfold Outline.name? at hs
  split at hs
  · cases hs
    cases ht with
    | text => exact hValue _
  · cases hs
    cases ht with
    | object hMembers =>
        cases hMembers with
        | next hNull hRest =>
            cases hNull
            cases hRest
            rw [Tree.readName, if_neg (Nat.succ_ne_zero room)]
            refine Reading.bind_result_eq_ok.mpr ⟨a, hValue _, ?_⟩
            exact Reading.bind_result_eq_ok.mpr ⟨(), rfl, rfl⟩
  · cases hs

theorem reads_flag (standard : Bool) : Reads Tree.readFlag (.flag standard) .flag := by
  intro t o v ht hv
  change o.asFlag? = some v at hv
  unfold Outline.asFlag? at hv
  split at hv
  · cases hv
    cases ht with
    | flag => exact ⟨_, rfl, rfl⟩
  · cases hv

theorem Items.Tell.readTexts_eq {items : Items} {os : List Outline} {ss : List String}
    (h : items.Tell os) (hs : Outline.allTexts? os = some ss) :
    (items.readEach Tree.readText).result = .ok ss := by
  induction os generalizing items ss with
  | nil =>
      cases hs
      cases h
      rfl
  | cons o os ih =>
      cases h with
      | next hValue hRest =>
          cases hValue with
          | text =>
              obtain ⟨tail, hTail, rfl⟩ := Option.map_eq_some_iff.mp hs
              rw [Items.readEach, Reading.bind_result_eq_ok]
              exact ⟨_, rfl, Reading.map_result_eq_ok.mpr ⟨tail, ih hRest hTail, rfl⟩⟩
          | «open» | null | flag | number | list | object => cases hs

theorem reads_texts (room : Nat) : Reads (Tree.readList Tree.readText (room + 1)) .texts
    fun ss => .list (ss.map .text) := by
  intro t o v ht hv
  change o.asTexts? = some v at hv
  unfold Outline.asTexts? at hv
  split at hv
  · obtain ⟨ss, hss, rfl⟩ := Option.map_eq_some_iff.mp hv
    cases ht with
    | list hItems => exact ⟨ss, hItems.readTexts_eq hss, rfl⟩
  · cases hv

/-- A text that may be null, as a value. -/
def textOrNull (s? : Option String) : Value :=
  s?.elim .null .text

theorem textOrNull_join (s?? : Option (Option String)) :
    textOrNull s??.join = (s??.map textOrNull).getD .null := by
  cases s?? <;> rfl

theorem reads_textOrNull : Reads (Tree.readOptional Tree.readText) .textOrNull textOrNull := by
  intro t o v ht hv
  change o.asTextOrNull? = some v at hv
  unfold Outline.asTextOrNull? at hv
  split at hv
  · cases hv
    cases ht with
    | null => exact ⟨none, rfl, rfl⟩
  · cases hv
    cases ht with
    | text => exact ⟨some _, rfl, rfl⟩
  · cases hv

/-- A record that may be null is read as it is where it is not null. -/
theorem Reads.optional {read : Tree → Reading α} {fs : List (String × Form)} {written : α → Value}
    (h : Reads read (.record fs) written) :
    Reads (Tree.readOptional read) (.record fs) fun a? => a?.elim .null written := by
  intro t o v ht hv
  obtain ⟨a, ha, hWritten⟩ := h t o v ht hv
  obtain ⟨ms, rfl⟩ := Form.eq_object_of_over? hv
  obtain ⟨start, members, rfl, -⟩ := ht.eq_object
  exact ⟨some a, Reading.map_result_eq_ok.mpr ⟨a, ha, rfl⟩, hWritten⟩

end Json

/-! ### Requests -/

namespace Export

/-- A scope as a JSON value. -/
def Scope.value (scope : Scope) : Value :=
  .object [("type", .text scope.kind.name),
    ("excludedByTags", .list (scope.excludedTags.map .text))]

/-- Extras as a JSON value. -/
def Extras.value (extras : Extras) : Value :=
  .object [("includeApifoxExtensionProperties", .flag extras.extensionProperties),
    ("addFoldersToTags", .flag extras.foldersAsTags)]

/-- The form of a scope. -/
def Scope.form : Form := .record [
  ("type", .name ["ALL", "SELECTED_ENDPOINTS", "SELECTED_TAGS", "SELECTED_FOLDERS"] "ALL"),
  ("excludedByTags", .texts)]

/-- The form of extras. -/
def Extras.form : Form := .record [
  ("includeApifoxExtensionProperties", .flag false), ("addFoldersToTags", .flag false)]

/-- The form of a request. -/
def Request.form : Form := .record [
  ("scope", Scope.form), ("options", Extras.form),
  ("oasVersion", .name ["3.1", "3.0", "2.0"] "3.1"),
  ("exportFormat", .name ["JSON", "YAML"] "JSON")]

theorem Request.standard_form : form.standard = Request.standard.toJson := rfl

/-- The fields of a scope with their forms. -/
def Scope.fields (room : Nat) : List (FormField (Option ScopeKind × Option (List String))) := [
  ⟨⟨"type", _, Tree.readName ScopeKind.names room, (·.1), fun s a => (some a, s.2), true⟩,
    .name (ScopeKind.names.map (·.1)) "ALL", fun kind => .text kind.name⟩,
  ⟨⟨"excludedByTags", _, Tree.readList Tree.readText room, (·.2), fun s a => (s.1, some a), true⟩,
    .texts, fun tags => .list (tags.map .text)⟩]

theorem Scope.laid (room : Nat) : (Scope.record room).Laid ((fields room).map (·.field)) where
  members := rfl
  nodup := by
    change ["type", "excludedByTags"].Nodup
    decide
  empty := by simp [fields, record]
  own := by simp [fields]
  apart := by simp [fields, Json.Field.Apart]

theorem Scope.reads (room : Nat) :
    Reads (Tree.readRecord Scope.record (room + 2)) form Scope.value := by
  refine (laid (room + 1)).reads ?_ ?_
  · simp only [fields, List.forall_mem_cons]
    exact ⟨reads_name (by decide) _ room, reads_texts room, List.forall_mem_nil _⟩
  · rintro ⟨kind?, tags?⟩
    refine ⟨_, rfl, ?_⟩
    cases kind? <;> cases tags? <;> rfl

/-- The fields of extras with their forms. -/
def Extras.fields : List (FormField (Option Bool × Option Bool)) := [
  ⟨⟨"includeApifoxExtensionProperties", _, Tree.readFlag, (·.1), fun s a => (some a, s.2), true⟩,
    .flag false, .flag⟩,
  ⟨⟨"addFoldersToTags", _, Tree.readFlag, (·.2), fun s a => (s.1, some a), true⟩,
    .flag false, .flag⟩]

theorem Extras.laid (room : Nat) : (Extras.record room).Laid (fields.map (·.field)) where
  members := rfl
  nodup := by
    change ["includeApifoxExtensionProperties", "addFoldersToTags"].Nodup
    decide
  empty := by simp [fields, record]
  own := by simp [fields]
  apart := by simp [fields, Json.Field.Apart]

theorem Extras.reads (room : Nat) :
    Reads (Tree.readRecord Extras.record (room + 1)) form Extras.value := by
  refine (laid room).reads ?_ ?_
  · simp only [fields, List.forall_mem_cons]
    exact ⟨reads_flag false, reads_flag false, List.forall_mem_nil _⟩
  · rintro ⟨properties?, tags?⟩
    refine ⟨_, rfl, ?_⟩
    cases properties? <;> cases tags? <;> rfl

namespace Request

/-- The fields of a request with their forms. -/
def fields (room : Nat) : List (FormField Partial) := [
  ⟨⟨"scope", _, Tree.readRecord Scope.record room, (·.scope),
    fun s a => { s with scope := some a }, true⟩, Scope.form, Scope.value⟩,
  ⟨⟨"options", _, Tree.readRecord Extras.record room, (·.extras),
    fun s a => { s with extras := some a }, true⟩, Extras.form, Extras.value⟩,
  ⟨⟨"oasVersion", _, Tree.readName Version.names room, (·.version),
    fun s a => { s with version := some a }, true⟩, .name (Version.names.map (·.1)) "3.1",
    fun version => .text version.name⟩,
  ⟨⟨"exportFormat", _, Tree.readName Format.names room, (·.format),
    fun s a => { s with format := some a }, true⟩, .name (Format.names.map (·.1)) "JSON",
    fun format => .text format.name⟩]

theorem laid (room : Nat) : (Request.record room).Laid ((fields room).map (·.field)) where
  members := rfl
  nodup := by
    change ["scope", "options", "oasVersion", "exportFormat"].Nodup
    decide
  empty := by simp [fields, record]
  own := by simp [fields]
  apart := by simp [fields, Json.Field.Apart]

theorem reads (room : Nat) : Reads (read (room + 3)) form Request.toJson := by
  refine (laid (room + 2)).reads ?_ ?_
  · simp only [fields, List.forall_mem_cons]
    exact ⟨Scope.reads room, Extras.reads (room + 1), reads_name (by decide) _ (room + 1),
      reads_name (by decide) _ (room + 1), List.forall_mem_nil _⟩
  · rintro ⟨scope?, extras?, version?, format?⟩
    refine ⟨_, rfl, ?_⟩
    cases scope? <;> cases extras? <;> cases version? <;> cases format? <;> rfl

theorem form_coherent : form.Coherent := by
  have hScope : Scope.form.Coherent := by
    refine .record (by decide) ?_
    simp only [List.forall_mem_cons]
    exact ⟨.leaf rfl, .leaf rfl, List.forall_mem_nil _⟩
  have hExtras : Extras.form.Coherent := by
    refine .record (by decide) ?_
    simp only [List.forall_mem_cons]
    exact ⟨.leaf rfl, .leaf rfl, List.forall_mem_nil _⟩
  refine .record (by decide) ?_
  simp only [List.forall_mem_cons]
  exact ⟨hScope, hExtras, .leaf rfl, .leaf rfl, List.forall_mem_nil _⟩

end Request

end Export

/-! ### Drafts -/

namespace Draft

/-- The form of a draft. -/
def form : Form := .record [
  ("apifoxHost", .textOrNull), ("projectId", .textOrNull), ("accessToken", .textOrNull),
  ("version", .textOrNull), ("requestBody", Export.Request.form)]

/-- What a draft comes to: its parts, or null where one is not given, and what it asks for, or else
the standard request. -/
def value (draft : Draft) : Value := .object [
  ("apifoxHost", textOrNull draft.host), ("projectId", textOrNull draft.projectId),
  ("accessToken", textOrNull draft.token), ("version", textOrNull draft.apiVersion),
  ("requestBody", (draft.request.getD .standard).toJson)]

/-- The fields of a draft with their forms. -/
def fields (room : Nat) : List (FormField Partial) := [
  ⟨⟨"apifoxHost", _, Tree.readOptional Tree.readText, (·.host),
    fun s a => { s with host := some a }, false⟩, .textOrNull, textOrNull⟩,
  ⟨⟨"projectId", _, Tree.readOptional Tree.readText, (·.projectId),
    fun s a => { s with projectId := some a }, false⟩, .textOrNull, textOrNull⟩,
  ⟨⟨"accessToken", _, Tree.readOptional Tree.readText, (·.token),
    fun s a => { s with token := some a }, false⟩, .textOrNull, textOrNull⟩,
  ⟨⟨"version", _, Tree.readOptional Tree.readText, (·.apiVersion),
    fun s a => { s with apiVersion := some a }, false⟩, .textOrNull, textOrNull⟩,
  ⟨⟨"requestBody", _, Tree.readOptional (Export.Request.read room), (·.request),
    fun s a => { s with request := some a }, true⟩, Export.Request.form,
    fun request? => request?.elim .null Export.Request.toJson⟩]

theorem laid (room : Nat) : (Draft.record room).Laid ((fields room).map (·.field)) where
  members := rfl
  nodup := by
    change ["apifoxHost", "projectId", "accessToken", "version", "requestBody"].Nodup
    decide
  empty := by simp [fields, record]
  own := by simp [fields]
  apart := by simp [fields, Json.Field.Apart]

theorem form_coherent : form.Coherent := by
  refine .record (by decide) ?_
  simp only [List.forall_mem_cons]
  exact ⟨.leaf rfl, .leaf rfl, .leaf rfl, .leaf rfl, Export.Request.form_coherent,
    List.forall_mem_nil _⟩

/-- A draft is read of what is laid over the standard; a request is given exactly if there is one in
the text. -/
theorem read_of_tells (room : Nat) {t : Tree} {ms : List (String × Outline)} {v : Value}
    (ht : t.Tells (.object ms)) (hv : form.over? (.object ms) = some v) :
    ∃ draft, (t.readRecord record (room + 4)).result = .ok draft ∧ draft.value = v ∧
      draft.request.isSome = (Keyed.get? ms "requestBody").isSome := by
  obtain ⟨start, members, rfl, hMembers⟩ := ht.eq_object
  have hRead : ∀ ff ∈ fields (room + 3), Reads ff.field.read ff.form ff.written := by
    simp only [fields, List.forall_mem_cons]
    exact ⟨reads_textOrNull, reads_textOrNull, reads_textOrNull, reads_textOrNull,
      (Export.Request.reads room).optional, List.forall_mem_nil _⟩
  obtain ⟨s, p, hs, rfl, hGiven⟩ := (laid (room + 3)).reads_members hRead hMembers hv
  obtain ⟨hOver, hSome⟩ := hGiven _ (List.mem_of_getLast? rfl)
  change Export.Request.form.given? (Keyed.get? ms "requestBody") = _ at hOver
  change s.request.isSome = (Keyed.get? ms "requestBody").isSome at hSome
  -- what is laid over a request is an object, so that it is no null that was read
  have hRequest : s.request = none ∨ ∃ request, s.request = some (some request) := by
    cases hNull : s.request with
    | none => exact .inl rfl
    | some request? =>
        cases request? with
        | some request => exact .inr ⟨request, rfl⟩
        | none =>
            rw [hNull] at hSome
            obtain ⟨body, hBody⟩ := Option.isSome_iff_exists.mp hSome.symm
            have hValue : Export.Request.form.over? body = some .null := by
              rw [hBody] at hOver
              refine hOver.trans (congrArg some ?_)
              change (s.request.map _).getD _ = _
              rw [hNull]
              rfl
            obtain ⟨bs, rfl⟩ := Form.eq_object_of_over? hValue
            obtain ⟨-, vs, -, hObject⟩ := Form.over?_record_eq_some.mp hValue
            cases hObject
  have hBody : (s.request.join.getD .standard).toJson =
      (s.request.map fun request? => request?.elim .null Export.Request.toJson).getD
        Export.Request.form.standard := by
    rcases hRequest with hNone | ⟨request, hGiven⟩
    · rw [hNone]
      rfl
    · rw [hGiven]
      rfl
  refine ⟨⟨s.host.join, s.projectId.join, s.token.join, s.apiVersion.join, s.request.join⟩, ?_, ?_,
    ?_⟩
  · rw [Tree.readRecord, Record.readInside, Reading.bind_result_eq_ok]
    exact ⟨(s, p), hs, Record.finishAt_result_eq_ok.mpr rfl⟩
  · rw [value]
    simp only [textOrNull_join, hBody]
    rfl
  · rw [← hSome]
    rcases hRequest with hNone | ⟨request, hGiven⟩
    · rw [hNone]
      rfl
    · rw [hGiven]
      rfl

end Draft

end TypedClient
