import TypedClient.Proofs.Settings.Forms
import TypedClient.Proofs.Settings.Validation
import TypedClient.Service.Fetch

/-!
Requests of which only a part is written. Main statement: what a file says of a request is laid over
the standard request, and nothing else decides what is asked for; so it makes no difference in which
order this is written, what else is written, and whether something is written that is as it is
standard.
-/

namespace TypedClient

open Json

/-! ### What a value decides -/

theorem Json.textOrNull_injective : Function.Injective textOrNull := by
  intro s? s?' h
  cases s? <;> cases s?' <;> simp_all [textOrNull]

namespace Export

theorem ScopeKind.name_injective : Function.Injective name := by
  intro k k' h
  exact Option.some.inj ((lookup_name k).symm.trans (h ▸ lookup_name k'))

theorem Version.name_injective : Function.Injective name := by
  intro v v' h
  exact Option.some.inj ((lookup_name v).symm.trans (h ▸ lookup_name v'))

theorem Format.name_injective : Function.Injective name := by
  intro f f' h
  exact Option.some.inj ((lookup_name f).symm.trans (h ▸ lookup_name f'))

/-- A request is decided by how it is written. -/
theorem Request.toJson_injective : Function.Injective toJson := by
  rintro ⟨⟨kind, tags⟩, ⟨properties, folders⟩, version, format⟩
    ⟨⟨kind', tags'⟩, ⟨properties', folders'⟩, version', format'⟩ h
  have hTags : Function.Injective (List.map Value.text) :=
    List.map_injective_iff.mpr fun _ _ hText => Value.text.inj hText
  simp only [toJson, Value.object.injEq, List.cons.injEq, Prod.mk.injEq, Value.text.injEq,
    Value.list.injEq, Value.flag.injEq, true_and, and_true] at h
  obtain ⟨⟨hKind, hList⟩, ⟨hProperties, hFolders⟩, hVersion, hFormat⟩ := h
  rw [ScopeKind.name_injective hKind, hTags hList, hProperties, hFolders,
    Version.name_injective hVersion, Format.name_injective hFormat]

end Export

namespace Draft

variable {draft draft' : Draft}

/-- What a draft comes to decides its parts and what is asked for. -/
theorem parts_of_value (h : draft.value = draft'.value) :
    (∀ p, draft.part p = draft'.part p) ∧
      draft.request.getD .standard = draft'.request.getD .standard := by
  simp only [value, Value.object.injEq, List.cons.injEq, Prod.mk.injEq, true_and, and_true] at h
  obtain ⟨hHost, hProject, hToken, hVersion, hRequest⟩ := h
  refine ⟨fun p => ?_, Export.Request.toJson_injective hRequest⟩
  cases p with
  | host => exact textOrNull_injective hHost
  | projectId => exact textOrNull_injective hProject
  | token => exact textOrNull_injective hToken
  | apiVersion => exact textOrNull_injective hVersion

/-- What a draft comes to decides whether it gives settings, and which. -/
theorem complete_of_value (h : draft.value = draft'.value) : draft.complete = draft'.complete := by
  obtain ⟨hParts, hRequest⟩ := parts_of_value h
  have hMissing : draft.missing = draft'.missing := by
    rw [missing, missing]
    simp only [hParts]
  have hHost : draft.host = draft'.host := hParts .host
  have hProject : draft.projectId = draft'.projectId := hParts .projectId
  have hToken : draft.token = draft'.token := hParts .token
  have hVersion : draft.apiVersion = draft'.apiVersion := hParts .apiVersion
  rw [complete, complete, hMissing, hRequest, hHost, hProject, hToken, hVersion]

/-- If both give a request, it decides them altogether. -/
theorem eq_of_value (h : draft.value = draft'.value)
    (hGiven : draft.request.isSome = draft'.request.isSome) : draft = draft' := by
  obtain ⟨hParts, hRequest⟩ := parts_of_value h
  rcases draft with ⟨host, projectId, token, apiVersion, request⟩
  rcases draft' with ⟨host', projectId', token', apiVersion', request'⟩
  cases hParts .host
  cases hParts .projectId
  cases hParts .token
  cases hParts .apiVersion
  cases request <;> cases request' <;> simp_all

/-! ### Files -/

theorem ofString_of_tells {text : String} {ms : List (String × Outline)} {v : Value}
    (hText : Tells text (.object ms)) (hv : form.over? (.object ms) = some v) :
    ∃ draft, ofString text = .ok draft ∧ draft.value = v ∧
      draft.request.isSome = (Keyed.get? ms "requestBody").isSome := by
  obtain ⟨draft, hRead, hValue, hGiven⟩ := read_of_tells 123 hText.value hv
  exact ⟨draft, readString_result_eq_ok.mpr ⟨hRead, hText.trailing⟩, hValue, hGiven⟩

/-- What a draft asks for is what is written of a request, laid over the standard request. -/
theorem over?_body {ms : List (String × Outline)} {body : Outline} {request : Export.Request}
    (h : form.over? (.object ms) = some draft.value) (hRequest : draft.request = some request)
    (hBody : Keyed.get? ms "requestBody" = some body) :
    Export.Request.form.over? body = some request.toJson := by
  obtain ⟨-, vs, hvs, hValue⟩ := Form.over?_record_eq_some.mp h
  obtain ⟨w, hw, hMem⟩ := Form.exists_given_of_membersOver? (e := ("requestBody", _)) hvs
    (List.mem_of_getLast? rfl)
  rw [hBody] at hw
  rw [value, hRequest, Option.getD_some, Value.object.injEq] at hValue
  have hAsked : w = request.toJson := by
    rw [← hValue] at hMem
    simpa using hMem
  exact hw.trans (congrArg some hAsked)

/-- A file in which something is asked for is looked up as a draft that asks for the standard
request with just that laid over it, and this is sent. If members change their places anywhere in
the file, if others are added that are not known, or some are left out that are as they are
standard, then the same settings are found; and the same draft, unless the request is left out as a
whole. -/
theorem load_overlay {text : String} {ms : List (String × Outline)} {body : Outline}
    (hText : Tells text (.object ms)) (hForm : form.over? (.object ms) ≠ none)
    (hBody : Keyed.get? ms "requestBody" = some body) :
    Export.Request.form.standard = Export.Request.standard.toJson ∧
    ∃ draft request, draft.request = some request ∧
      Export.Request.form.over? body = some request.toJson ∧
      form.over? (.object ms) = some draft.value ∧
      (∀ path d, d.readText path = .ok text →
        (load path).on d = ⟨d, [.read path], .ok (some draft)⟩) ∧
      (∀ settings url, draft.complete = .ok settings →
        (settings.exportCall url).body = request.toJson.render .compact) ∧
      ∀ text' ms', Tells text' (.object ms') →
        Relation.ReflTransGen form.Edits (.object ms) (.object ms') →
        ∀ path d, d.readText path = .ok text' →
          ((Settings.load path).on d).result = onTrial (some draft) ∧
          (Keyed.get? ms' "requestBody" ≠ none →
            ((load path).on d).result = .ok (some draft)) := by
  obtain ⟨v, hv⟩ := Option.ne_none_iff_exists'.mp hForm
  obtain ⟨draft, hDraft, hValue, hGiven⟩ := ofString_of_tells hText hv
  rw [hBody, Option.isSome_some] at hGiven
  obtain ⟨request, hRequest⟩ := Option.isSome_iff_exists.mp hGiven
  refine ⟨Export.Request.standard_form, draft, request, hRequest, ?_, hValue ▸ hv,
    fun path d h => on_load_of_readText h hDraft, ?_, ?_⟩
  · exact over?_body (hValue ▸ hv) hRequest hBody
  · intro settings url hComplete
    obtain ⟨-, -, hAsked⟩ := complete_eq_ok.mp hComplete
    rw [hRequest, Option.getD_some] at hAsked
    rw [Settings.exportCall, Settings.requestText, hAsked]
  · intro text' ms' hText' hEdits path d hRead
    have hv' := Form.over?_of_edits hEdits form_coherent hv
    obtain ⟨draft', hDraft', hValue', hGiven'⟩ := ofString_of_tells hText' hv'
    have hSame := hValue'.trans hValue.symm
    have hLoad := on_load_of_readText hRead hDraft'
    refine ⟨?_, fun hThere => ?_⟩
    · rw [on_load_settings, hLoad]
      change onTrial (some draft') = onTrial (some draft)
      rw [onTrial, onTrial, complete_of_value hSame]
    · rw [hLoad, eq_of_value hSame]
      rw [hGiven', hGiven, Option.isSome_iff_ne_none]
      exact hThere

/-- A file that asks for some folders in another format, and says twice what is standard. -/
def foldersJson : Value := .object [
  ("projectId", .text "7"),
  ("requestBody", .object [
    ("scope", .object [("excludedByTags", .list []), ("type", .text "SELECTED_FOLDERS")]),
    ("oasVersion", .text "3.1"), ("exportFormat", .text "YAML")])]

/-- The same in another order, with something else in it and without what is standard. -/
def foldersAnewJson : Value := .object [
  ("note", .object [("scope", .null)]),
  ("requestBody", .object [
    ("exportFormat", .text "YAML"), ("scope", .object [("type", .text "SELECTED_FOLDERS")])]),
  ("projectId", .text "7")]

theorem edits_folders :
    Relation.ReflTransGen form.Edits foldersJson.outline foldersAnewJson.outline := by
  have hBody : ("requestBody", Export.Request.form) ∈ [("apifoxHost", Form.textOrNull),
      ("projectId", .textOrNull), ("accessToken", .textOrNull), ("version", .textOrNull),
      ("requestBody", Export.Request.form)] := by simp
  refine .head (.permute (.swap _ _ _)) ?_
  refine .head (.inside hBody (.inside (List.mem_cons_self ..) (.leaveOut (f := .texts) ?_))) ?_
  · simp
  refine .head (.inside hBody (.permute (.swap _ _ _))) ?_
  refine .head (.inside hBody (.leaveOut (f := .name ["3.1", "3.0", "2.0"] "3.1") ?_)) ?_
  · simp
  refine .head (.inside hBody (.permute (.swap _ _ _))) ?_
  refine .head (.add ?_ _) .refl
  simp

/-- A folder with settings of this text. -/
def homeWith (text : String) : Disk :=
  ⟨[(["home"], .folder), (["home", settingsFile], .file (Text.encodeUtf8 text.toList))], ["home"]⟩

theorem readText_homeWith (text : String) :
    (homeWith text).readText ⟨false, [settingsFile]⟩ = .ok text :=
  Disk.readText_of_read rfl

theorem tells_render {v : Value} (hv : v.NumberFree) (hDepth : v.depth ≤ fullRoom) :
    Tells (v.render .compact) v.outline :=
  (says_render Layout.compact_blank hv hDepth).tells

theorem load_overlay_folders :
    Tells (foldersJson.render .compact) foldersJson.outline ∧
    form.over? foldersJson.outline ≠ none ∧
    ∃ draft, draft.request = some ⟨⟨.folders, []⟩, ⟨false, false⟩, .v31, .yaml⟩ ∧
      ((load ⟨false, [settingsFile]⟩).on (homeWith (foldersJson.render .compact))).result =
        .ok (some draft) ∧
      ((load ⟨false, [settingsFile]⟩).on (homeWith (foldersAnewJson.render .compact))).result =
        .ok (some draft) := by
  have hText : Tells (foldersJson.render .compact) foldersJson.outline :=
    tells_render (by simp [foldersJson, Value.NumberFree, Value.NumberFreeMembers,
      Value.NumberFreeItems]) (by decide)
  have hAnew : Tells (foldersAnewJson.render .compact) foldersAnewJson.outline :=
    tells_render (by simp [foldersAnewJson, Value.NumberFree, Value.NumberFreeMembers])
      (by decide)
  have hForm : form.over? foldersJson.outline ≠ none := by decide
  obtain ⟨-, draft, request, hRequest, hBody, -, hLoad, -, hSame⟩ := load_overlay hText hForm rfl
  have hAsked : request = ⟨⟨.folders, []⟩, ⟨false, false⟩, .v31, .yaml⟩ :=
    Export.Request.toJson_injective (Option.some.inj (hBody.symm.trans rfl))
  refine ⟨hText, hForm, draft, hAsked ▸ hRequest, ?_, ?_⟩
  · rw [hLoad _ _ (readText_homeWith _)]
  · exact (hSame _ _ hAnew edits_folders _ _ (readText_homeWith _)).2 (by decide)

end Draft

end TypedClient
