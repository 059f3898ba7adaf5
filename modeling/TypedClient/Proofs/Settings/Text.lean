import TypedClient.Proofs.Json.Denoted
import TypedClient.Settings.Basic

/-!
Settings as text and back. Main statements: what is saved of settings is read as a draft that gives
every part as it was, and what is sent of a request is read as that request.
-/

namespace TypedClient

open Json

/-! ### Requests -/

namespace Export

theorem Scope.accepts (scope : Scope) (room : Nat) :
    (Scope.record (room + 1)).Accepts (none, none)
      [("type", .text scope.kind.name), ("excludedByTags", .list (scope.excludedTags.map .text))]
      (some scope.kind, some scope.excludedTags) := by
  refine .cons rfl rfl (fun t ht => Reading.map_result_eq_ok.mpr
    ⟨_, ht.readName scope.kind.lookup_name, rfl⟩) ?_
  refine .cons rfl rfl (fun t ht => Reading.map_result_eq_ok.mpr ⟨_, ht.readTexts, rfl⟩) ?_
  exact .nil

theorem Extras.accepts (extras : Extras) (room : Nat) :
    (Extras.record room).Accepts (none, none)
      [("includeApifoxExtensionProperties", .flag extras.extensionProperties),
        ("addFoldersToTags", .flag extras.foldersAsTags)]
      (some extras.extensionProperties, some extras.foldersAsTags) := by
  refine .cons rfl rfl (fun t ht => Reading.map_result_eq_ok.mpr ⟨_, ht.readFlag, rfl⟩) ?_
  refine .cons rfl rfl (fun t ht => Reading.map_result_eq_ok.mpr ⟨_, ht.readFlag, rfl⟩) ?_
  exact .nil

namespace Request

/-- A request is read of every tree of its value, where there is room for the list in it. -/
theorem read_of_denotes (r : Request) (room : Nat) {t : Tree} (h : t.Denotes r.toJson) :
    (read (room + 3) t).result = .ok r := by
  suffices hAccepts : (record (room + 2)).Accepts _ _
      ⟨some r.scope, some r.extras, some r.version, some r.format⟩ from
    hAccepts.readRecord rfl h
  refine .cons rfl rfl (fun t ht => Reading.map_result_eq_ok.mpr
    ⟨_, (r.scope.accepts room).readRecord rfl ht, rfl⟩) ?_
  refine .cons rfl rfl (fun t ht => Reading.map_result_eq_ok.mpr
    ⟨_, (r.extras.accepts (room + 1)).readRecord rfl ht, rfl⟩) ?_
  refine .cons rfl rfl (fun t ht => Reading.map_result_eq_ok.mpr
    ⟨_, ht.readName r.version.lookup_name, rfl⟩) ?_
  refine .cons rfl rfl (fun t ht => Reading.map_result_eq_ok.mpr
    ⟨_, ht.readName r.format.lookup_name, rfl⟩) ?_
  exact .nil

theorem toJson_numberFree (r : Request) : r.toJson.NumberFree := by
  have hTags : ∀ tags : List String, Value.NumberFreeItems (tags.map .text) := by
    intro tags
    induction tags with
    | nil => trivial
    | cons tag tags ih => exact ⟨trivial, ih⟩
  simp only [toJson, Value.NumberFree, Value.NumberFreeMembers, hTags, and_self]

end Request

end Export

/-! ### Settings -/

namespace Settings

/-- The draft that gives every part of some settings. -/
def draft (s : Settings) : Draft :=
  ⟨some s.host, some s.projectId, some s.token, some s.apiVersion, some s.request⟩

theorem toJson_numberFree (s : Settings) : s.toJson.NumberFree := by
  have hRequest := s.request.toJson_numberFree
  simp only [toJson, Value.NumberFree, Value.NumberFreeMembers, hRequest, and_self]

theorem draft_of_denotes (s : Settings) (room : Nat) {t : Tree} (h : t.Denotes s.toJson) :
    (t.readRecord Draft.record (room + 4)).result = .ok s.draft := by
  have hText : ∀ {t : Tree} {text : String}, t.Denotes (.text text) →
      (t.readOptional Tree.readText).result = .ok (some text) :=
    fun ht => ht.readOptional (by simp) ht.readText
  suffices hAccepts : (Draft.record (room + 3)).Accepts _ _ ⟨some (some s.host),
      some (some s.projectId), some (some s.token), some (some s.apiVersion),
      some (some s.request)⟩ from hAccepts.readRecord rfl h
  refine .cons rfl rfl (fun t ht => Reading.map_result_eq_ok.mpr ⟨_, hText ht, rfl⟩) ?_
  refine .cons rfl rfl (fun t ht => Reading.map_result_eq_ok.mpr ⟨_, hText ht, rfl⟩) ?_
  refine .cons rfl rfl (fun t ht => Reading.map_result_eq_ok.mpr ⟨_, hText ht, rfl⟩) ?_
  refine .cons rfl rfl (fun t ht => Reading.map_result_eq_ok.mpr ⟨_, hText ht, rfl⟩) ?_
  refine .cons rfl rfl (fun t ht => Reading.map_result_eq_ok.mpr
    ⟨_, ht.readOptional (by simp [Export.Request.toJson])
      (s.request.read_of_denotes room ht), rfl⟩) ?_
  exact .nil

/-- What is saved of settings is read as a draft of all their parts. -/
theorem ofString_text (s : Settings) : Draft.ofString s.text = .ok s.draft :=
  readString_render Layout.indented_blank s.toJson_numberFree fun _ ht => s.draft_of_denotes 123 ht

/-- What is sent of a request is read as that request. -/
theorem read_requestText (s : Settings) :
    (readString Export.Request.read s.requestText).result = .ok s.request :=
  readString_render Layout.compact_blank s.request.toJson_numberFree
    fun _ ht => s.request.read_of_denotes 124 ht

end Settings

end TypedClient
