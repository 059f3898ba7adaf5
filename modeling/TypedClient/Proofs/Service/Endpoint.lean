import Mathlib.Data.List.DropRight
import TypedClient.Proofs.Text.Pieces
import TypedClient.Proofs.Url.Sites
import TypedClient.Service.Endpoint

/-!
What the address that a description is exported from names. Main statement: the project changes
nothing about who is asked; but the address names this project, and asks for nothing but its
description, just if the project is written as one segment of a path that stands for itself.
-/

namespace TypedClient

open Text Url

variable {s : String} {url site : Url}

/-- The same server is asked, in the same way, by the same one. -/
structure Url.SameSite (u v : Url) : Prop where
  scheme : u.scheme = v.scheme
  host : u.host = v.host
  userinfo : u.userinfo = v.userinfo
  port : u.port = v.port

/-- The path has a segment for each of these names, which stands for it. -/
def Url.LeadsTo (u : Url) (names : List String) : Prop :=
  ∃ ss, u.path = .segments ss ∧
    ss.map (fun s => percentDecode s.toList) = names.map fun s => encodeUtf8 s.toList

/-- Asked for is the description of this project and nothing else. -/
structure Url.Exports (u : Url) (projectId : String) : Prop where
  path : u.LeadsTo ["v1", "projects", projectId, "export-openapi"]
  query : u.query = some "locale=zh-CN"
  fragment : u.fragment = none

/-- A text that is one segment where it stands in a path, and stands for itself. -/
structure Url.IsSegment (s : String) : Prop where
  free : ∀ c ∈ s.toList, c ∉ ['/', '\\', '?', '#', '\t', '\n', '\r']
  bare : ¬ HoldsEscape s.toList
  notHere : s ≠ "."
  notAbove : s ≠ ".."

/-! ### Path -/

/-- What follows the slash behind the authority: a path in which some text stands for the
project. -/
def exportPath (cs : List Char) : List Char :=
  "v1/projects/".toList ++ cs ++ "/export-openapi".toList

theorem getLast?_exportPath (cs : List Char) : ('/' :: exportPath cs).getLast? = some 'i' := by
  unfold exportPath
  rw [← List.cons_append, List.getLast?_append]
  rfl

/-- The segments of such a path, as they are written. -/
def exportSegments (cs : List Char) : List String :=
  ["v1", "projects"] ++
    (pieces (isSlash true) cs).map (fun p => String.ofList (percentEncode .path p)) ++
      ["export-openapi"]

theorem pathBehind_exportPath (cs : List Char) :
    pathBehind .web ('/' :: exportPath cs) = walk .web [] (exportSegments cs) := by
  have hPieces : pieces (isSlash true) (exportPath cs) =
      ["v1".toList, "projects".toList] ++ pieces (isSlash true) cs ++
        ["export-openapi".toList] := by
    have hFirst : pieces (isSlash true) "v1/projects".toList =
        ["v1".toList, "projects".toList] := by decide
    have hLast : pieces (isSlash true) "export-openapi".toList = ["export-openapi".toList] := by
      decide
    show pieces _ ("v1/projects".toList ++ '/' :: cs ++ '/' :: "export-openapi".toList) = _
    rw [pieces_append_cons rfl, pieces_append_cons rfl, hFirst, hLast]
  show pathSegments .web (exportPath cs) = _
  rw [pathSegments, if_neg (by decide), show SchemeKind.web.isSpecial = true from rfl, hPieces,
    List.map_append, List.map_append]
  rfl

theorem isSlash_eq_false_iff {c : Char} : isSlash true c = false ↔ c ≠ '/' ∧ c ≠ '\\' := by
  simp [isSlash]

/-- What leads to a project holds nothing that cuts it, is left out of it or is decoded in it. The
segment that stands for the project takes as many bytes as the project, which leaves no room for
any of these. -/
theorem free_of_leadsTo
    (hPath : url.path = .segments (walk .web [] (exportSegments (withoutBreaks s.toList))))
    (h : url.LeadsTo ["v1", "projects", s, "export-openapi"]) :
    (∀ c ∈ s.toList, c ∉ ['/', '\\', '\t', '\n', '\r']) ∧ ¬ HoldsEscape s.toList := by
  obtain ⟨ss, hSegments, hStand⟩ := h
  rw [hPath, UrlPath.segments.injEq] at hSegments
  subst hSegments
  have hMem : encodeUtf8 s.toList ∈
      (walk .web [] (exportSegments (withoutBreaks s.toList))).map
        fun t => percentDecode t.toList := by
    rw [hStand]
    simp
  obtain ⟨t, hWalk, hStands⟩ := List.mem_map.mp hMem
  have hFixed : '%' ∉ t.toList → (∀ c ∈ t.toList, c ∉ ['/', '\\', '\t', '\n', '\r']) →
      (∀ c ∈ s.toList, c ∉ ['/', '\\', '\t', '\n', '\r']) ∧ ¬ HoldsEscape s.toList := by
    intro hSign hFree
    rw [percentDecode_eq_encodeUtf8_iff.mpr (not_holdsEscape hSign)] at hStands
    rw [← encodeUtf8_injective hStands]
    exact ⟨hFree, not_holdsEscape hSign⟩
  rcases mem_walk (by decide) hWalk with rfl | hNone | hSegment
  · exact hFixed (by decide) (by simp)
  · exact absurd hNone List.not_mem_nil
  simp only [exportSegments, List.mem_append, List.mem_cons, List.not_mem_nil, or_false,
    List.mem_map] at hSegment
  rcases hSegment with ((rfl | rfl) | ⟨p, hPiece, rfl⟩) | rfl
  · exact hFixed (by decide) (by simp)
  · exact hFixed (by decide) (by simp)
  · have hInside : p.Sublist (withoutBreaks s.toList) := by
      have hFlat := List.sublist_flatten_of_mem hPiece
      rw [flatten_pieces] at hFlat
      exact hFlat.trans List.filter_sublist
    rw [String.toList_ofList, percentDecode_percentEncode] at hStands
    obtain ⟨rfl, hBare⟩ := eq_of_percentDecode (hInside.trans List.filter_sublist) hStands
    refine ⟨fun c hc => ?_, hBare⟩
    have hSlash := isSlash_eq_false_iff.mp (not_of_mem_pieces hPiece hc)
    have hBreak := (List.mem_filter.mp (hInside.subset hc)).2
    simp only [Bool.and_eq_true, decide_eq_true_eq] at hBreak
    simp [hSlash, hBreak]
  · exact hFixed (by decide) (by simp)

theorem leadsTo_of_isSegment (h : IsSegment s)
    (hPath : url.path = .segments (walk .web [] (exportSegments s.toList))) :
    url.LeadsTo ["v1", "projects", s, "export-openapi"] := by
  have hSlash : ∀ c ∈ s.toList, isSlash true c = false := fun c hc => by
    have hFree := h.free c hc
    simp only [List.mem_cons, not_or] at hFree
    exact isSlash_eq_false_iff.mpr ⟨hFree.1, hFree.2.1⟩
  have hStands : percentDecode (String.ofList (percentEncode .path s.toList)).toList =
      encodeUtf8 s.toList := by
    rw [String.toList_ofList, percentDecode_percentEncode]
    exact percentDecode_eq_encodeUtf8_iff.mpr h.bare
  have hFirst : percentDecode "v1".toList = encodeUtf8 "v1".toList := by decide
  have hSecond : percentDecode "projects".toList = encodeUtf8 "projects".toList := by decide
  have hLast : percentDecode "export-openapi".toList = encodeUtf8 "export-openapi".toList := by
    decide
  have hSegments : exportSegments s.toList =
      ["v1", "projects", String.ofList (percentEncode .path s.toList), "export-openapi"] := by
    rw [exportSegments, pieces_of_forall hSlash]
    rfl
  have hDots : ∀ t ∈ exportSegments s.toList, isSingleDot t = false ∧ isDoubleDot t = false := by
    intro t ht
    simp only [hSegments, List.mem_cons, List.not_mem_nil, or_false] at ht
    rcases ht with rfl | rfl | rfl | rfl
    · exact not_dots_of_percentDecode hFirst (by decide) (by decide)
    · exact not_dots_of_percentDecode hSecond (by decide) (by decide)
    · exact not_dots_of_percentDecode hStands h.notHere h.notAbove
    · exact not_dots_of_percentDecode hLast (by decide) (by decide)
  refine ⟨_, hPath, ?_⟩
  rw [walk_of_forall (by decide) hDots, hSegments, List.nil_append]
  simp only [List.map_cons, List.map_nil, hFirst, hSecond, hStands, hLast]

/-! ### Query and fragment -/

/-- A query is nothing but what was added to it just if there was none, or an empty one. -/
theorem query_addQuery_iff {name value : String} :
    (url.addQuery name value).query = some (name ++ "=" ++ value) ↔
      url.query = none ∨ url.query = some "" := by
  cases hQuery : url.query with
  | none => simp [Url.addQuery, hQuery]
  | some q =>
      by_cases hEmpty : q = ""
      · simp [Url.addQuery, hQuery, hEmpty]
      · have hMore : q ++ "&" ++ name ++ "=" ++ value ≠ name ++ "=" ++ value := by
          intro h
          have hLength := congrArg String.length h
          simp only [String.length_append] at hLength
          have hSign : "&".length = 1 := rfl
          omega
        simp [Url.addQuery, hQuery, hEmpty, hMore]

/-- No sign that begins a query or a fragment stands in such a path but in the project. -/
theorem forall_exportPath_iff {cs : List Char} :
    (∀ c ∈ '/' :: exportPath cs, c ≠ '?' ∧ c ≠ '#') ↔ ∀ c ∈ cs, c ≠ '?' ∧ c ≠ '#' := by
  have hFront : ∀ c ∈ "v1/projects/".toList, c ≠ '?' ∧ c ≠ '#' := by simp
  have hBack : ∀ c ∈ "/export-openapi".toList, c ≠ '?' ∧ c ≠ '#' := by simp
  unfold exportPath
  rw [List.forall_mem_cons, List.forall_mem_append, List.forall_mem_append]
  exact ⟨fun h => h.2.1.2, fun h => ⟨by decide, ⟨hFront, h⟩, hBack⟩⟩

theorem reached_of_forall (scheme : String) (authority : Authority) {cs : List Char}
    (h : ∀ c ∈ cs, c ≠ '?' ∧ c ≠ '#') :
    reached scheme authority ('/' :: exportPath cs) =
      ⟨scheme, some authority.host, authority.userinfo, authority.port,
        .segments (walk .web [] (exportSegments cs)), none, none⟩ := by
  rw [reached, takeTrail_of_forall _ (forall_exportPath_iff.mpr h), ← pathBehind_exportPath]

theorem not_leadsTo_of_dots {name : String} (hDots : name = "." ∨ name = "..")
    (hPath : url.path = .segments (walk .web [] (exportSegments name.toList))) :
    ¬ url.LeadsTo ["v1", "projects", name, "export-openapi"] := by
  rintro ⟨ss, hSegments, hStand⟩
  rw [hPath, UrlPath.segments.injEq] at hSegments
  subst hSegments
  have hLength := congrArg List.length hStand
  rcases hDots with rfl | rfl
  · rw [List.length_map] at hLength
    revert hLength
    with_unfolding_all decide
  · rw [List.length_map] at hLength
    revert hLength
    with_unfolding_all decide

/-- With a site in front, the address names a project just if the project is a segment. -/
theorem exports_iff (scheme : String) (authority : Authority) (s : String) :
    ((reached scheme authority ('/' :: exportPath (withoutBreaks s.toList))).addQuery "locale"
      exportLocale).Exports s ↔ IsSegment s := by
  constructor
  · intro h
    have hSigns : ∀ c ∈ withoutBreaks s.toList, c ≠ '?' ∧ c ≠ '#' := by
      refine forall_exportPath_iff.mp ?_
      obtain ⟨-, hQuery, hFragment⟩ := h
      rw [show "locale=zh-CN" = "locale" ++ "=" ++ exportLocale from rfl,
        query_addQuery_iff] at hQuery
      unfold reached at hQuery hFragment
      cases hTrail : takeTrail .web ('/' :: exportPath (withoutBreaks s.toList)) with
      | mk front trail =>
          obtain ⟨query, fragment⟩ := trail
          rw [hTrail] at hQuery hFragment
          obtain rfl : fragment = none := hFragment
          exact forall_of_takeTrail (by simp [getLast?_exportPath]) hTrail hQuery
    rw [reached_of_forall scheme authority hSigns] at h
    obtain ⟨hFree, hBare⟩ := free_of_leadsTo rfl h.path
    have hBreaks : withoutBreaks s.toList = s.toList := withoutBreaks_of_forall fun c hc => by
      have hc := hFree c hc
      simp only [List.mem_cons, not_or] at hc
      tauto
    rw [hBreaks] at h hSigns
    refine ⟨fun c hc => ?_, hBare, ?_, ?_⟩
    · have hc' := hFree c hc
      simp only [List.mem_cons, not_or] at hc' ⊢
      have := hSigns c hc
      tauto
    · rintro rfl
      exact not_leadsTo_of_dots (.inl rfl) rfl h.path
    · rintro rfl
      exact not_leadsTo_of_dots (.inr rfl) rfl h.path
  · intro h
    have hParts : ∀ c ∈ s.toList, (c ≠ '?' ∧ c ≠ '#') ∧ c ≠ '\t' ∧ c ≠ '\n' ∧ c ≠ '\r' := by
      intro c hc
      have hFree := h.free c hc
      simp only [List.mem_cons, not_or] at hFree
      tauto
    rw [withoutBreaks_of_forall fun c hc => (hParts c hc).2,
      reached_of_forall scheme authority fun c hc => (hParts c hc).1]
    exact ⟨leadsTo_of_isSegment h rfl, rfl, rfl⟩

/-! ### Site -/

/-- A host as it may be set: a scheme and an authority, with slashes behind them. -/
def hostText (scheme authority : String) (slashes : Nat) : String :=
  scheme ++ "://" ++ authority ++ String.ofList (.replicate slashes '/')

/-- The address of such a host by itself. -/
def siteText (scheme authority : String) : String :=
  scheme ++ "://" ++ authority ++ "/"

/-- Nothing but slashes is cut off a host, and slashes are all that stands between its scheme and
its authority. -/
theorem toList_dropEnd_host (scheme : String) {authority : String}
    (h : ∀ c ∈ authority.toList, c ≠ '/') (slashes : Nat) :
    ∃ front, (∀ c ∈ front, c = '/') ∧
      (dropEnd '/' (hostText scheme authority slashes)).toList =
        scheme.toList ++ ':' :: (front ++ authority.toList) := by
  have hSlashes : ∀ c ∈ List.replicate slashes '/', decide (c = '/') = true := fun c hc => by
    rw [List.eq_of_mem_replicate hc]
    decide
  rw [dropEnd, String.toList_ofList, hostText]
  simp only [String.toList_append, String.toList_ofList, List.reverse_append,
    List.reverse_replicate]
  rw [List.dropWhile_append_of_pos hSlashes]
  cases hLast : authority.toList.reverse with
  | nil =>
      refine ⟨[], by simp, ?_⟩
      rw [List.reverse_eq_nil_iff.mp hLast]
      show (':' :: scheme.toList.reverse).reverse = _
      simp
  | cons c cs =>
      have hc : c ≠ '/' := h c (List.mem_reverse.mp (hLast ▸ List.mem_cons_self ..))
      refine ⟨"//".toList, by simp, ?_⟩
      rw [List.cons_append, List.dropWhile_cons_of_neg (by simpa using hc), ← List.cons_append,
        ← hLast]
      simp

/-- Only tabs and line ends, which are left out when an address is read. -/
def IsVoid (s : String) : Prop :=
  withoutBreaks s.toList = []

instance (s : String) : Decidable (IsVoid s) :=
  inferInstanceAs (Decidable (withoutBreaks s.toList = []))

theorem withoutBreaks_exportPath (cs : List Char) :
    withoutBreaks (exportPath cs) = exportPath (withoutBreaks cs) := by
  unfold exportPath
  rw [withoutBreaks_append, withoutBreaks_append]
  rfl

section

variable {scheme authority : String}

/-- An address is read from behind the slashes that follow its scheme. -/
theorem ofString_of_site {front path : List Char} (hText : s.toList =
      scheme.toList ++ ':' :: (front ++ authority.toList ++ '/' :: path))
    (hScheme : scheme.map Char.toLower = "http" ∨ scheme.map Char.toLower = "https")
    (hFront : ∀ c ∈ front, c = '/') (hLast : ∀ c ∈ ('/' :: path).getLast?, 0x20 < c.toNat)
    (hAuthority : ∀ c ∈ authority.toList, c ∉ ['/', '\\', '?', '#']) :
    Url.ofString s = withAuthority (scheme.map Char.toLower) .web
      (if IsVoid authority then (withoutBreaks path).dropWhile (isSlash true)
        else withoutBreaks authority.toList ++ '/' :: withoutBreaks path) := by
  have hWeb : scheme.toList.map Char.toLower = "http".toList ∨
      scheme.toList.map Char.toLower = "https".toList := by
    rw [← String.toList_map]
    exact hScheme.imp (congrArg String.toList) (congrArg String.toList)
  have hEnd : s.toList.getLast? = ('/' :: path).getLast? := by
    rw [hText, ← List.cons_append, ← List.append_assoc,
      List.getLast?_append_of_ne_nil _ (List.cons_ne_nil _ _)]
  have hSlashes : withoutBreaks front = front := withoutBreaks_of_forall fun c hc => by
    rw [hFront c hc]
    decide
  have hKept : withoutBreaks (front ++ authority.toList ++ '/' :: path) =
      front ++ withoutBreaks authority.toList ++ '/' :: withoutBreaks path := by
    rw [withoutBreaks_append, withoutBreaks_append, hSlashes]
    rfl
  rw [ofString_of_scheme hText hWeb (hEnd ▸ hLast), ← String.toList_map, String.ofList_toList,
    hKept, List.append_assoc, List.dropWhile_append_of_pos fun c hc => by rw [hFront c hc]; rfl]
  congr 1
  split
  · next hVoid =>
    rw [show withoutBreaks authority.toList = [] from hVoid]
    exact List.dropWhile_cons_of_pos rfl
  · next hSome =>
    obtain ⟨c, cs, hCons⟩ := List.exists_cons_of_ne_nil hSome
    have hMem : c ∈ authority.toList := List.filter_sublist.subset (hCons ▸ List.mem_cons_self ..)
    rw [hCons]
    refine List.dropWhile_cons_of_neg ?_
    rw [isSlash_eq_false_iff.mpr ⟨fun hc => ?_, fun hc => ?_⟩]
    · exact Bool.false_ne_true
    · exact hAuthority c hMem (by simp [hc])
    · exact hAuthority c hMem (by simp [hc])

/-- Without an authority, the path begins where the host is read. -/
theorem host_of_void (hScheme : scheme.map Char.toLower = "http" ∨
    scheme.map Char.toLower = "https") (cs : List Char) :
    ∃ url, withAuthority (scheme.map Char.toLower) .web (exportPath cs) = .ok url ∧
      url.host = some "v1" := by
  obtain ⟨r, hRead⟩ := withAuthority_slash (scheme.map Char.toLower) (a := "v1".toList)
    (by simp [endsAuthority, isSlash])
  have hHost : (withAuthority (scheme.map Char.toLower) .web
      ("v1".toList ++ ['/'])).toOption.bind Url.host = some "v1" := by
    rcases hScheme with hScheme | hScheme
    · rw [hScheme]
      with_unfolding_all decide
    · rw [hScheme]
      with_unfolding_all decide
  rw [hRead] at hHost
  have hPath : exportPath cs =
      "v1".toList ++ '/' :: ("projects/".toList ++ cs ++ "/export-openapi".toList) := rfl
  rw [hPath, hRead]
  cases r with
  | error e => cases hHost
  | ok authority => exact ⟨_, rfl, hHost⟩

/-- The address of a project is read as that of its host, up to the path. -/
theorem ofString_exportText
    (hScheme : scheme.map Char.toLower = "http" ∨ scheme.map Char.toLower = "https")
    (hAuthority : ∀ c ∈ authority.toList, c ∉ ['/', '\\', '?', '#']) (slashes : Nat)
    (projectId : String) :
    Url.ofString (exportText (hostText scheme authority slashes) projectId) =
      withAuthority (scheme.map Char.toLower) .web
        (if IsVoid authority then exportPath (withoutBreaks projectId.toList)
          else withoutBreaks authority.toList ++
            '/' :: exportPath (withoutBreaks projectId.toList)) := by
  obtain ⟨front, hFront, hHost⟩ := toList_dropEnd_host scheme
    (fun c hc hSlash => hAuthority c hc (by simp [hSlash])) slashes
  have hText : (exportText (hostText scheme authority slashes) projectId).toList =
      scheme.toList ++ ':' ::
        (front ++ authority.toList ++ '/' :: exportPath projectId.toList) := by
    unfold exportText exportPath
    rw [String.toList_append, String.toList_append, String.toList_append, hHost]
    have hSlash : "/v1/projects/".toList = '/' :: "v1/projects/".toList := rfl
    rw [hSlash]
    simp only [List.append_assoc, List.cons_append]
  have hLast : ∀ c ∈ ('/' :: exportPath projectId.toList).getLast?, 0x20 < c.toNat := by
    rw [getLast?_exportPath]
    rintro c ⟨⟩
    decide
  have hKept : ∀ cs, (exportPath cs).dropWhile (isSlash true) = exportPath cs := fun cs => rfl
  rw [ofString_of_site hText hScheme hFront hLast hAuthority, withoutBreaks_exportPath, hKept]

theorem ofString_siteText
    (hScheme : scheme.map Char.toLower = "http" ∨ scheme.map Char.toLower = "https")
    (hAuthority : ∀ c ∈ authority.toList, c ∉ ['/', '\\', '?', '#']) :
    Url.ofString (siteText scheme authority) = withAuthority (scheme.map Char.toLower) .web
      (if IsVoid authority then [] else withoutBreaks authority.toList ++ ['/']) := by
  have hText : (siteText scheme authority).toList =
      scheme.toList ++ ':' :: ("//".toList ++ authority.toList ++ '/' :: []) := by
    simp [siteText]
  have hSlashes : ∀ c ∈ "//".toList, c = '/' := by simp
  rw [ofString_of_site hText hScheme hSlashes (by simp) hAuthority]
  rfl

/-- With an authority, host and project are read one after the other: what the host is read as
stands in the address as it is, and what refuses it refuses the address. -/
theorem exportEndpoint_of_site
    (hScheme : scheme.map Char.toLower = "http" ∨ scheme.map Char.toLower = "https")
    (hAuthority : ∀ c ∈ authority.toList, c ∉ ['/', '\\', '?', '#']) (hSome : ¬ IsVoid authority)
    (slashes : Nat) (projectId : String) :
    (∃ found,
      Url.ofString (siteText scheme authority) =
        .ok (reached (scheme.map Char.toLower) found ['/']) ∧
      exportEndpoint (hostText scheme authority slashes) projectId =
        .ok ((reached (scheme.map Char.toLower) found
          ('/' :: exportPath (withoutBreaks projectId.toList))).addQuery "locale" exportLocale)) ∨
    ∃ cause, Url.ofString (siteText scheme authority) = .error cause ∧
      exportEndpoint (hostText scheme authority slashes) projectId =
        .error ⟨hostText scheme authority slashes, cause⟩ := by
  have hFree : ∀ c ∈ withoutBreaks authority.toList, endsAuthority true c = false := by
    intro c hc
    have hNot := hAuthority c (List.filter_sublist.subset hc)
    simp only [List.mem_cons, List.not_mem_nil, or_false, not_or] at hNot
    simp [endsAuthority, isSlash, hNot]
  obtain ⟨r, hRead⟩ := withAuthority_slash (scheme.map Char.toLower) hFree
  have hRoot := ofString_siteText hScheme hAuthority
  have hUrl := ofString_exportText hScheme hAuthority slashes projectId
  rw [if_neg hSome, hRead] at hRoot hUrl
  rw [exportEndpoint, hRoot, hUrl]
  cases r with
  | ok found => exact .inl ⟨found, rfl, rfl⟩
  | error cause => exact .inr ⟨cause, rfl, rfl⟩

/-- Without an authority, the host is none, but the address has the name that its path begins
with. -/
theorem exportEndpoint_of_void
    (hScheme : scheme.map Char.toLower = "http" ∨ scheme.map Char.toLower = "https")
    (hAuthority : ∀ c ∈ authority.toList, c ∉ ['/', '\\', '?', '#']) (hVoid : IsVoid authority)
    (slashes : Nat) (projectId : String) :
    Url.ofString (siteText scheme authority) = .error .emptyHost ∧
      ∃ url, exportEndpoint (hostText scheme authority slashes) projectId = .ok url ∧
        url.host = some "v1" := by
  constructor
  · rw [ofString_siteText hScheme hAuthority, if_pos hVoid]
    rfl
  · obtain ⟨url, hRead, hName⟩ := host_of_void hScheme (withoutBreaks projectId.toList)
    refine ⟨url.addQuery "locale" exportLocale, ?_, hName⟩
    rw [exportEndpoint, ofString_exportText hScheme hAuthority, if_pos hVoid, hRead]

/-- Where the description of a project is exported from, for every host made of a scheme of the web
and an authority, with any number of slashes behind them. Who is asked is what host and authority
say, whatever the project is; only an authority that says nothing is taken from the path. The
project is the one that the path names, and nothing else is asked for, just if the project is
written as one segment that stands for itself. -/
theorem exportEndpoint_exact
    (hScheme : scheme.map Char.toLower = "http" ∨ scheme.map Char.toLower = "https")
    (hAuthority : ∀ c ∈ authority.toList, c ∉ ['/', '\\', '?', '#']) (slashes : Nat)
    (projectId : String) :
    (∀ site, Url.ofString (siteText scheme authority) = .ok site →
      ∃ url, exportEndpoint (hostText scheme authority slashes) projectId = .ok url ∧
        url.SameSite site ∧ (url.Exports projectId ↔ IsSegment projectId)) ∧
    (∀ cause, Url.ofString (siteText scheme authority) = .error cause → ¬ IsVoid authority →
      exportEndpoint (hostText scheme authority slashes) projectId =
        .error ⟨hostText scheme authority slashes, cause⟩) ∧
    (IsVoid authority → Url.ofString (siteText scheme authority) = .error .emptyHost ∧
      ∃ url, exportEndpoint (hostText scheme authority slashes) projectId = .ok url ∧
        url.host = some "v1") := by
  by_cases hVoid : IsVoid authority
  · have hNone := exportEndpoint_of_void hScheme hAuthority hVoid slashes projectId
    refine ⟨fun site hSite => ?_, fun cause _ hSome => absurd hVoid hSome, fun _ => hNone⟩
    rw [hNone.1] at hSite
    cases hSite
  · rcases exportEndpoint_of_site hScheme hAuthority hVoid slashes projectId with
      ⟨found, hRoot, hUrl⟩ | ⟨cause, hRoot, hUrl⟩
    · refine ⟨fun site hSite => ?_, fun cause hCause => ?_, fun hNone => absurd hNone hVoid⟩
      · rw [hRoot] at hSite
        cases hSite
        exact ⟨_, hUrl, ⟨rfl, rfl, rfl, rfl⟩, exports_iff ..⟩
      · rw [hRoot] at hCause
        cases hCause
    · refine ⟨fun site hSite => ?_, fun cause' hCause _ => ?_, fun hNone => absurd hNone hVoid⟩
      · rw [hRoot] at hSite
        cases hSite
      · rw [hRoot] at hCause
        cases hCause
        exact hUrl

end

/-- A project that is a number is named, slashes behind the host or not. -/
theorem exportEndpoint_number :
    ∃ url, exportEndpoint "https://api.apifox.com//" "42" = .ok url ∧ url.Exports "42" := by
  have hSite : (Url.ofString (siteText "https" "api.apifox.com")).toOption.isSome = true := by
    with_unfolding_all decide
  have hSegment : IsSegment "42" :=
    ⟨by simp, not_holdsEscape (by decide), by decide, by decide⟩
  have hScheme : "https".map Char.toLower = "https" := by with_unfolding_all decide
  have hAuthority : ∀ c ∈ "api.apifox.com".toList, c ∉ ['/', '\\', '?', '#'] := by simp
  have hHost : hostText "https" "api.apifox.com" 2 = "https://api.apifox.com//" := by
    decide
  have hExact := exportEndpoint_exact (.inr hScheme) hAuthority 2 "42"
  rw [hHost] at hExact
  cases hRoot : Url.ofString (siteText "https" "api.apifox.com") with
  | error cause =>
      rw [hRoot] at hSite
      cases hSite
  | ok site =>
      obtain ⟨url, hUrl, -, hExports⟩ := hExact.1 site hRoot
      exact ⟨url, hUrl, hExports.mpr hSegment⟩

/-- A project that leads up and down again: the description of another one is asked for. -/
theorem exportEndpoint_climbing :
    ∃ url, (exportEndpoint "https://api.apifox.com" "1/../2").toOption = some url ∧
      url.Exports "2" ∧ ¬ url.Exports "1/../2" := by
  refine ⟨⟨"https", some "api.apifox.com", ⟨"", ""⟩, none,
    .segments ["v1", "projects", "2", "export-openapi"], some "locale=zh-CN", none⟩,
    by with_unfolding_all decide, ⟨⟨_, rfl, by decide⟩, rfl, rfl⟩, ?_⟩
  rintro ⟨⟨ss, hPath, hStand⟩, -, -⟩
  cases hPath
  revert hStand
  decide

end TypedClient
