import TypedClient.Proofs.Url.Paths

/-!
How the front of an address of the web is read. Main statement: the slash behind an authority ends
it, so who is asked, and where, depends on nothing that follows this slash.
-/

namespace TypedClient.Url

open Text

variable {scheme : String} {a cs rest : List Char} {c : Char}

/-! ### Before reading -/

/-- A text without its tabs and line ends. -/
def withoutBreaks (cs : List Char) : List Char :=
  cs.filter fun c => c ≠ '\t' && c ≠ '\n' && c ≠ '\r'

theorem withoutBreaks_append (cs ds : List Char) :
    withoutBreaks (cs ++ ds) = withoutBreaks cs ++ withoutBreaks ds :=
  List.filter_append ..

theorem withoutBreaks_of_forall (h : ∀ c ∈ cs, c ≠ '\t' ∧ c ≠ '\n' ∧ c ≠ '\r') :
    withoutBreaks cs = cs := by
  refine List.filter_eq_self.mpr fun c hc => ?_
  simp [h c hc]

/-- Nothing is cut off the ends of a text that stand out. -/
theorem cleaned_eq (hFirst : ∀ c ∈ cs.head?, 0x20 < c.toNat)
    (hLast : ∀ c ∈ cs.getLast?, 0x20 < c.toNat) : cleaned cs = withoutBreaks cs := by
  have hKeep : ∀ {ds : List Char}, (∀ c ∈ ds.head?, 0x20 < c.toNat) →
      ds.dropWhile (fun c : Char => c.toNat ≤ 0x20) = ds := by
    intro ds h
    cases ds with
    | nil => rfl
    | cons d ds => exact List.dropWhile_cons_of_neg (by simpa using h d rfl)
  rw [cleaned, hKeep hFirst, hKeep (by rwa [List.head?_reverse]), List.reverse_reverse]
  rfl

/-! ### Scheme -/

theorem isAlpha_of_toLower (h : c.toLower.isLower = true) : c.isAlpha = true := by
  rcases toLower_cases c with hSame | ⟨hLow, hHigh, -⟩
  · rw [hSame] at h
    exact Bool.or_eq_true_iff.mpr (.inr h)
  · exact Bool.or_eq_true_iff.mpr (.inl (isUpper_iff.mpr ⟨hLow, hHigh⟩))

/-- Letters in front of a colon are the scheme. -/
theorem takeScheme_of_letters (hSome : cs ≠ []) (h : ∀ c ∈ cs, c.isAlpha = true)
    (rest : List Char) :
    takeScheme (cs ++ ':' :: rest) = some (String.ofList (cs.map Char.toLower), rest) := by
  obtain ⟨c, ds, rfl⟩ := List.exists_cons_of_ne_nil hSome
  have hParts : ∀ d ∈ c :: ds, isSchemePart d = true := fun d hd => by
    simp [isSchemePart, Char.isAlphanum, h d hd]
  rw [List.cons_append, takeScheme, if_pos (h c (List.mem_cons_self ..)), ← List.cons_append,
    List.dropWhile_append_of_pos hParts, List.takeWhile_append_of_pos hParts]
  have hColon : isSchemePart ':' = false := by decide
  rw [List.dropWhile_cons_of_neg (by simp [hColon]), List.takeWhile_cons_of_neg (by simp [hColon]),
    List.append_nil]
  rfl

/-! ### Authority -/

/-- The address of an authority and what follows it. -/
def reached (scheme : String) (authority : Authority) (cs : List Char) : Url :=
  let (path, query, fragment) := takeTrail .web cs
  ⟨scheme, some authority.host, authority.userinfo, authority.port,
    .segments (pathBehind .web path), query, fragment⟩

theorem splitLast_mem {isSeparator : Char → Bool} {front behind : List Char}
    (h : splitLast isSeparator cs = some (front, behind)) : behind ⊆ cs := by
  unfold splitLast at h
  dsimp only at h
  split at h
  · cases h
  · rw [Option.some.injEq, Prod.mk.injEq] at h
    rw [← h.2]
    intro c hc
    exact List.mem_reverse.mp ((List.takeWhile_sublist _).subset (List.mem_reverse.mp hc))

/-- Who asks is read up to the slash behind it. -/
theorem takeUserinfo_slash (ha : ∀ c ∈ a, endsAuthority true c = false) :
    (∃ e, ∀ rest, takeUserinfo true (a ++ '/' :: rest) = .error e) ∨
      ∃ info hasInfo host, host ⊆ a ∧
        ∀ rest,
          takeUserinfo true (a ++ '/' :: rest) = .ok (info, hasInfo, host ++ '/' :: rest) := by
  have hAll : ∀ c ∈ a, (!endsAuthority true c) = true := fun c hc => by rw [ha c hc]; rfl
  have hFront : ∀ rest, (a ++ '/' :: rest).takeWhile (fun c => !endsAuthority true c) = a := by
    intro rest
    rw [List.takeWhile_append_of_pos hAll, List.takeWhile_cons_of_neg (by decide), List.append_nil]
  have hBehind : ∀ rest,
      (a ++ '/' :: rest).dropWhile (fun c => !endsAuthority true c) = '/' :: rest := by
    intro rest
    rw [List.dropWhile_append_of_pos hAll, List.dropWhile_cons_of_neg (by decide)]
  simp only [takeUserinfo, hFront, hBehind]
  cases hSplit : splitLast (· = '@') a with
  | none => exact .inr ⟨_, _, a, List.Subset.refl a, fun rest => rfl⟩
  | some parts =>
      obtain ⟨info, host⟩ := parts
      have hHost := splitLast_mem hSplit
      cases info with
      | nil =>
          by_cases hEmpty : host = []
          · exact .inl ⟨_, fun rest => if_pos ⟨hEmpty, List.cons_ne_nil _ _⟩⟩
          · exact .inr ⟨_, _, host, hHost, fun rest => if_neg fun hBoth => hEmpty hBoth.1⟩
      | cons c info => exact .inr ⟨_, _, host, hHost, fun rest => rfl⟩

/-- A host is read up to its port, or up to the slash behind it. -/
theorem takeHost_slash (inBrackets : Bool) (ha : ∀ c ∈ a, endsAuthority true c = false) :
    ∃ host behind, (behind = [] ∨ ∃ port, behind = ':' :: port ∧ port ⊆ a) ∧
      ∀ rest, takeHost true inBrackets (a ++ '/' :: rest) = (host, behind ++ '/' :: rest) := by
  induction a generalizing inBrackets with
  | nil => exact ⟨[], [], .inl rfl, fun rest => by simp [takeHost, endsAuthority, isSlash]⟩
  | cons c a ih =>
      have hc := ha c (List.mem_cons_self ..)
      by_cases hColon : (c = ':' && !inBrackets) = true
      · refine ⟨[], c :: a, .inr ⟨a, ?_, List.subset_cons_self ..⟩, fun rest => ?_⟩
        · simp only [Bool.and_eq_true, decide_eq_true_eq] at hColon
          rw [hColon.1]
        · rw [List.cons_append, takeHost, hColon, Bool.or_true, if_pos rfl]
      · obtain ⟨host, behind, hBehind, hRead⟩ :=
          ih (c = '[' || (inBrackets && c ≠ ']')) fun d hd => ha d (List.mem_cons_of_mem _ hd)
        refine ⟨c :: host, behind, ?_, fun rest => ?_⟩
        · rcases hBehind with hNone | ⟨port, hPort, hMem⟩
          · exact .inl hNone
          · exact .inr ⟨port, hPort, List.subset_cons_of_subset _ hMem⟩
        · rw [List.cons_append, takeHost, hc, Bool.false_or, if_neg hColon]
          dsimp only
          rw [hRead]

theorem takeWhile_append_cons {p : Char → Bool} (hc : ¬ p c = true) (a rest : List Char) :
    (a ++ c :: rest).takeWhile p = a.takeWhile p := by
  induction a with
  | nil => exact List.takeWhile_cons_of_neg hc
  | cons d a ih => rw [List.cons_append, List.takeWhile_cons, List.takeWhile_cons, ih]

theorem dropWhile_append_cons {p : Char → Bool} (hc : ¬ p c = true) (a rest : List Char) :
    (a ++ c :: rest).dropWhile p = a.dropWhile p ++ c :: rest := by
  induction a with
  | nil => exact List.dropWhile_cons_of_neg hc
  | cons d a ih =>
      rw [List.cons_append, List.dropWhile_cons, List.dropWhile_cons, ih]
      split <;> rfl

/-- A port is read up to the slash behind it. -/
theorem takePort_slash (scheme : String) (ha : ∀ c ∈ a, endsAuthority true c = false) :
    (∃ e, ∀ rest, takePort scheme (a ++ '/' :: rest) = .error e) ∨
      ∃ port, ∀ rest, takePort scheme (a ++ '/' :: rest) = .ok (port, '/' :: rest) := by
  have hSlash : ¬ Char.isDigit '/' = true := by decide
  have hRead : ∀ rest, (a ++ '/' :: rest).takeWhile Char.isDigit = a.takeWhile Char.isDigit ∧
      (a ++ '/' :: rest).dropWhile Char.isDigit = a.dropWhile Char.isDigit ++ '/' :: rest := by
    intro rest
    exact ⟨takeWhile_append_cons hSlash a rest, dropWhile_append_cons hSlash a rest⟩
  simp only [takePort, hRead]
  by_cases hLarge : (digitsValue? 10 (a.takeWhile Char.isDigit)).getD 0 > 65535
  · exact .inl ⟨.invalidPort, fun rest => if_pos hLarge⟩
  simp only [if_neg hLarge]
  cases hBehind : a.dropWhile Char.isDigit with
  | nil =>
      refine .inr ?_
      by_cases hUsual : a.takeWhile Char.isDigit = [] ∨
          defaultPort? scheme = some ((digitsValue? 10 (a.takeWhile Char.isDigit)).getD 0)
      · exact ⟨none, fun rest => if_pos hUsual⟩
      · exact ⟨some _, fun rest => if_neg hUsual⟩
  | cons c behind =>
      have hMem : c ∈ a := (List.dropWhile_sublist _).subset (hBehind ▸ List.mem_cons_self ..)
      exact .inl ⟨.invalidPort, fun rest => by simp [ha c hMem]⟩

/-- What stands behind a host whose name is read: a port, or none. -/
def readPort (scheme name : String) (info : Userinfo) :
    List Char → Except UrlError (Authority × List Char)
  | ':' :: rest => (takePort scheme rest).map fun read => (⟨name, info, read.1⟩, read.2)
  | rest => .ok (⟨name, info, none⟩, rest)

/-- An authority of the web is who asks, a host that is not empty, and its port. -/
theorem takeAuthority_eq {info : Userinfo} {hasInfo : Bool} {userHost host behind : List Char}
    (scheme : String) (hInfo : takeUserinfo true cs = .ok (info, hasInfo, userHost))
    (hHost : takeHost true false userHost = (host, behind)) :
    takeAuthority scheme .web cs =
      if host = [] then .error .emptyHost
      else (specialHost host).bind fun name => readPort scheme name info behind := by
  unfold takeAuthority
  rw [show SchemeKind.web.isSpecial = true from rfl, hInfo]
  dsimp only [bind, Except.bind]
  rw [hHost]
  by_cases hEmpty : host = []
  · rw [if_pos hEmpty, if_pos ⟨hEmpty, .inl rfl⟩]
    rfl
  · rw [if_neg hEmpty, if_neg fun hBoth => hEmpty hBoth.1, if_pos rfl]
    cases specialHost host with
    | error e => rfl
    | ok name =>
        dsimp only
        split
        · next rest =>
            rw [readPort]
            cases takePort scheme rest <;> rfl
        · next hOther =>
            rw [readPort]
            · rfl
            · exact hOther

/-- The slash behind a port ends it. -/
theorem readPort_slash (scheme name : String) (info : Userinfo) {behind : List Char}
    (hBehind : behind = [] ∨ ∃ port, behind = ':' :: port ∧ port ⊆ a)
    (ha : ∀ c ∈ a, endsAuthority true c = false) :
    ∃ r : Except UrlError Authority, ∀ rest,
      readPort scheme name info (behind ++ '/' :: rest) =
        r.map fun authority => (authority, '/' :: rest) := by
  rcases hBehind with rfl | ⟨port, rfl, hInPort⟩
  · exact ⟨.ok ⟨name, info, none⟩, fun rest => rfl⟩
  have hColon : ∀ rest, readPort scheme name info (':' :: port ++ '/' :: rest) =
      (takePort scheme (port ++ '/' :: rest)).map fun read => (⟨name, info, read.1⟩, read.2) :=
    fun rest => rfl
  rcases takePort_slash scheme fun c hc => ha c (hInPort hc) with ⟨e, hPort⟩ | ⟨number, hPort⟩
  · exact ⟨.error e, fun rest => by rw [hColon, hPort]; rfl⟩
  · exact ⟨.ok ⟨name, info, number⟩, fun rest => by rw [hColon, hPort]; rfl⟩

/-- The slash behind an authority ends it. -/
theorem takeAuthority_slash (scheme : String) (ha : ∀ c ∈ a, endsAuthority true c = false) :
    ∃ r : Except UrlError Authority,
      ∀ rest, takeAuthority scheme .web (a ++ '/' :: rest) =
        r.map fun authority => (authority, '/' :: rest) := by
  rcases takeUserinfo_slash ha with ⟨e, hInfo⟩ | ⟨info, hasInfo, userHost, hInside, hInfo⟩
  · refine ⟨.error e, fun rest => ?_⟩
    rw [takeAuthority, show SchemeKind.web.isSpecial = true from rfl, hInfo]
    rfl
  have hFree : ∀ c ∈ userHost, endsAuthority true c = false := fun c hc => ha c (hInside hc)
  obtain ⟨host, behind, hBehind, hHost⟩ := takeHost_slash false hFree
  have hRead := fun rest => takeAuthority_eq scheme (hInfo rest) (hHost rest)
  by_cases hEmpty : host = []
  · exact ⟨.error .emptyHost, fun rest => by rw [hRead, if_pos hEmpty]; rfl⟩
  cases hName : specialHost host with
  | error e => exact ⟨.error e, fun rest => by rw [hRead, if_neg hEmpty, hName]; rfl⟩
  | ok name =>
      obtain ⟨r, hPort⟩ := readPort_slash scheme name info hBehind hFree
      refine ⟨r, fun rest => ?_⟩
      rw [hRead, if_neg hEmpty, hName]
      exact hPort rest

/-! ### Whole addresses -/

/-- What follows an authority and a slash has no part in them. -/
theorem withAuthority_slash (scheme : String) (ha : ∀ c ∈ a, endsAuthority true c = false) :
    ∃ r : Except UrlError Authority,
      ∀ rest, withAuthority scheme .web (a ++ '/' :: rest) =
        r.map fun authority => reached scheme authority ('/' :: rest) := by
  obtain ⟨r, hRead⟩ := takeAuthority_slash scheme ha
  refine ⟨r, fun rest => ?_⟩
  rw [withAuthority, hRead]
  cases r <;> rfl

/-- A scheme, however its letters are written, in front of a colon. -/
theorem ofString_of_scheme {s : String} (hText : s.toList = cs ++ ':' :: rest)
    (hWeb : cs.map Char.toLower = "http".toList ∨ cs.map Char.toLower = "https".toList)
    (hLast : ∀ c ∈ s.toList.getLast?, 0x20 < c.toNat) :
    ofString s = withAuthority (String.ofList (cs.map Char.toLower)) .web
      ((withoutBreaks rest).dropWhile (isSlash true)) := by
  have hSome : cs ≠ [] := by
    rintro rfl
    rcases hWeb with hWeb | hWeb <;> cases hWeb
  have hAlpha : ∀ c ∈ cs, c.isAlpha = true := by
    intro c hc
    have hLower : (cs.map Char.toLower).all Char.isLower = true := by
      rcases hWeb with hWeb | hWeb <;> rw [hWeb] <;> decide
    exact isAlpha_of_toLower (List.all_eq_true.mp hLower _ (List.mem_map_of_mem hc))
  have hHigh : ∀ c : Char, c.isAlpha = true → 0x20 < c.toNat := by
    intro c hc
    rcases Bool.or_eq_true_iff.mp hc with hUpper | hLower
    · exact Nat.lt_of_lt_of_le (by decide) (isUpper_iff.mp hUpper).1
    · exact Nat.lt_of_lt_of_le (by decide) (isLower_iff.mp hLower).1
  have hNoBreak : ∀ c ∈ cs, c ≠ '\t' ∧ c ≠ '\n' ∧ c ≠ '\r' := by
    intro c hc
    have hBig := hHigh c (hAlpha c hc)
    refine ⟨?_, ?_, ?_⟩ <;> rintro rfl <;> exact absurd hBig (by decide)
  have hClean : cleaned s.toList = cs ++ ':' :: withoutBreaks rest := by
    rw [cleaned_eq _ hLast, hText, withoutBreaks_append, withoutBreaks_of_forall hNoBreak]
    · rfl
    · obtain ⟨c, ds, rfl⟩ := List.exists_cons_of_ne_nil hSome
      rw [hText]
      rintro d hd
      cases hd
      exact hHigh c (hAlpha c (List.mem_cons_self ..))
  have hKind : SchemeKind.ofScheme (String.ofList (cs.map Char.toLower)) = .web := by
    rcases hWeb with hWeb | hWeb <;> rw [hWeb] <;> decide
  rw [ofString, hClean, takeScheme_of_letters hSome hAlpha]
  dsimp only
  rw [hKind]

end TypedClient.Url
