import Mathlib.Data.List.TakeWhile
import TypedClient.Text.Pieces

/-!
Pieces and words of a text. Cutting at separators is `List.splitOnP`; cutting the pieces once more
at further separators is cutting at all of them at once; there is one piece more than there are
separators; and the words are the longest runs of what does not separate.
-/

namespace TypedClient.Text

variable {p q : Char → Bool} {c : Char} {cs w : List Char}

/-! ### Pieces -/

theorem pieces_eq_splitOnP (p : Char → Bool) (cs : List Char) : pieces p cs = cs.splitOnP p := by
  induction cs with
  | nil => rw [pieces, List.splitOnP_nil]
  | cons c cs ih =>
      rw [pieces, List.splitOnP_cons_eq_if_modifyHead, ih]
      split
      · rfl
      · cases hPieces : cs.splitOnP p with
        | nil => exact absurd hPieces (List.splitOnP_ne_nil p cs)
        | cons piece rest => rfl

theorem pieces_append_cons (hc : p c = true) (front rest : List Char) :
    pieces p (front ++ c :: rest) = pieces p front ++ pieces p rest := by
  rw [pieces_eq_splitOnP, pieces_eq_splitOnP, pieces_eq_splitOnP,
    List.splitOnP_append_cons front rest hc]

/-- A text without separators is one piece. -/
theorem pieces_of_forall (h : ∀ c ∈ cs, p c = false) : pieces p cs = [cs] := by
  rw [pieces_eq_splitOnP, List.splitOnP_eq_singleton h]

/-- The first character is a piece's end, or it belongs to the first piece. -/
theorem pieces_cons_cases (p : Char → Bool) (c : Char) (cs : List Char) :
    (p c = true ∧ pieces p (c :: cs) = [] :: pieces p cs) ∨
      (p c = false ∧ ∃ piece rest, pieces p cs = piece :: rest ∧
        pieces p (c :: cs) = (c :: piece) :: rest) := by
  cases hc : p c with
  | true => exact .inl ⟨rfl, by rw [pieces, if_pos hc]⟩
  | false =>
      refine .inr ⟨rfl, ?_⟩
      obtain ⟨piece, rest, hPieces⟩ := List.exists_cons_of_ne_nil (List.splitOnP_ne_nil p cs)
      rw [← pieces_eq_splitOnP] at hPieces
      refine ⟨piece, rest, hPieces, ?_⟩
      rw [pieces, hc, hPieces]
      rfl

theorem length_pieces (p : Char → Bool) (cs : List Char) :
    (pieces p cs).length = cs.countP p + 1 := by
  induction cs with
  | nil => rfl
  | cons c cs ih =>
      rcases pieces_cons_cases p c cs with ⟨hc, hCons⟩ | ⟨hc, piece, rest, hPieces, hCons⟩
      · rw [hCons, List.length_cons, ih, List.countP_cons_of_pos hc]
      · rw [hPieces] at ih
        rw [hCons, List.countP_cons_of_neg (by simp [hc]), ← ih]
        rfl

/-- No character is lost but the separators. -/
theorem flatten_pieces (p : Char → Bool) (cs : List Char) :
    (pieces p cs).flatten = cs.filter fun c => !p c := by
  induction cs with
  | nil => rfl
  | cons c cs ih =>
      rcases pieces_cons_cases p c cs with ⟨hc, hCons⟩ | ⟨hc, piece, rest, hPieces, hCons⟩
      · rw [hCons, List.flatten_cons, ih, List.nil_append, List.filter_cons_of_neg (by simp [hc])]
      · rw [hPieces] at ih
        rw [hCons, List.filter_cons_of_pos (by simp [hc]), ← ih]
        rfl

/-- Pieces of pieces are what all the separators cut out together. -/
theorem flatMap_pieces (p q : Char → Bool) (cs : List Char) :
    (pieces p cs).flatMap (pieces q) = pieces (fun c => p c || q c) cs := by
  induction cs with
  | nil => rfl
  | cons c cs ih =>
      rcases pieces_cons_cases p c cs with ⟨hc, hCons⟩ | ⟨hc, piece, rest, hPieces, hCons⟩
      · rw [hCons, List.flatMap_cons, ih, pieces.eq_def (fun c => p c || q c) (c :: cs)]
        simp [pieces, hc]
      · rw [hPieces, List.flatMap_cons] at ih
        rw [hCons, List.flatMap_cons, pieces.eq_def (fun c => p c || q c) (c :: cs)]
        rcases pieces_cons_cases q c piece with ⟨hq, hInner⟩ | ⟨hq, inner, more, hMore, hInner⟩
        · simp [hInner, hc, hq, ← ih]
        · rw [hMore] at ih
          simp [hInner, hc, hq, ← ih]

/-! ### Words -/

theorem words_nil (p : Char → Bool) : words p [] = [] := rfl

/-- Words of words are what all the separators cut out together. -/
theorem flatMap_words (p q : Char → Bool) (cs : List Char) :
    (words p cs).flatMap (words q) = words (fun c => p c || q c) cs := by
  have hEmpty : ∀ ps : List (List Char),
      (ps.filter (· ≠ [])).flatMap (words q) = ps.flatMap (words q) := by
    intro ps
    induction ps with
    | nil => rfl
    | cons piece ps ih =>
        cases piece with
        | nil =>
            rw [List.filter_cons_of_neg (by simp), List.flatMap_cons, words_nil, ih]
            rfl
        | cons c cs =>
            rw [List.filter_cons_of_pos (by simp), List.flatMap_cons, ih]
            rfl
  rw [words, hEmpty, words, ← flatMap_pieces p q, List.filter_flatMap]
  rfl

theorem words_congr (h : ∀ c ∈ cs, p c = q c) : words p cs = words q cs := by
  have hPieces : pieces p cs = pieces q cs := by
    induction cs with
    | nil => rfl
    | cons c cs ih =>
        rw [pieces, pieces, h c (List.mem_cons_self ..),
          ih fun d hd => h d (List.mem_cons_of_mem _ hd)]
  rw [words, words, hPieces]

theorem flatten_words (p : Char → Bool) (cs : List Char) :
    (words p cs).flatten = cs.filter fun c => !p c := by
  rw [words, List.flatten_filter_ne_nil, flatten_pieces]

theorem ne_nil_of_mem_words (hw : w ∈ words p cs) : w ≠ [] := by
  simpa using (List.mem_filter.mp hw).2

/-- No separator stands in a word. -/
theorem not_of_mem_words (hw : w ∈ words p cs) (hc : c ∈ w) : p c = false := by
  have hMem : c ∈ (words p cs).flatten := List.mem_flatten_of_mem hw hc
  rw [flatten_words] at hMem
  simpa using (List.mem_filter.mp hMem).2

/-- A text has no words just when all of it separates. -/
theorem words_eq_nil_iff : words p cs = [] ↔ ∀ c ∈ cs, p c = true := by
  have hAll : cs.filter (fun c => !p c) = [] ↔ ∀ c ∈ cs, p c = true := by
    simp [List.filter_eq_nil_iff]
  rw [← hAll, ← flatten_words]
  constructor
  · intro h
    rw [h, List.flatten_nil]
  · intro h
    rw [List.eq_nil_iff_forall_not_mem]
    intro w hw
    exact ne_nil_of_mem_words hw (List.flatten_eq_nil_iff.mp h w hw)

/-! ### Runs -/

/-- The runs of characters with a property in a text, in order, each as long as it can be. -/
inductive Runs (p : Char → Bool) : List Char → List (List Char) → Prop
  /-- No more such characters come. -/
  | none {gap : List Char} (hGap : ∀ c ∈ gap, p c = false) : Runs p gap []
  /-- Behind a gap comes a run, and it ends where the text ends or another character comes. -/
  | run {gap w rest : List Char} {ws : List (List Char)} (hGap : ∀ c ∈ gap, p c = false)
      (hRun : ∀ c ∈ w, p c = true) (hSome : w ≠ []) (hEnd : ∀ c ∈ rest.head?, p c = false)
      (hRest : Runs p rest ws) : Runs p (gap ++ (w ++ rest)) (w :: ws)

theorem words_cons_of_pos (hc : p c = true) (cs : List Char) : words p (c :: cs) = words p cs := by
  rw [words, pieces, if_pos hc, List.filter_cons_of_neg (by simp), words]

/-- Separators in front do not count. -/
theorem words_append_of_forall {gap : List Char} (h : ∀ c ∈ gap, p c = true) (cs : List Char) :
    words p (gap ++ cs) = words p cs := by
  induction gap with
  | nil => rfl
  | cons c gap ih =>
      rw [List.cons_append, words_cons_of_pos (h c (List.mem_cons_self ..)),
        ih fun d hd => h d (List.mem_cons_of_mem _ hd)]

/-- A text without separators is the first word, if one comes next or nothing does. -/
theorem words_append_of_head? {rest : List Char} (hWord : ∀ c ∈ w, p c = false) (hSome : w ≠ [])
    (hEnd : ∀ c ∈ rest.head?, p c = true) : words p (w ++ rest) = w :: words p rest := by
  have hAlone : (pieces p w).filter (· ≠ []) = [w] := by
    rw [pieces_of_forall hWord, List.filter_cons_of_pos (by simpa using hSome), List.filter_nil]
  cases rest with
  | nil =>
      rw [List.append_nil, words, hAlone]
      rfl
  | cons c rest =>
      have hc : p c = true := hEnd c rfl
      rw [words, pieces_append_cons hc, List.filter_append, hAlone, words_cons_of_pos hc]
      rfl

theorem words_of_runs {ws : List (List Char)} (h : Runs p cs ws) :
    words (fun c => !p c) cs = ws := by
  induction h with
  | none hGap =>
      rw [words_eq_nil_iff]
      intro c hc
      simp [hGap c hc]
  | run hGap hRun hSome hEnd _ ih =>
      rw [words_append_of_forall fun c hc => by simp [hGap c hc],
        words_append_of_head? (fun c hc => by simp [hRun c hc]) hSome
          (fun c hc => by simp [hEnd c hc]), ih]

/-- Every text has its runs: skip to the first, take it, and go on behind it. -/
theorem exists_runs (p : Char → Bool) (cs : List Char) : ∃ ws, Runs p cs ws := by
  induction hLength : cs.length using Nat.strongRecOn generalizing cs with
  | ind n ih =>
      have hGap : ∀ c ∈ cs.takeWhile (!p ·), p c = false := fun c hc => by
        simpa using List.mem_takeWhile_imp hc
      have hSplit := cs.takeWhile_append_dropWhile (p := (!p ·))
      cases hBehind : cs.dropWhile (!p ·) with
      | nil =>
          rw [hBehind, List.append_nil] at hSplit
          exact ⟨[], .none (hSplit ▸ hGap)⟩
      | cons c rest =>
          have hc : p c = true := by
            have hHead := List.head?_dropWhile_not (!p ·) cs
            rw [hBehind] at hHead
            simpa using hHead
          have hShort : (rest.dropWhile p).length < n := by
            have hRest := (rest.dropWhile_sublist (p := p)).length_le
            have hAll := congrArg List.length hSplit
            rw [hBehind, List.length_append, List.length_cons] at hAll
            omega
          obtain ⟨ws, hws⟩ := ih _ hShort (rest.dropWhile p) rfl
          have hText : cs = cs.takeWhile (!p ·) ++ (c :: rest.takeWhile p ++ rest.dropWhile p) := by
            rw [List.cons_append, List.takeWhile_append_dropWhile, ← hBehind, hSplit]
          refine ⟨(c :: rest.takeWhile p) :: ws, ?_⟩
          rw [hText]
          refine .run hGap ?_ (List.cons_ne_nil _ _) ?_ hws
          · intro d hd
            rcases List.mem_cons.mp hd with rfl | hd
            · exact hc
            · exact List.mem_takeWhile_imp hd
          · intro d hd
            have hHead := List.head?_dropWhile_not p rest
            rw [hd] at hHead
            simpa using hHead

/-- The words of a text are its runs of what does not separate. -/
theorem runs_iff {ws : List (List Char)} : Runs p cs ws ↔ ws = words (fun c => !p c) cs := by
  constructor
  · exact fun h => (words_of_runs h).symm
  · rintro rfl
    obtain ⟨ws, h⟩ := exists_runs p cs
    rw [words_of_runs h]
    exact h

/-! ### Lines -/

/-- No separator stands in a piece. -/
theorem not_of_mem_pieces (hw : w ∈ pieces p cs) (hc : c ∈ w) : p c = false := by
  have hMem : c ∈ (pieces p cs).flatten := List.mem_flatten_of_mem hw hc
  rw [flatten_pieces] at hMem
  simpa using (List.mem_filter.mp hMem).2

/-- A line is a piece, but perhaps for a carriage return at its end. -/
theorem exists_piece_of_mem_lineList (h : w ∈ lineList cs) :
    ∃ piece ∈ pieces (· = '\n') cs, w ⊆ piece := by
  have hEnded : ∀ {ps : List (List Char)}, w ∈ ps.dropLast.map dropReturn →
      ∃ piece ∈ ps, w ⊆ piece := by
    intro ps hw
    obtain ⟨piece, hPiece, rfl⟩ := List.mem_map.mp hw
    refine ⟨piece, List.dropLast_subset ps hPiece, ?_⟩
    unfold dropReturn
    split
    · exact List.dropLast_subset piece
    · exact List.Subset.refl piece
  unfold lineList at h
  dsimp only at h
  split at h
  · cases h
  · exact hEnded h
  · next unfinished _ hLast =>
      rcases List.mem_append.mp h with hw | hw
      · exact hEnded hw
      · rw [List.mem_singleton.mp hw]
        exact ⟨unfinished, List.mem_of_getLast? hLast, List.Subset.refl unfinished⟩

/-- No line has a line feed in it. -/
theorem feed_not_mem_of_mem_lines {s line : String} (h : line ∈ lines s) : '\n' ∉ line.toList := by
  obtain ⟨w, hw, rfl⟩ := List.mem_map.mp h
  obtain ⟨piece, hMem, hInside⟩ := exists_piece_of_mem_lineList hw
  rw [String.toList_ofList]
  intro hFeed
  exact absurd (not_of_mem_pieces hMem (hInside hFeed)) (by decide)

/-- Lines with one beginning, which nothing ends but their ends, are the pieces of the text that
they make. -/
theorem pieces_concat_lines (hFeed : p '\n' = true) {lead : String} {ls : List String}
    (hLead : ∀ c ∈ lead.toList, p c = false)
    (h : ∀ line ∈ ls, ∀ c ∈ line.toList, p c = false) (rest : List Char) :
    pieces p ((concat (ls.map fun line => lead ++ line ++ "\n")).toList ++ rest) =
      ls.map (fun line => lead.toList ++ line.toList) ++ pieces p rest := by
  induction ls with
  | nil => rfl
  | cons line ls ih =>
      have hRest := ih fun other hOther => h other (List.mem_cons_of_mem _ hOther)
      have hLine : ∀ c ∈ lead.toList ++ line.toList, p c = false := fun c hc =>
        (List.mem_append.mp hc).elim (hLead c) (h line (List.mem_cons_self ..) c)
      have hText : (concat ((line :: ls).map fun line => lead ++ line ++ "\n")).toList ++ rest =
          (lead.toList ++ line.toList) ++
            '\n' :: ((concat (ls.map fun line => lead ++ line ++ "\n")).toList ++ rest) := by
        simp [concat]
      rw [hText, pieces_append_cons hFeed, pieces_of_forall hLine, hRest]
      rfl

/-! ### Texts inside texts -/

/-- A text stands in another one, somewhere. -/
def StandsIn (s text : String) : Prop :=
  ∃ front back, text = front ++ s ++ back

theorem StandsIn.refl (s : String) : StandsIn s s :=
  ⟨"", "", by rw [String.empty_append, String.append_empty]⟩

theorem StandsIn.trans {s t u : String} (h : StandsIn s t) (hOuter : StandsIn t u) :
    StandsIn s u := by
  obtain ⟨front, back, rfl⟩ := h
  obtain ⟨before, behind, rfl⟩ := hOuter
  refine ⟨before ++ front, back ++ behind, ?_⟩
  simp only [String.append_assoc]

theorem StandsIn.before {s text : String} (h : StandsIn s text) (back : String) :
    StandsIn s (text ++ back) :=
  h.trans ⟨"", back, by rw [String.empty_append]⟩

theorem StandsIn.behind {s text : String} (h : StandsIn s text) (front : String) :
    StandsIn s (front ++ text) :=
  h.trans ⟨front, "", by rw [String.append_empty]⟩

theorem standsIn_concat {s : String} {ss : List String} (h : s ∈ ss) : StandsIn s (concat ss) := by
  induction ss with
  | nil => exact absurd h List.not_mem_nil
  | cons t ts ih =>
      rw [concat]
      rcases List.mem_cons.mp h with rfl | hRest
      · exact (StandsIn.refl s).before _
      · exact (ih hRest).behind t

/-! ### Joined texts -/

theorem joined_cons {s : String} {ss : List String} (separator : String) (h : ss ≠ []) :
    joined separator (s :: ss) = s ++ separator ++ joined separator ss := by
  cases ss with
  | nil => exact absurd rfl h
  | cons t ts => rfl

/-- What is joined first stands in front. -/
theorem joined_append (separator : String) (ss ts : List String) :
    ∃ rest, joined separator (ss ++ ts) = joined separator ss ++ rest := by
  induction ss with
  | nil => exact ⟨joined separator ts, by simp [joined]⟩
  | cons s ss ih =>
      obtain ⟨rest, hRest⟩ := ih
      by_cases hLast : ss = []
      · subst hLast
        by_cases hAll : ts = []
        · exact ⟨"", by simp [hAll, joined]⟩
        · exact ⟨separator ++ joined separator ts, by
            rw [List.cons_append, List.nil_append, joined_cons separator hAll, joined,
              String.append_assoc]⟩
      · refine ⟨rest, ?_⟩
        rw [List.cons_append, joined_cons separator (by simp [hLast]), hRest,
          joined_cons separator hLast, ← String.append_assoc]

/-- Each of the joined texts stands in the whole. -/
theorem standsIn_joined {s : String} {ss : List String} (separator : String) (h : s ∈ ss) :
    StandsIn s (joined separator ss) := by
  induction ss with
  | nil => exact absurd h List.not_mem_nil
  | cons t ts ih =>
      rcases List.mem_cons.mp h with rfl | hRest
      · obtain ⟨back, hBack⟩ := joined_append separator [s] ts
        rw [← List.singleton_append, hBack]
        exact (StandsIn.refl s).before back
      · rw [joined_cons separator (List.ne_nil_of_mem hRest)]
        exact (ih hRest).behind (t ++ separator)

end TypedClient.Text
