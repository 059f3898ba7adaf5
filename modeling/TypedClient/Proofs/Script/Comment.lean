import Mathlib.Data.List.Chain
import TypedClient.Proofs.Text.Pieces
import TypedClient.Script.Expr

/-!
Comments in front of functions. A line stands in a comment with every closing mark in it parted by a
backslash. Main statement: however the lines read, the comment goes on up to its last line and is
closed there.
-/

namespace TypedClient.Script

open Text

/-- What closes a comment. -/
def closeMark : List Char := ['*', '/']

/-- The way a line is put into a comment: from left to right, every mark in it gets a backslash in
its middle, and all else stays as it is. -/
inductive IsParted : List Char → List Char → Prop
  | whole {cs : List Char} (hNone : ¬ closeMark <:+: cs) : IsParted cs cs
  | mark {front cs ds : List Char} (hNone : ¬ closeMark <:+: front) (hRest : IsParted cs ds) :
      IsParted (front ++ '*' :: '/' :: cs) (front ++ '*' :: '\\' :: '/' :: ds)

/-- A mark stands behind `before` in a text, and nowhere in front of that. -/
structure IsFirst (mark before text : List Char) : Prop where
  here : before ++ mark <+: text
  first : ∀ earlier, earlier ++ mark <+: text → before.length ≤ earlier.length

/-- A mark that does not begin in front of a place is there for the first time. -/
theorem IsFirst.of_not_infix {mark before text : List Char} {c : Char}
    (hHere : before ++ (mark ++ [c]) <+: text) (hNone : ¬ mark ++ [c] <:+: before ++ mark) :
    IsFirst (mark ++ [c]) before text where
  here := hHere
  first := by
    intro earlier hEarlier
    by_contra hShort
    refine hNone ?_
    have hPrefix : before ++ mark <+: text := by
      refine List.IsPrefix.trans ⟨[c], ?_⟩ hHere
      rw [List.append_assoc]
    have hInside : earlier ++ (mark ++ [c]) <+: before ++ mark := by
      refine List.prefix_of_prefix_length_le hEarlier hPrefix ?_
      simp only [List.length_append, List.length_singleton]
      omega
    exact List.IsInfix.trans ⟨earlier, [], by simp⟩ hInside.isInfix

/-! ### Texts without a mark -/

/-- Two neighbours that are not a mark. -/
def NoMark (c d : Char) : Prop := ¬ (c = '*' ∧ d = '/')

theorem isChain_noMark_iff {cs : List Char} : cs.IsChain NoMark ↔ ¬ closeMark <:+: cs := by
  rw [List.isChain_iff_forall_rel_of_append_cons_cons]
  constructor
  · rintro h ⟨front, back, hText⟩
    have hSplit : cs = front ++ '*' :: '/' :: back := by
      rw [← hText, closeMark]
      simp
    exact h hSplit ⟨rfl, rfl⟩
  · rintro h c d front back hText ⟨rfl, rfl⟩
    refine h ⟨front, back, ?_⟩
    rw [hText, closeMark]
    simp

theorem not_closeMark_append {cs ds : List Char} (hFront : ¬ closeMark <:+: cs)
    (hBack : ¬ closeMark <:+: ds) (hSeam : ∀ c ∈ cs.getLast?, ∀ d ∈ ds.head?, NoMark c d) :
    ¬ closeMark <:+: cs ++ ds :=
  isChain_noMark_iff.mp
    ((isChain_noMark_iff.mpr hFront).append (isChain_noMark_iff.mpr hBack) hSeam)

theorem not_closeMark_cons {c : Char} {cs : List Char} (hSeam : ∀ d ∈ cs.head?, NoMark c d)
    (hNone : ¬ closeMark <:+: cs) : ¬ closeMark <:+: c :: cs :=
  isChain_noMark_iff.mp (List.isChain_cons.mpr ⟨hSeam, isChain_noMark_iff.mpr hNone⟩)

theorem IsParted.cons {c : Char} {cs ds : List Char} (h : IsParted cs ds)
    (hSeam : ∀ d ∈ cs.head?, NoMark c d) : IsParted (c :: cs) (c :: ds) := by
  cases h with
  | whole hNone => exact .whole (not_closeMark_cons hSeam hNone)
  | @mark front cs ds hNone hRest =>
      refine @IsParted.mark (c :: front) cs ds (not_closeMark_cons ?_ hNone) hRest
      cases front with
      | nil => simp
      | cons d front => exact hSeam

theorem head?_commentChars (cs : List Char) : (commentChars cs).head? = cs.head? := by
  fun_cases commentChars cs <;> rfl

/-- Every mark in a line is parted and nothing else is changed, and no mark is left. -/
theorem commentChars_parts (cs : List Char) :
    IsParted cs (commentChars cs) ∧ ¬ closeMark <:+: commentChars cs := by
  fun_induction commentChars cs with
  | case1 cs ih =>
      refine ⟨@IsParted.mark [] _ _ (by decide) ih.1, ?_⟩
      have hParted : ¬ closeMark <:+: ['*', '\\', '/'] := by decide
      exact not_closeMark_append hParted ih.2 (by simp [NoMark])
  | case2 c cs hOther ih =>
      have hSeam : ∀ d ∈ cs.head?, NoMark c d := by
        rintro d hd ⟨rfl, rfl⟩
        obtain ⟨rest, rfl⟩ := List.head?_eq_some_iff.mp hd
        exact hOther rest rfl rfl
      refine ⟨ih.1.cons hSeam, not_closeMark_cons ?_ ih.2⟩
      rw [head?_commentChars]
      exact hSeam
  | case3 => exact ⟨.whole (by decide), by decide⟩

theorem mem_of_mem_commentChars {c : Char} {cs : List Char} (h : c ∈ commentChars cs)
    (hSlash : c ≠ '\\') : c ∈ cs := by
  fun_induction commentChars cs with
  | case1 cs ih =>
      simp only [List.mem_cons, hSlash, false_or] at h ⊢
      exact h.imp_right (Or.imp_right ih)
  | case2 d cs hOther ih => exact List.mem_cons.mpr ((List.mem_cons.mp h).imp_right ih)
  | case3 => exact h

/-! ### Whole comments -/

/-- A line as it is put into a comment. -/
def parted (line : String) : String := String.ofList (commentChars line.toList)

theorem isParted_parted (line : String) : IsParted line.toList (parted line).toList := by
  rw [parted, String.toList_ofList]
  exact (commentChars_parts line.toList).1

theorem not_closeMark_parted (line : String) : ¬ closeMark <:+: (parted line).toList := by
  rw [parted, String.toList_ofList]
  exact (commentChars_parts line.toList).2

theorem feed_not_mem_parted {line : String} (h : '\n' ∉ line.toList) :
    '\n' ∉ (parted line).toList := by
  rw [parted, String.toList_ofList]
  exact fun hFeed => h (mem_of_mem_commentChars hFeed (by decide))

/-- The inside of a comment. -/
def starred (lines : List String) : String := concat (lines.map fun line => " * " ++ line ++ "\n")

theorem renderComment_eq {lines : List String} (h : lines ≠ []) :
    renderComment lines = "/**\n" ++ starred (lines.map parted) ++ " */\n" := by
  cases lines with
  | nil => exact absurd rfl h
  | cons line lines =>
      rw [starred, List.map_map]
      rfl

/-- Every line in a comment begins with an asterisk. -/
theorem pieces_starred {lines : List String} (h : ∀ line ∈ lines, '\n' ∉ line.toList) :
    pieces (· = '\n') (starred lines).toList =
      lines.map (fun line => [' ', '*', ' '] ++ line.toList) ++ [[]] := by
  have hLines : ∀ line ∈ lines, ∀ c ∈ line.toList, decide (c = '\n') = false := by
    intro line hLine c hc
    refine decide_eq_false ?_
    rintro rfl
    exact h line hLine hc
  have hLead : ∀ c ∈ " * ".toList, decide (c = '\n') = false := by simp
  have hPieces := pieces_concat_lines (by decide) hLead hLines []
  rw [List.append_nil] at hPieces
  rw [starred, hPieces]
  simp [pieces]

theorem not_closeMark_starred {lines : List String}
    (h : ∀ line ∈ lines, ¬ closeMark <:+: line.toList) :
    ¬ closeMark <:+: (starred lines).toList := by
  induction lines with
  | nil => decide
  | cons line lines ih =>
      have hLine : ¬ closeMark <:+: [' ', '*', ' '] ++ line.toList :=
        not_closeMark_append (by decide) (h line (List.mem_cons_self ..)) (by simp [NoMark])
      have hEnded : ¬ closeMark <:+: [' ', '*', ' '] ++ line.toList ++ ['\n'] :=
        not_closeMark_append hLine (by decide) (by simp [NoMark])
      have hRest := ih fun other hOther => h other (List.mem_cons_of_mem _ hOther)
      have hText : (starred (line :: lines)).toList =
          [' ', '*', ' '] ++ line.toList ++ ['\n'] ++ (starred lines).toList := by
        rw [starred, List.map_cons, concat, String.toList_append, String.toList_append,
          String.toList_append]
        rfl
      rw [hText]
      refine not_closeMark_append hEnded hRest ?_
      rw [List.getLast?_concat]
      simp [NoMark]

/-- A comment of lines without a mark is closed behind the last of them, and not before. -/
theorem isFirst_closeMark {lines : List String} (h : ∀ line ∈ lines, ¬ closeMark <:+: line.toList)
    (rest : String) :
    IsFirst closeMark ("/**\n" ++ starred lines ++ " ").toList
      ("/**\n" ++ starred lines ++ " */\n" ++ rest).toList := by
  refine @IsFirst.of_not_infix ['*'] _ _ '/' ⟨'\n' :: rest.toList, by simp⟩ ?_
  have hInside : ¬ closeMark <:+: ['/', '*', '*', '\n'] ++ (starred lines).toList :=
    not_closeMark_append (by decide) (not_closeMark_starred h) (by simp [NoMark])
  have hText : ("/**\n" ++ starred lines ++ " ").toList ++ ['*'] =
      ['/', '*', '*', '\n'] ++ (starred lines).toList ++ [' ', '*'] := by simp
  rw [hText]
  exact not_closeMark_append hInside (by decide) (by simp [NoMark])

end TypedClient.Script
