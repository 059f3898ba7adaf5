import TypedClient.Text.Pieces

/-!
Margins. A margin goes in front of every line of a text but the first, and a line feed at the end of
the text begins no line. Putting it behind every line feed comes to the same but for such an end,
and of texts that are put together it does so one by one.
-/

namespace TypedClient.Text

variable {m s t : String}

/-! ### Texts in one line -/

/-- A text that does not break the line. -/
def OneLine (s : String) : Prop := '\n' ∉ s.toList

instance (s : String) : Decidable (OneLine s) :=
  decidable_of_iff (s.toList.contains '\n' = false) <| by
    rw [OneLine, ← List.contains_iff_mem, Bool.not_eq_true]

theorem OneLine.append (hs : OneLine s) (ht : OneLine t) : OneLine (s ++ t) := by
  rw [OneLine, String.toList_append, List.mem_append]
  exact not_or.mpr ⟨hs, ht⟩

theorem OneLine.joined {separator : String} (hSeparator : OneLine separator) {ss : List String}
    (h : ∀ s ∈ ss, OneLine s) : OneLine (joined separator ss) := by
  fun_induction Text.joined separator ss with
  | case1 => decide
  | case2 s => exact h s (List.mem_singleton.mpr rfl)
  | case3 s ss _ ih =>
      refine ((h s (List.mem_cons_self ..)).append hSeparator).append (ih fun t ht => ?_)
      exact h t (List.mem_cons_of_mem _ ht)

/-! ### Behind every line feed -/

/-- A character, with a margin behind it if it is a line feed. -/
def marginChar (m : List Char) (c : Char) : List Char :=
  if c = '\n' then c :: m else [c]

/-- A margin behind every line feed of a text. -/
def deepened (m s : String) : String := String.ofList (s.toList.flatMap (marginChar m.toList))

theorem deepened_append (m s t : String) : deepened m (s ++ t) = deepened m s ++ deepened m t := by
  rw [deepened, String.toList_append, List.flatMap_append, String.ofList_append]
  rfl

theorem deepened_of_oneLine (h : OneLine s) : deepened m s = s := by
  have hChars : s.toList.map (marginChar m.toList) = s.toList.map fun c => [c] := by
    refine List.map_congr_left fun c hc => if_neg ?_
    rintro rfl
    exact h hc
  rw [← String.toList_inj, deepened, String.toList_ofList, List.flatMap_def, hChars,
    ← List.flatMap_def, List.flatMap_singleton']

theorem deepened_feed (m : String) : deepened m "\n" = "\n" ++ m := by
  rw [← String.toList_inj, deepened]
  simp [marginChar]

/-! ### In front of every line but the first -/

/-- The characters of a text with a margin behind every line feed but one at the end. -/
def hangChars (m : List Char) : List Char → List Char
  | [] => []
  | c :: cs => (if cs.isEmpty then [c] else marginChar m c) ++ hangChars m cs

/-- A text with a margin behind every line feed that further text follows. -/
def hang (m s : String) : String := String.ofList (hangChars m.toList s.toList)

/-- With a line feed at the end, only those in front of it get a margin. -/
theorem hang_append_feed (m s : String) : hang m (s ++ "\n") = deepened m s ++ "\n" := by
  have hChars : ∀ cs : List Char, hangChars m.toList (cs ++ ['\n']) =
      cs.flatMap (marginChar m.toList) ++ ['\n'] := by
    intro cs
    induction cs with
    | nil => rfl
    | cons c cs ih =>
        rw [List.cons_append, hangChars, ih, List.flatMap_cons, List.append_assoc]
        simp
  rw [← String.toList_inj, hang, deepened]
  simp [hChars]

/-- Where no line feed stands at the end, all of them get a margin. -/
theorem hang_eq_deepened (h : s.toList.getLast? ≠ some '\n') : hang m s = deepened m s := by
  rw [hang, deepened]
  generalize s.toList = cs at h
  congr 1
  induction cs with
  | nil => rfl
  | cons c cs ih =>
      cases cs with
      | nil =>
          have hc : c ≠ '\n' := by simpa using h
          simp [hangChars, marginChar, hc]
      | cons d ds =>
          rw [hangChars, List.flatMap_cons, ih (by simpa using h)]
          simp

end TypedClient.Text
