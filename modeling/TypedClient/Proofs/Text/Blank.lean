import Mathlib.Data.List.DropRight
import TypedClient.Text.Blank

/-!
Texts without white space around them. Main statements: cutting it off twice is cutting it off once,
and what is blank after that was blank before; cut off the end alone, it leaves nothing just of what
is blank.
-/

namespace TypedClient.Text

theorem all_dropWhile {α : Type*} (p : α → Bool) (l : List α) :
    (l.dropWhile p).all p = l.all p := by
  induction l with
  | nil => rfl
  | cons x l ih => cases h : p x <;> simp [h, ih]

theorem trimList_eq_rdropWhile (cs : List Char) :
    trimList cs = (cs.dropWhile isBlank).rdropWhile isBlank := rfl

/-- The first of the characters that are left is not white space. -/
theorem dropWhile_trimList (cs : List Char) : (trimList cs).dropWhile isBlank = trimList cs := by
  rw [List.dropWhile_eq_self_iff]
  intro hLength hBlank
  have hPrefix := List.rdropWhile_prefix isBlank (l := cs.dropWhile isBlank)
  rw [← trimList_eq_rdropWhile] at hPrefix
  have hFirst := List.head_dropWhile_not isBlank
    (List.ne_nil_of_length_pos (Nat.lt_of_lt_of_le hLength hPrefix.length_le))
  have hSame := hPrefix.head (List.ne_nil_of_length_pos hLength)
  rw [← hSame, List.head_eq_getElem, hBlank] at hFirst
  exact absurd hFirst (by simp)

/-- Nothing more is cut off a second time. -/
theorem trimList_trimList (cs : List Char) : trimList (trimList cs) = trimList cs := by
  rw [trimList_eq_rdropWhile (trimList cs), dropWhile_trimList, trimList_eq_rdropWhile,
    List.rdropWhile_idempotent]

theorem trim_trim (s : String) : trim (trim s) = trim s := by
  rw [trim, trim, String.toList_ofList, trimList_trimList]

theorem isBlankText_trim (s : String) : isBlankText (trim s) = isBlankText s := by
  rw [isBlankText, trim, String.toList_ofList, trimList, List.all_reverse, all_dropWhile,
    List.all_reverse, all_dropWhile]
  rfl

theorem isBlank_of_getLast?_rdropWhile {cs : List Char} {c : Char}
    (h : (cs.rdropWhile isBlank).getLast? = some c) : isBlank c = false := by
  have hSome := List.ne_nil_of_mem (List.mem_of_getLast? h)
  rw [List.getLast?_eq_some_getLast hSome, Option.some.injEq] at h
  rw [← h]
  exact eq_false_of_ne_true (List.rdropWhile_last_not isBlank cs hSome)

/-- What is left of a text without the white space around it. -/
structure IsCoreOf (core s : String) : Prop where
  around : ∃ front back : List Char, s.toList = front ++ core.toList ++ back ∧
    (∀ c ∈ front, isBlank c = true) ∧ ∀ c ∈ back, isBlank c = true
  first : ∀ c, core.toList.head? = some c → isBlank c = false
  last : ∀ c, core.toList.getLast? = some c → isBlank c = false

theorem trim_isCoreOf (s : String) : IsCoreOf (trim s) s where
  around := by
    refine ⟨s.toList.takeWhile isBlank, (s.toList.dropWhile isBlank).rtakeWhile isBlank, ?_,
      fun c hc => List.mem_takeWhile_imp hc, fun c hc => List.mem_rtakeWhile_imp hc⟩
    rw [trim, String.toList_ofList, trimList_eq_rdropWhile, List.append_assoc,
      List.rdropWhile_append_rtakeWhile, List.takeWhile_append_dropWhile]
  first := by
    intro c hFirst
    have hNot := List.head?_dropWhile_not isBlank (trimList s.toList)
    rw [trim, String.toList_ofList] at hFirst
    rw [dropWhile_trimList, hFirst] at hNot
    exact hNot
  last := by
    intro c hLast
    rw [trim, String.toList_ofList, trimList_eq_rdropWhile] at hLast
    exact isBlank_of_getLast?_rdropWhile hLast

/-! ### At the end alone -/

theorem trimEnd_toList (s : String) : (trimEnd s).toList = s.toList.rdropWhile isBlank := by
  rw [trimEnd, String.toList_ofList, List.rdropWhile]

/-- Only white space is cut off. -/
theorem exists_eq_trimEnd_append (s : String) :
    ∃ trail, s = trimEnd s ++ trail ∧ isBlankText trail = true := by
  refine ⟨String.ofList (s.toList.rtakeWhile isBlank), ?_, ?_⟩
  · rw [← String.toList_inj, String.toList_append, trimEnd_toList, String.toList_ofList,
      List.rdropWhile_append_rtakeWhile]
  · rw [isBlankText, String.toList_ofList, List.all_eq_true]
    exact fun c hc => List.mem_rtakeWhile_imp hc

/-- What is left does not end in white space. -/
theorem isBlank_of_getLast?_trimEnd {s : String} {c : Char}
    (h : (trimEnd s).toList.getLast? = some c) : isBlank c = false := by
  rw [trimEnd_toList] at h
  exact isBlank_of_getLast?_rdropWhile h

theorem trimEnd_eq_empty {s : String} : trimEnd s = "" ↔ isBlankText s = true := by
  rw [← String.toList_inj, trimEnd_toList, String.toList_empty, List.rdropWhile_eq_nil_iff,
    isBlankText, List.all_eq_true]

end TypedClient.Text
