import Mathlib.Data.List.Chain
import Mathlib.Data.List.TakeWhile
import TypedClient.Text.Alphanumeric

/-!
Sets of code points as spans between their boundaries. Main statement: every number is one of the
letters and numbers.
-/

namespace TypedClient.Text

/-- The spans from each boundary at which membership begins up to the one at which it ends. -/
def spans : List Nat → List (Nat × Nat)
  | first :: behind :: rest => (first, behind) :: spans rest
  | _ => []

theorem countP_le_eq_zero {n : Nat} {bounds : List Nat} (h : ∀ b ∈ bounds, n < b) :
    bounds.countP (· ≤ n) = 0 := by
  rw [List.countP_eq_zero]
  intro b hb
  have hAbove := h b hb
  simp only [decide_eq_true_eq]
  omega

/-- A number has an odd number of ascending boundaries at or below it just when it is in a span. -/
theorem countP_le_odd_iff {n : Nat} {bounds : List Nat} (hAscend : bounds.Pairwise (· < ·))
    (hEven : bounds.length % 2 = 0) :
    bounds.countP (· ≤ n) % 2 = 1 ↔ ∃ span ∈ spans bounds, span.1 ≤ n ∧ n < span.2 := by
  fun_induction spans bounds with
  | case1 first behind rest ih =>
      obtain ⟨hFirst, hOthers⟩ := List.pairwise_cons.mp hAscend
      obtain ⟨hBehind, hRest⟩ := List.pairwise_cons.mp hOthers
      have hOrder : first < behind := hFirst behind (List.mem_cons_self ..)
      have hRestEven : rest.length % 2 = 0 := by
        rw [List.length_cons, List.length_cons] at hEven
        omega
      have hSpans : (∃ span ∈ (first, behind) :: spans rest, span.1 ≤ n ∧ n < span.2) ↔
          (first ≤ n ∧ n < behind) ∨ rest.countP (· ≤ n) % 2 = 1 := by
        rw [ih hRest hRestEven]
        simp only [List.mem_cons, or_and_right, exists_or, exists_eq_left]
      have hNone : ¬ behind ≤ n → rest.countP (· ≤ n) = 0 := fun hBefore =>
        countP_le_eq_zero fun b hb => Nat.lt_trans (Nat.lt_of_not_le hBefore) (hBehind b hb)
      rw [hSpans, List.countP_cons, List.countP_cons]
      simp only [decide_eq_true_eq]
      -- behind the end of the first span only the others count, in front of it none of them does
      by_cases hEnd : behind ≤ n
      · rw [if_pos hEnd, if_pos (Nat.le_trans (Nat.le_of_lt hOrder) hEnd)]
        omega
      · rw [if_neg hEnd, hNone hEnd]
        split <;> omega
  | case2 bounds hShort =>
      rcases bounds with _ | ⟨first, _ | ⟨behind, rest⟩⟩
      · simp
      · simp at hEven
      · exact absurd rfl (hShort first behind rest)

/-- Whether spans lie in others, going through both in order: each of the others takes away the
spans in front that lie in it. -/
def liesIn : List (Nat × Nat) → List (Nat × Nat) → Bool
  | inners, [] => inners.isEmpty
  | inners, outer :: outers =>
    liesIn (inners.dropWhile fun inner => outer.1 ≤ inner.1 && inner.2 ≤ outer.2) outers

theorem exists_of_liesIn {inners outers : List (Nat × Nat)} (h : liesIn inners outers = true) :
    ∀ inner ∈ inners, ∃ outer ∈ outers, outer.1 ≤ inner.1 ∧ inner.2 ≤ outer.2 := by
  induction outers generalizing inners with
  | nil =>
      intro inner hInner
      rw [liesIn, List.isEmpty_iff] at h
      exact absurd (h ▸ hInner) List.not_mem_nil
  | cons outer outers ih =>
      intro inner hInner
      rw [← List.takeWhile_append_dropWhile (l := inners)
        (p := fun s => outer.1 ≤ s.1 && s.2 ≤ outer.2), List.mem_append] at hInner
      rcases hInner with hFront | hRest
      · have hIn := List.mem_takeWhile_imp hFront
        rw [Bool.and_eq_true, decide_eq_true_eq, decide_eq_true_eq] at hIn
        exact ⟨outer, List.mem_cons_self .., hIn⟩
      · obtain ⟨other, hOther, hIn⟩ := ih h inner hRest
        exact ⟨other, List.mem_cons_of_mem _ hOther, hIn⟩

namespace CodePoints

/-- The boundaries of a set ascend, and the last of them ends a span. -/
def IsOrdered (s : CodePoints) : Prop :=
  s.boundaries.toList.IsChain (· < ·) ∧ s.boundaries.toList.length % 2 = 0

instance (s : CodePoints) : Decidable s.IsOrdered :=
  inferInstanceAs (Decidable (_ ∧ _))

theorem has_iff {s : CodePoints} (h : s.IsOrdered) {c : Char} :
    s.has c = true ↔
      ∃ span ∈ spans s.boundaries.toList, span.1 ≤ c.toNat ∧ c.toNat < span.2 := by
  rw [← countP_le_odd_iff (List.isChain_iff_pairwise.mp h.1) h.2, has, ← Array.countP_toList,
    decide_eq_true_eq]

/-- Membership as it is quickest to find out. -/
theorem has_eq_any {s : CodePoints} (h : s.IsOrdered) (c : Char) :
    s.has c = (spans s.boundaries.toList).any fun span =>
      decide (span.1 ≤ c.toNat) && decide (c.toNat < span.2) := by
  rw [Bool.eq_iff_iff, has_iff h, List.any_eq_true]
  simp only [Bool.and_eq_true, decide_eq_true_eq]

/-- Both sets are in order, and the spans of the first lie in those of the second. -/
def LiesIn (s t : CodePoints) : Prop :=
  s.IsOrdered ∧ t.IsOrdered ∧ liesIn (spans s.boundaries.toList) (spans t.boundaries.toList) = true

instance (s t : CodePoints) : Decidable (s.LiesIn t) :=
  inferInstanceAs (Decidable (_ ∧ _ ∧ _))

/-- A set whose spans lie in those of another one is part of it. -/
theorem LiesIn.has {s t : CodePoints} (h : s.LiesIn t) {c : Char} (hc : s.has c = true) :
    t.has c = true := by
  obtain ⟨hs, ht, hSpans⟩ := h
  obtain ⟨inner, hInner, hFrom, hTo⟩ := (has_iff hs).mp hc
  obtain ⟨outer, hOuter, hBegin, hEnd⟩ := exists_of_liesIn hSpans inner hInner
  exact (has_iff ht).mpr
    ⟨outer, hOuter, Nat.le_trans hBegin hFrom, Nat.lt_of_lt_of_le hTo hEnd⟩

/-- A set all of whose spans another one has as well is part of it. -/
theorem has_of_sublist {s t : CodePoints} (hs : s.IsOrdered) (ht : t.IsOrdered)
    (h : (spans s.boundaries.toList).Sublist (spans t.boundaries.toList)) {c : Char}
    (hc : s.has c = true) : t.has c = true := by
  obtain ⟨span, hSpan, hIn⟩ := (has_iff hs).mp hc
  exact (has_iff ht).mpr ⟨span, h.subset hSpan, hIn⟩

end CodePoints

theorem numerals_liesIn_alphanumerics : numerals.LiesIn alphanumerics := by decide +kernel

theorem alphanumerics_isOrdered : alphanumerics.IsOrdered := numerals_liesIn_alphanumerics.2.1

theorem isAlphanumeric_of_isNumeral {c : Char} (h : isNumeral c = true) :
    isAlphanumeric c = true := by
  unfold isNumeral at h
  unfold isAlphanumeric
  split
  · next hSmall =>
    rw [if_pos hSmall] at h
    exact (Bool.or_eq_true_iff ..).mpr (.inr h)
  · next hLarge =>
    rw [if_neg hLarge] at h
    exact numerals_liesIn_alphanumerics.has h

end TypedClient.Text
