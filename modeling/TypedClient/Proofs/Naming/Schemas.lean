import Mathlib.Data.List.Forall2
import TypedClient.Naming
import TypedClient.Proofs.Text.CodePoints

/-!
The names of shared schemas made fit. Every character stays or becomes an underscore, so where a
name without underscores comes out at either end, it has been there before; and two names come out
the same just when they differ only in characters that a name does not keep.
-/

namespace TypedClient.Naming

open Text

/-! ### Characters -/

theorem typeChar_eq_or (c : Char) : typeChar c = c ∨ typeChar c = '_' := by
  unfold typeChar
  split
  · exact .inl rfl
  · exact .inr rfl

theorem eq_of_map_typeChar {cs ds : List Char} (h : cs.map typeChar = ds) (hMark : '_' ∉ ds) :
    cs = ds := by
  rw [← h, List.map_congr_left (g := id), List.map_id]
  intro c hc
  rcases typeChar_eq_or c with hSame | hOther
  · exact hSame
  · rw [← h] at hMark
    exact absurd (hOther ▸ List.mem_map_of_mem hc) hMark

/-- A character that a fit name keeps as it is, and that nothing else becomes. -/
def isKept (c : Char) : Bool :=
  isAlphanumeric c || c = '$'

theorem typeChar_of_isKept {c : Char} (h : isKept c = true) : typeChar c = c := by
  rw [typeChar, if_pos]
  rw [Bool.or_right_comm]
  exact (Bool.or_eq_true_iff ..).mpr (.inl h)

theorem typeChar_of_not_isKept {c : Char} (h : isKept c = false) : typeChar c = '_' := by
  rw [isKept] at h
  rw [typeChar, Bool.or_right_comm, h, Bool.false_or]
  split
  · next hMark => exact of_decide_eq_true hMark
  · rfl

theorem typeChar_eq_iff {c c' : Char} :
    typeChar c = typeChar c' ↔ c = c' ∨ isKept c = false ∧ isKept c' = false := by
  have hMark : isKept '_' = false := by decide
  constructor
  · intro h
    cases hc : isKept c with
    | false =>
        cases hc' : isKept c' with
        | false => exact .inr ⟨rfl, rfl⟩
        | true =>
            rw [typeChar_of_not_isKept hc, typeChar_of_isKept hc'] at h
            rw [← h, hMark] at hc'
            exact absurd hc' (by decide)
    | true =>
        cases hc' : isKept c' with
        | false =>
            rw [typeChar_of_isKept hc, typeChar_of_not_isKept hc'] at h
            rw [h, hMark] at hc
            exact absurd hc (by decide)
        | true =>
            rw [typeChar_of_isKept hc, typeChar_of_isKept hc'] at h
            exact .inl h
  · rintro (rfl | ⟨hc, hc'⟩)
    · rfl
    · rw [typeChar_of_not_isKept hc, typeChar_of_not_isKept hc']

/-- What a character becomes is a number just when it is one itself. -/
theorem isNumeral_typeChar (c : Char) : isNumeral (typeChar c) = isNumeral c := by
  cases hc : isKept c with
  | true => rw [typeChar_of_isKept hc]
  | false =>
      have hNumeral : isNumeral c = false := by
        rw [← Bool.not_eq_true]
        intro hTrue
        rw [isKept, isAlphanumeric_of_isNumeral hTrue] at hc
        exact absurd hc (by simp)
      rw [typeChar_of_not_isKept hc, hNumeral]
      decide

/-! ### What a name becomes -/

/-- A name begins with a number. -/
def isNumbered (name : String) : Bool :=
  name.toList.head?.any isNumeral

/-- The characters of a name, behind an underscore if it begins with a number. -/
def guarded (name : String) : List Char :=
  (if isNumbered name then ['_'] else []) ++ name.toList

theorem typeName_toList_eq (name : String) :
    (typeName name).toList = (guarded name).map typeChar := by
  have hMark : typeChar '_' = '_' := by decide
  unfold typeName guarded isNumbered
  dsimp only
  cases name.toList with
  | nil => rfl
  | cons c cs =>
      rw [List.map_cons, List.head?_cons, Option.any_some]
      dsimp only
      rw [isNumeral_typeChar]
      cases isNumeral c with
      | true => simp [hMark]
      | false => simp

theorem typeName_toList (raw : String) :
    (typeName raw).toList = raw.toList.map typeChar ∨
      (typeName raw).toList = '_' :: raw.toList.map typeChar := by
  have hMark : typeChar '_' = '_' := by decide
  rw [typeName_toList_eq, guarded]
  cases isNumbered raw with
  | true => exact .inr (by simp [hMark])
  | false => exact .inl (by simp)

/-- A fit name without underscores was fit before. -/
theorem eq_of_typeName {raw name : String} (h : typeName raw = name) (hMark : '_' ∉ name.toList) :
    raw = name := by
  rw [← String.toList_inj]
  rw [← h] at hMark ⊢
  rcases typeName_toList raw with hName | hName
  · rw [hName] at hMark ⊢
    exact eq_of_map_typeChar rfl hMark
  · rw [hName] at hMark
    exact absurd (List.mem_cons_self ..) hMark

/-- What a fit name begins and ends with, the name that it was made of begins and ends with as
well, if there is no underscore in it. -/
theorem toList_of_typeName {raw : String} {front middle back : List Char}
    (h : (typeName raw).toList = front ++ middle ++ back) (hFront : front ≠ [])
    (hFrontMark : '_' ∉ front) (hBackMark : '_' ∉ back) :
    ∃ inner, raw.toList = front ++ inner ++ back := by
  rcases typeName_toList raw with hName | hName
  · rw [hName] at h
    obtain ⟨init, last, hRaw, hInit, hLast⟩ := List.map_eq_append_iff.mp h
    obtain ⟨first, inner, rfl, hFirst, -⟩ := List.map_eq_append_iff.mp hInit
    rw [eq_of_map_typeChar hFirst hFrontMark, eq_of_map_typeChar hLast hBackMark] at hRaw
    exact ⟨inner, hRaw⟩
  · rw [hName] at h
    cases front with
    | nil => exact absurd rfl hFront
    | cons c front =>
        have hHead : '_' = c := (List.cons.inj h).1
        exact absurd (hHead ▸ List.mem_cons_self ..) hFrontMark

/-! ### Names that come out the same -/

/-- Two names collide if, behind their guards, they have the same length, and at each place the same
character or two of those that a fit name does not keep. -/
def Collide (name name' : String) : Prop :=
  List.Forall₂ (fun c c' => c = c' ∨ isKept c = false ∧ isKept c' = false)
    (guarded name) (guarded name')

/-- Two names come out the same just when they collide. -/
theorem typeName_eq_iff {name name' : String} :
    typeName name = typeName name' ↔ Collide name name' := by
  rw [← String.toList_inj, typeName_toList_eq, typeName_toList_eq, ← List.forall₂_eq_eq_eq,
    List.forall₂_map_left_iff, List.forall₂_map_right_iff, Collide]
  simp only [typeChar_eq_iff]

/-- A name that can stand as it is. -/
def isFit (name : String) : Bool :=
  name.toList.all (fun c => isKept c || c = '_') && !isNumbered name

theorem typeName_of_isFit {name : String} (h : isFit name = true) : typeName name = name := by
  rw [isFit, Bool.and_eq_true, Bool.not_eq_true'] at h
  rw [← String.toList_inj, typeName_toList_eq, guarded, h.2]
  refine (List.map_congr_left fun c hc => ?_).trans (List.map_id _)
  rcases (Bool.or_eq_true_iff ..).mp (List.all_eq_true.mp h.1 c hc) with hKept | hMark
  · exact typeChar_of_isKept hKept
  · rw [of_decide_eq_true hMark]
    decide

/-- What a character becomes can stand in a name. -/
theorem isKept_typeChar (c : Char) : (isKept (typeChar c) || typeChar c = '_') = true := by
  cases hc : isKept c with
  | true => rw [typeChar_of_isKept hc, hc, Bool.true_or]
  | false => rw [typeChar_of_not_isKept hc, decide_eq_true rfl, Bool.or_true]

/-- The underscore in front of a number is none itself, and no other character becomes one. -/
theorem isNumbered_typeName (name : String) : isNumbered (typeName name) = false := by
  rw [isNumbered, typeName_toList_eq, List.head?_map, guarded]
  cases hNumbered : isNumbered name with
  | true =>
      have hMark : isNumeral (typeChar '_') = false := by decide
      exact hMark
  | false =>
      rw [isNumbered] at hNumbered
      cases hText : name.toList with
      | nil => rfl
      | cons c cs =>
          rw [hText] at hNumbered
          exact (isNumeral_typeChar c).trans hNumbered

theorem isFit_typeName (name : String) : isFit (typeName name) = true := by
  rw [isFit, isNumbered_typeName, Bool.not_false, Bool.and_true, typeName_toList_eq,
    List.all_map, List.all_eq_true]
  exact fun c _ => isKept_typeChar c

/-- The names that stay as they are are those that can stand as they are. -/
theorem typeName_eq_self_iff {name : String} : typeName name = name ↔ isFit name = true :=
  ⟨fun h => h ▸ isFit_typeName name, typeName_of_isFit⟩

end TypedClient.Naming
