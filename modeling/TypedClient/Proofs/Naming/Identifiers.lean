import TypedClient.Proofs.Naming.Schemas
import TypedClient.Proofs.Text.Identifiers

/-!
Whether the names of shared schemas made fit are identifiers. Main statement: a name comes out as an
identifier just when it is not empty, the letters and numbers in it may all stand in an identifier,
and a letter in front may begin one. There are others: numbers that are no digits, letters in
circles, and marks that are put on letters.
-/

namespace TypedClient.Naming

open Text

variable {c : Char} {name : String}

theorem continuesIdentifier_typeChar :
    continuesIdentifier (typeChar c) = true ↔
      (isKept c = true → continuesIdentifier c = true) := by
  have hMark : continuesIdentifier '_' = true := rfl
  cases hKept : isKept c with
  | true => simp [typeChar_of_isKept hKept]
  | false => simp [typeChar_of_not_isKept hKept, hMark]

theorem beginsIdentifier_typeChar :
    beginsIdentifier (typeChar c) = true ↔ (isKept c = true → beginsIdentifier c = true) := by
  have hMark : beginsIdentifier '_' = true := rfl
  cases hKept : isKept c with
  | true => simp [typeChar_of_isKept hKept]
  | false => simp [typeChar_of_not_isKept hKept, hMark]

/-- The characters that a name keeps may all stand in an identifier, and the first of them may begin
one, unless it is a number and goes behind an underscore. -/
def KeepsFitting (name : String) : Prop :=
  (∀ c ∈ name.toList, isKept c = true → continuesIdentifier c = true) ∧
    ∀ c, name.toList.head? = some c → isKept c = true →
      isNumeral c = true ∨ beginsIdentifier c = true

theorem keepsFitting_iff {cs : List Char} (h : name.toList = c :: cs) :
    KeepsFitting name ↔
      (∀ other ∈ c :: cs, isKept other = true → continuesIdentifier other = true) ∧
        (isKept c = true → isNumeral c = true ∨ beginsIdentifier c = true) := by
  rw [KeepsFitting, h, List.head?_cons]
  simp only [Option.some.injEq, forall_eq']

theorem isIdentifier_typeName_iff :
    isIdentifier (typeName name) = true ↔ name ≠ "" ∧ KeepsFitting name := by
  have hName := typeName_toList_eq name
  rw [guarded, isNumbered] at hName
  cases hChars : name.toList with
  | nil =>
      obtain rfl : name = "" := String.toList_inj.mp hChars
      exact iff_of_false Bool.false_ne_true fun h => h.1 rfl
  | cons c cs =>
      have hSome : name ≠ "" := by
        rintro rfl
        cases hChars
      rw [hChars, List.head?_cons, Option.any_some] at hName
      rw [keepsFitting_iff hChars, and_iff_right hSome]
      cases hNumeral : isNumeral c with
      | true =>
          -- the number stands behind an underscore, which may begin an identifier
          rw [hNumeral, if_pos rfl, List.singleton_append, List.map_cons] at hName
          rw [isIdentifier_iff hName, List.forall_mem_map]
          simp only [continuesIdentifier_typeChar]
          exact ⟨fun h => ⟨h.2, fun _ => .inl trivial⟩, fun h => ⟨rfl, h.1⟩⟩
      | false =>
          rw [hNumeral, if_neg Bool.false_ne_true, List.nil_append] at hName
          rw [isIdentifier_iff hName, List.forall_mem_map, beginsIdentifier_typeChar,
            List.forall_mem_cons]
          simp only [continuesIdentifier_typeChar, Bool.false_eq_true, false_or]
          exact ⟨fun h => ⟨⟨fun hKept => continuesIdentifier_of_begins (h.1 hKept), h.2⟩, h.1⟩,
            fun h => ⟨h.2, h.1.2⟩⟩

theorem keepsFitting_of_ascii (h : ∀ c ∈ name.toList, c.toNat < 128) : KeepsFitting name := by
  have hFits : ∀ c ∈ name.toList, isKept c = true →
      continuesIdentifier c = true ∧ (isNumeral c = true ∨ beginsIdentifier c = true) := by
    intro c hc hKept
    rcases (Bool.or_eq_true_iff ..).mp hKept with hAlphanumeric | hDollar
    · exact fitsIdentifier_of_ascii (h c hc) hAlphanumeric
    · rw [of_decide_eq_true hDollar]
      exact ⟨rfl, .inr rfl⟩
  exact ⟨fun c hc hKept => (hFits c hc hKept).1,
    fun c hHead hKept => (hFits c (List.mem_of_mem_head? hHead) hKept).2⟩

/-- The name of a shared schema comes out as an identifier just when it is not empty, all characters
that it keeps may stand in an identifier, and the first of them may begin one or goes behind an
underscore. Names of ASCII characters always do. -/
theorem typeName_isIdentifier (name : String) :
    (isIdentifier (typeName name) = true ↔ name ≠ "" ∧ KeepsFitting name) ∧
    ((∀ c ∈ name.toList, c.toNat < 128) → name ≠ "" → isIdentifier (typeName name) = true) :=
  ⟨isIdentifier_typeName_iff,
    fun hAscii hSome => isIdentifier_typeName_iff.mpr ⟨hSome, keepsFitting_of_ascii hAscii⟩⟩

/-- A name with a digit in front, and white space and brackets in it. -/
theorem digitName_isIdentifier :
    "2 List<Item>".toList.all (fun c => decide (c.toNat < 128)) = true ∧
      "2 List<Item>" ≠ "" ∧ isIdentifier (typeName "2 List<Item>") = true := by
  have hAscii : "2 List<Item>".toList.all (fun c => decide (c.toNat < 128)) = true := by decide
  exact ⟨hAscii, by decide, (typeName_isIdentifier "2 List<Item>").2
    (fun c hc => of_decide_eq_true (List.all_eq_true.mp hAscii c hc)) (by decide)⟩

/-- A raised two is a number, so that a name keeps it, but it cannot stand in an identifier. -/
theorem raisedTwo_no_identifier :
    "Area²" ≠ "" ∧ typeName "Area²" = "Area²" ∧ isIdentifier (typeName "Area²") = false := by
  have hChars : "Area²".toList = ['A', 'r', 'e', 'a', '²'] := by decide
  have hKept : isKept '²' = true := by
    rw [isKept, isAlphanumeric, if_neg (by decide), CodePoints.has_eq_any alphanumerics_isOrdered]
    decide
  have hUnfit : continuesIdentifier '²' = false := by
    rw [continuesIdentifier, CodePoints.has_eq_any identifierParts_isOrdered]
    decide +kernel
  have hFit : isFit "Area²" = true := by
    rw [isFit, isNumbered, hChars]
    simp only [List.all_cons, hKept]
    decide
  refine ⟨by decide, typeName_of_isFit hFit, eq_false_of_ne_true fun h => ?_⟩
  obtain ⟨-, hFits, -⟩ := isIdentifier_typeName_iff.mp h
  have hPart := hFits '²' (by rw [hChars]; decide) hKept
  rw [hUnfit] at hPart
  cases hPart

end TypedClient.Naming
