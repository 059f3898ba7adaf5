import TypedClient.Naming
import TypedClient.Proofs.Text.Pieces
import TypedClient.Script.Lexeme

/-!
The names of operations. A name gives away the method it begins with and the role it ends with,
whatever the path brings in between. In the sanitized style only the runs of letters and digits in a
path count, so that its names are bare where the path holds nothing else but slashes and what
separates words.
-/

namespace TypedClient.Naming

open Text

/-! ### What a name begins with -/

theorem derive_toList (role : NameRole) (m : Method) (path : String) (style : NamingStyle) :
    (derive role m path style).toList =
      (front role m).toList ++ pathName style path ++ (back role).toList := by
  simp [derive]

/-- No beginning of a name goes on to be another one. -/
theorem front_isPrefix {role role' : NameRole} {m m' : Method}
    (h : (front role m).toList <+: (front role' m').toList) :
    m = m' ∧ (role = .function ↔ role' = .function) := by
  revert h
  cases role <;> cases role' <;> cases m <;> cases m' <;>
    simp [front, Method.lower, Method.capital]

theorem front_append_inj {role role' : NameRole} {m m' : Method} {rest rest' : List Char}
    (h : (front role m).toList ++ rest = (front role' m').toList ++ rest') :
    m = m' ∧ (role = .function ↔ role' = .function) ∧ rest = rest' := by
  have hEither := List.prefix_or_prefix_of_prefix (List.prefix_append _ rest)
    (h ▸ List.prefix_append (front role' m').toList rest')
  obtain ⟨hMethod, hRole⟩ : m = m' ∧ (role = .function ↔ role' = .function) := by
    rcases hEither with hFront | hFront
    · exact front_isPrefix hFront
    · exact (front_isPrefix hFront).imp Eq.symm Iff.symm
  refine ⟨hMethod, hRole, ?_⟩
  have hFront : front role m = front role' m' := by
    rw [hMethod]
    cases role <;> cases role' <;> simp_all [front]
  rw [hFront] at h
  exact List.append_cancel_left h

/-! ### What a name ends with -/

/-- No end of the name of a type ends in another one. -/
theorem suffix_isSuffix {role role' : TypeRole}
    (h : role.suffix.toList <:+ role'.suffix.toList) : role = role' := by
  revert h
  cases role <;> cases role' <;> decide

theorem append_suffix_inj {role role' : TypeRole} {rest rest' : List Char}
    (h : rest ++ role.suffix.toList = rest' ++ role'.suffix.toList) :
    role = role' ∧ rest = rest' := by
  have hEither := List.suffix_or_suffix_of_suffix (List.suffix_append rest role.suffix.toList)
    (h ▸ List.suffix_append rest' role'.suffix.toList)
  obtain rfl : role = role' := by
    rcases hEither with hEnd | hEnd
    · exact suffix_isSuffix hEnd
    · exact (suffix_isSuffix hEnd).symm
  exact ⟨rfl, List.append_cancel_right h⟩

/-- What a name ends with belongs to its role alone, among the names of functions or among those of
types. -/
theorem append_back_inj {role role' : NameRole} {rest rest' : List Char}
    (hRole : role = .function ↔ role' = .function)
    (h : rest ++ (back role).toList = rest' ++ (back role').toList) :
    role = role' ∧ rest = rest' := by
  cases role with
  | function =>
      obtain rfl : role' = .function := hRole.mp rfl
      exact ⟨rfl, List.append_cancel_right h⟩
  | type role =>
      cases role' with
      | function => exact absurd (hRole.mpr rfl) (by simp)
      | type role' =>
          obtain ⟨rfl, hRest⟩ := append_suffix_inj h
          exact ⟨rfl, hRest⟩

/-- Two names are the same just when they are for the same, their methods are the same, and their
paths give the same. -/
theorem derive_eq_iff {role role' : NameRole} {m m' : Method} {path path' : String}
    {style style' : NamingStyle} :
    derive role m path style = derive role' m' path' style' ↔
      role = role' ∧ m = m' ∧ pathName style path = pathName style' path' := by
  rw [← String.toList_inj, derive_toList, derive_toList, List.append_assoc, List.append_assoc]
  constructor
  · intro h
    obtain ⟨hMethod, hFunction, hRest⟩ := front_append_inj h
    obtain ⟨hRole, hPath⟩ := append_back_inj hFunction hRest
    exact ⟨hRole, hMethod, hPath⟩
  · rintro ⟨rfl, rfl, hPath⟩
    rw [hPath]

/-- Two functions share their name just when they have one method, and their paths give the same. -/
theorem derive_function_eq_iff {m m' : Method} {path path' : String} {style : NamingStyle} :
    derive .function m path style = derive .function m' path' style ↔
      m = m' ∧ pathName style path = pathName style path' := by
  rw [derive_eq_iff, and_iff_right rfl]

/-! ### What a sanitized path gives -/

/-- The words of all segments are those that slashes and separators cut out together. -/
theorem pathName_sanitized (path : String) :
    pathName .sanitized path =
      (words (fun c => c = '/' || separatesWords c) path.toList).flatMap capitalizeList := by
  rw [← flatMap_words, List.flatMap_assoc]
  rfl

/-- A character of which a path is usually made: an ASCII letter or digit, a slash, or what
separates words. -/
def isPathChar (c : Char) : Bool :=
  c.isAlphanum || c = '/' || separatesWords c

/-- The runs of letters and digits in a path, each with a capital in front, in one. -/
def wordsName (path : String) : List Char :=
  (words (fun c => !c.isAlphanum) path.toList).flatMap capitalizeList

theorem separates_eq_not_isAlphanum {c : Char} (h : isPathChar c = true) :
    (c = '/' || separatesWords c) = !c.isAlphanum := by
  cases hAlphanum : c.isAlphanum with
  | false => simpa [isPathChar, hAlphanum] using h
  | true =>
      have hOther : ∀ d : Char, d.isAlphanum = false → c ≠ d := by
        rintro d hd rfl
        exact absurd (hd.symm.trans hAlphanum) (by simp)
      simp [separatesWords, hOther '/', hOther '{', hOther '}', hOther '-', hOther '.',
        hOther '_']

theorem pathName_eq_wordsName {path : String} (h : ∀ c ∈ path.toList, isPathChar c = true) :
    pathName .sanitized path = wordsName path := by
  rw [pathName_sanitized, wordsName]
  congr 1
  exact words_congr fun c hc => separates_eq_not_isAlphanum (h c hc)

theorem toNat_lt_of_isAlphanum {c : Char} (h : c.isAlphanum = true) : c.toNat < 128 := by
  have hBelow : c.val ≤ 'Z'.val ∨ c.val ≤ 'z'.val ∨ c.val ≤ '9'.val := by
    rcases (Bool.or_eq_true_iff ..).mp h with hAlpha | hDigit
    · rcases (Bool.or_eq_true_iff ..).mp hAlpha with hUpper | hLower
      · exact .inl (of_decide_eq_true hUpper).2
      · exact .inr (.inl (of_decide_eq_true (Bool.and_eq_true_iff.mp hLower).2))
    · exact .inr (.inr (of_decide_eq_true (Bool.and_eq_true_iff.mp hDigit).2))
  simp only [UInt32.le_iff_toNat_le] at hBelow
  have hNat : c.toNat = c.val.toNat := rfl
  have hLast : 'z'.val.toNat = 122 ∧ 'Z'.val.toNat = 90 ∧ '9'.val.toNat = 57 := by decide
  omega

/-- The capital of an ASCII letter or digit is one. -/
theorem isAlphanum_upper {c d : Char} (h : c.isAlphanum = true) (hd : d ∈ upper c) :
    d.isAlphanum = true := by
  have hAscii : ∀ n < 128, (Char.ofNat n).isAlphanum = true →
      (Char.ofNat n).toUpper.isAlphanum = true := by decide
  have hSmall := toNat_lt_of_isAlphanum h
  rw [upper, if_pos hSmall, List.mem_singleton] at hd
  rw [hd]
  simpa using hAscii c.toNat hSmall (by simpa using h)

theorem isAlphanum_of_mem_wordsName {path : String} {c : Char} (h : c ∈ wordsName path) :
    c.isAlphanum = true := by
  obtain ⟨w, hw, hc⟩ := List.mem_flatMap.mp h
  have hWord : ∀ d ∈ w, d.isAlphanum = true := fun d hd => by simpa using not_of_mem_words hw hd
  cases w with
  | nil => exact absurd hc List.not_mem_nil
  | cons d w =>
      rw [capitalizeList] at hc
      rcases List.mem_append.mp hc with hFirst | hRest
      · exact isAlphanum_upper (hWord d (List.mem_cons_self ..)) hFirst
      · exact hWord c (List.mem_cons_of_mem _ hRest)

/-- A path gives nothing just when it has neither letters nor digits. -/
theorem wordsName_eq_nil_iff {path : String} :
    wordsName path = [] ↔ ∀ c ∈ path.toList, c.isAlphanum = false := by
  have hSeparators : words (fun c => !c.isAlphanum) path.toList = [] ↔
      ∀ c ∈ path.toList, c.isAlphanum = false := by
    rw [words_eq_nil_iff]
    simp
  rw [← hSeparators, wordsName]
  constructor
  · intro h
    rw [List.eq_nil_iff_forall_not_mem]
    intro w hw
    have hWord := List.flatMap_eq_nil_iff.mp h w hw
    cases w with
    | nil => exact ne_nil_of_mem_words hw rfl
    | cons c w =>
        have hc : c.isAlphanum = true := by simpa using not_of_mem_words hw (List.mem_cons_self ..)
        rw [capitalizeList, upper, if_pos (toNat_lt_of_isAlphanum hc)] at hWord
        exact absurd hWord (by simp)
  · intro h
    rw [h, List.flatMap_nil]

/-- Only letters and digits stand in such a name. -/
theorem isAlphanum_of_mem_derive {role : NameRole} {m : Method} {path : String}
    (h : ∀ c ∈ path.toList, isPathChar c = true) {c : Char}
    (hc : c ∈ (derive role m path .sanitized).toList) : c.isAlphanum = true := by
  have hFront : (front role m).toList.all Char.isAlphanum = true := by
    cases role <;> simp only [front] <;> cases m <;> decide
  have hBack : (back role).toList.all Char.isAlphanum = true := by
    cases role with
    | function => decide
    | type role => cases role <;> decide
  rw [derive_toList, pathName_eq_wordsName h, List.mem_append, List.mem_append] at hc
  rcases hc with (hc | hc) | hc
  · exact List.all_eq_true.mp hFront c hc
  · exact isAlphanum_of_mem_wordsName hc
  · exact List.all_eq_true.mp hBack c hc

/-- Such a name can be written bare: it begins with a letter of a method, and letters and digits
follow. -/
theorem isBare_derive {role : NameRole} {m : Method} {path : String}
    (h : ∀ c ∈ path.toList, isPathChar c = true) :
    Script.isBare (derive role m path .sanitized) = true := by
  have hName := derive_toList role m path .sanitized
  have hParts : ∀ c ∈ (derive role m path .sanitized).toList, Script.isNamePart c = true := by
    intro c hc
    rw [Script.isNamePart, isAlphanum_of_mem_derive h hc]
    rfl
  have hStart : (front role m).toList.head?.any Script.isNameStart = true := by
    cases role <;> simp only [front] <;> cases m <;> decide
  cases hFront : (front role m).toList with
  | nil =>
      rw [hFront] at hStart
      cases hStart
  | cons c rest =>
      rw [hFront, List.head?_cons, Option.any_some] at hStart
      rw [hFront, List.cons_append, List.cons_append] at hName
      rw [hName] at hParts
      rw [Script.isBare, hName]
      dsimp only
      rw [Bool.and_eq_true_iff, List.all_eq_true]
      exact ⟨hStart, fun d hd => hParts d (List.mem_cons_of_mem _ hd)⟩

end TypedClient.Naming
