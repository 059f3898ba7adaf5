import Mathlib.Data.List.Basic
import TypedClient.Proofs.Naming.Operations

/-!
The words of a path. A path is cut at slashes first and each segment at further separators, but in
the sanitized style all that is left of this are the runs of letters and digits. Main statement: the
names of an operation are spelled from these runs alone, so it does not matter how a path separates,
encloses or repeats them.
-/

namespace TypedClient.Naming

open Text

/-- What stands between the words of a path. -/
def pathSeparators : List Char := ['/', '{', '}', '-', '.', '_']

/-- A path of ASCII letters, digits and separators. -/
def IsPlainPath (path : String) : Prop :=
  ∀ c ∈ path.toList, c.isAlphanum = true ∨ c ∈ pathSeparators

theorem isPathChar_iff {c : Char} :
    isPathChar c = true ↔ c.isAlphanum = true ∨ c ∈ pathSeparators := by
  simp [isPathChar, separatesWords, pathSeparators, or_assoc]

theorem IsPlainPath.isPathChar {path : String} (h : IsPlainPath path) :
    ∀ c ∈ path.toList, isPathChar c = true :=
  fun c hc => isPathChar_iff.mpr (h c hc)

/-- A word with its first character in upper case, if it has an ASCII one. -/
def raised : List Char → List Char
  | [] => []
  | c :: cs => c.toUpper :: cs

/-- Words in one, each with its first character in upper case. -/
def joinedWords (words : List (List Char)) : String :=
  String.ofList (words.flatMap raised)

theorem capitalizeList_eq_raised {w : List Char} (h : ∀ c ∈ w, c.isAlphanum = true) :
    capitalizeList w = raised w := by
  cases w with
  | nil => rfl
  | cons c w =>
      have hSmall := toNat_lt_of_isAlphanum (h c (List.mem_cons_self ..))
      rw [capitalizeList, upper, if_pos hSmall]
      rfl

theorem pathName_eq_joinedWords {path : String} (h : IsPlainPath path) :
    String.ofList (pathName .sanitized path) =
      joinedWords (words (fun c => !c.isAlphanum) path.toList) := by
  rw [pathName_eq_wordsName h.isPathChar, wordsName, joinedWords]
  congr 1
  apply List.flatMap_congr
  intro w hw
  apply capitalizeList_eq_raised
  intro c hc
  simpa using not_of_mem_words hw hc

/-- Two plain paths with the same words give the same names. -/
theorem derive_congr_words {path other : String} (h : IsPlainPath path) (hOther : IsPlainPath other)
    (hWords : words (fun c => !c.isAlphanum) other.toList =
      words (fun c => !c.isAlphanum) path.toList) (role : NameRole) (m : Method) :
    derive role m other .sanitized = derive role m path .sanitized := by
  rw [derive, derive, pathName_eq_joinedWords h, pathName_eq_joinedWords hOther, hWords]

/-- Under a path of ASCII letters, digits and separators, a sanitized name is spelled by the word of
the method, then the runs of letters and digits in the path, each as long as it can be and with its
first character in upper case, and for a type by what its role ends with. So it has letters and
digits only, it can stand bare, and every other such path with the same runs gives the same name. -/
theorem names_spell_runs (m : Method) (path : String) (h : IsPlainPath path) :
    ∃ runs, (∀ ws, Runs Char.isAlphanum path.toList ws ↔ ws = runs) ∧
      derive .function m path .sanitized = m.lower ++ joinedWords runs ∧
      (∀ role : TypeRole, derive (.type role) m path .sanitized =
        m.capital ++ joinedWords runs ++ role.suffix) ∧
      ∀ role : NameRole,
        Script.isBare (derive role m path .sanitized) = true ∧
        (∀ c ∈ (derive role m path .sanitized).toList,
          c.isAlphanum = true ∧ c ∉ pathSeparators) ∧
        ∀ other, IsPlainPath other → Runs Char.isAlphanum other.toList runs →
          derive role m other .sanitized = derive role m path .sanitized := by
  refine ⟨words (fun c => !c.isAlphanum) path.toList, fun ws => runs_iff, ?_, ?_, fun role =>
    ⟨isBare_derive h.isPathChar, ?_, ?_⟩⟩
  · rw [derive, pathName_eq_joinedWords h]
    exact String.append_empty
  · intro role
    rw [derive, pathName_eq_joinedWords h]
    rfl
  · intro c hc
    have hAlphanum := isAlphanum_of_mem_derive h.isPathChar hc
    refine ⟨hAlphanum, ?_⟩
    intro hSeparator
    have hNone : pathSeparators.all fun c => !c.isAlphanum := by decide
    simpa [hAlphanum] using List.all_eq_true.mp hNone c hSeparator
  · intro other hOther hRuns
    exact derive_congr_words h hOther (runs_iff.mp hRuns).symm role m

/-- A path with every separator, in front, behind, doubled and around a word, and one with the same
words that has nothing but slashes. -/
theorem trips_spell_runs :
    IsPlainPath "//trip-s/\x7btrip_id\x7d//v1.2/" ∧
    ∃ runs, runs = ["trip".toList, "s".toList, "trip".toList, "id".toList, "v1".toList,
        "2".toList] ∧
      derive .function .get "//trip-s/\x7btrip_id\x7d//v1.2/" .sanitized =
        Method.get.lower ++ joinedWords runs ∧
      Script.isBare (derive .function .get "//trip-s/\x7btrip_id\x7d//v1.2/" .sanitized) = true ∧
      derive .function .get "trip/s/trip/id/v1/2" .sanitized =
        derive .function .get "//trip-s/\x7btrip_id\x7d//v1.2/" .sanitized := by
  have hPlain : ∀ path : String,
      path.toList.all (fun c => c.isAlphanum || pathSeparators.contains c) = true →
        IsPlainPath path := by
    intro path hAll c hc
    simpa using List.all_eq_true.mp hAll c hc
  have hTrips := hPlain "//trip-s/\x7btrip_id\x7d//v1.2/" (by decide)
  obtain ⟨runs, hRuns, hName, -, hUse⟩ := names_spell_runs .get _ hTrips
  have hWords : runs = words (fun c => !c.isAlphanum) "//trip-s/\x7btrip_id\x7d//v1.2/".toList :=
    runs_iff.mp ((hRuns runs).mpr rfl)
  obtain ⟨hBare, -, hSame⟩ := hUse .function
  refine ⟨hTrips, runs, hWords.trans (by decide), hName, hBare, hSame _ (hPlain _ (by decide)) ?_⟩
  rw [runs_iff, hWords]
  decide

end TypedClient.Naming
