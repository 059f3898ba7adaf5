import Mathlib.Data.List.TakeWhile
import TypedClient.Proofs.Url.Percent
import TypedClient.Url.Parse

/-!
How the path of an address is read. Following dots adds nothing but empty segments; segments that
are no dots are kept as they are; and a text has neither a query nor a fragment just if it holds
neither of the signs they begin with.
-/

namespace TypedClient.Url

open Text

variable {kind : SchemeKind} {path ss : List String} {s : String} {c d : Char} {cs : List Char}

/-! ### Walking -/

theorem subset_shorten (kind : SchemeKind) (path : List String) : shorten kind path ⊆ path := by
  unfold shorten
  split
  · split
    · exact List.Subset.refl _
    · exact List.nil_subset _
  · exact List.dropLast_subset path

/-- A walk leads through segments that were there, or come with it, or through the empty one that
stands for a directory. -/
theorem mem_walk (hKind : kind ≠ .file) (h : s ∈ walk kind path ss) :
    s = "" ∨ s ∈ path ∨ s ∈ ss := by
  induction ss generalizing path with
  | nil => exact .inr (.inl h)
  | cons t ts ih =>
      have hEnd : ∀ {front : List String}, s ∈ (if ts = [] then front ++ [""] else front) →
          s ∈ front ∨ s = "" := by
        intro front hMem
        split at hMem
        · simpa using hMem
        · exact .inl hMem
      rw [walk] at h
      rcases ih h with hEmpty | hPath | hRest
      · exact .inl hEmpty
      · dsimp only at hPath
        split at hPath
        · exact (hEnd hPath).elim (fun hMem => .inr (.inl (subset_shorten kind path hMem))) .inl
        split at hPath
        · exact (hEnd hPath).elim (fun hMem => .inr (.inl hMem)) .inl
        rw [if_neg fun hFile => hKind hFile.1, List.mem_append, List.mem_singleton] at hPath
        exact hPath.elim (fun hMem => .inr (.inl hMem))
          fun hNew => .inr (.inr (hNew ▸ List.mem_cons_self ..))
      · exact .inr (.inr (List.mem_cons_of_mem _ hRest))

/-- Where nothing is a dot, all is kept. -/
theorem walk_of_forall (hKind : kind ≠ .file)
    (h : ∀ s ∈ ss, isSingleDot s = false ∧ isDoubleDot s = false) :
    walk kind path ss = path ++ ss := by
  induction ss generalizing path with
  | nil => rw [walk, List.append_nil]
  | cons t ts ih =>
      obtain ⟨hSingle, hDouble⟩ := h t (List.mem_cons_self ..)
      rw [walk, hSingle, hDouble, if_neg Bool.false_ne_true, if_neg Bool.false_ne_true,
        if_neg fun hFile => hKind hFile.1, ih fun s hs => h s (List.mem_cons_of_mem _ hs),
        List.append_assoc, List.singleton_append]

/-! ### Dots -/

/-- A capital letter is 32 places in front of its small one; nothing else is changed. -/
theorem toLower_cases (c : Char) :
    c.toLower = c ∨ (65 ≤ c.toNat ∧ c.toNat ≤ 90 ∧ c.toLower.toNat = c.toNat + 32) := by
  unfold Char.toLower
  split
  · next hUpper =>
    have hLow : 65 ≤ c.toNat := UInt32.le_iff_toNat_le.mp hUpper.1
    have hHigh : c.toNat ≤ 90 := UInt32.le_iff_toNat_le.mp hUpper.2
    refine .inr ⟨hLow, hHigh, ?_⟩
    show (c.val + 32).toNat = c.toNat + 32
    rw [UInt32.toNat_add]
    exact Nat.mod_eq_of_lt (show c.toNat + 32 < 2 ^ 32 by omega)
  · exact .inl rfl

theorem isUpper_iff : c.isUpper = true ↔ 65 ≤ c.toNat ∧ c.toNat ≤ 90 :=
  decide_eq_true_iff.trans (and_congr UInt32.le_iff_toNat_le UInt32.le_iff_toNat_le)

theorem isLower_iff : c.isLower = true ↔ 97 ≤ c.toNat ∧ c.toNat ≤ 122 :=
  Bool.and_eq_true_iff.trans (and_congr (decide_eq_true_iff.trans UInt32.le_iff_toNat_le)
    (decide_eq_true_iff.trans UInt32.le_iff_toNat_le))

theorem eq_of_toLower (h : c.toLower = d) (hd : d.isLower = false) : c = d := by
  rcases toLower_cases c with hSame | ⟨hLow, hHigh, hNat⟩
  · rw [← hSame, h]
  · rw [h] at hNat
    have hLower : d.isLower = true := isLower_iff.mpr (by omega)
    rw [hLower] at hd
    cases hd

/-- A capital letter is the digit that its small one is. -/
theorem hexDigitValue?_of_toLower (h : c.toLower = 'e') : hexDigitValue? c = some 14 := by
  rcases toLower_cases c with hSame | ⟨-, -, hNat⟩
  · rw [← hSame, h]
    rfl
  · have hCapital : c.toNat = 69 := by
      rw [h] at hNat
      exact Nat.add_right_cancel hNat.symm
    rw [← Char.ofNat_toNat c, hCapital]
    rfl

/-- A dot, as it is or as an escape, in front of what is read like a text. -/
theorem percentDecode_of_dot {mark ds : List Char} (hMark : mark = ['.'] ∨ mark = ['%', '2', 'e'])
    (h : cs.map Char.toLower = mark ++ ds) :
    ∃ rest, rest.map Char.toLower = ds ∧
      percentDecode cs = '.'.toNat.toUInt8 :: percentDecode rest := by
  rcases hMark with rfl | rfl
  · obtain ⟨c, rest, rfl, hc, hRest⟩ := List.map_eq_cons_iff.mp h
    have hDot : c = '.' := eq_of_toLower hc rfl
    subst hDot
    exact ⟨rest, hRest, percentDecode_cons fun hSign => absurd hSign (by decide)⟩
  · obtain ⟨c, cs, rfl, hc, h⟩ := List.map_eq_cons_iff.mp h
    obtain ⟨a, cs, rfl, ha, h⟩ := List.map_eq_cons_iff.mp h
    obtain ⟨b, rest, rfl, hb, hRest⟩ := List.map_eq_cons_iff.mp h
    have hSign : c = '%' := eq_of_toLower hc rfl
    have hTwo : a = '2' := eq_of_toLower ha rfl
    subst hSign hTwo
    have hTwo : hexDigitValue? '2' = some 2 := rfl
    exact ⟨rest, hRest, percentDecode_escape hTwo (hexDigitValue?_of_toLower hb) rest⟩

/-- Dots stand for dots, in whatever way they are written. -/
theorem percentDecode_of_isSingleDot (h : isSingleDot s = true) :
    percentDecode s.toList = encodeUtf8 ['.'] := by
  obtain ⟨mark, hMark, hList⟩ : ∃ mark, (mark = ['.'] ∨ mark = ['%', '2', 'e']) ∧
      s.toList.map Char.toLower = mark ++ [] := by
    rw [← String.toList_map]
    simp only [isSingleDot, List.contains_eq_mem, List.mem_cons, List.not_mem_nil, or_false,
      decide_eq_true_eq] at h
    rcases h with h | h
    · exact ⟨_, .inl rfl, congrArg String.toList h⟩
    · exact ⟨_, .inr rfl, congrArg String.toList h⟩
  obtain ⟨rest, hRest, hDecoded⟩ := percentDecode_of_dot hMark hList
  rw [hDecoded, List.map_eq_nil_iff.mp hRest]
  rfl

theorem percentDecode_of_isDoubleDot (h : isDoubleDot s = true) :
    percentDecode s.toList = encodeUtf8 ['.', '.'] := by
  obtain ⟨first, hFirst, second, hSecond, hList⟩ :
      ∃ first, (first = ['.'] ∨ first = ['%', '2', 'e']) ∧
        ∃ second, (second = ['.'] ∨ second = ['%', '2', 'e']) ∧
          s.toList.map Char.toLower = first ++ (second ++ []) := by
    rw [← String.toList_map]
    simp only [isDoubleDot, List.contains_eq_mem, List.mem_cons, List.not_mem_nil, or_false,
      decide_eq_true_eq] at h
    rcases h with h | h | h | h
    · exact ⟨_, .inl rfl, _, .inl rfl, congrArg String.toList h⟩
    · exact ⟨_, .inl rfl, _, .inr rfl, congrArg String.toList h⟩
    · exact ⟨_, .inr rfl, _, .inl rfl, congrArg String.toList h⟩
    · exact ⟨_, .inr rfl, _, .inr rfl, congrArg String.toList h⟩
  obtain ⟨rest, hRest, hDecoded⟩ := percentDecode_of_dot hFirst hList
  obtain ⟨rest, hNone, hAgain⟩ := percentDecode_of_dot hSecond hRest
  rw [hDecoded, hAgain, List.map_eq_nil_iff.mp hNone]
  rfl

/-- What stands for another name is no dot. -/
theorem not_dots_of_percentDecode {name : String}
    (h : percentDecode s.toList = encodeUtf8 name.toList) (hHere : name ≠ ".")
    (hAbove : name ≠ "..") : isSingleDot s = false ∧ isDoubleDot s = false := by
  constructor
  · rw [Bool.eq_false_iff]
    intro hDot
    rw [percentDecode_of_isSingleDot hDot] at h
    exact hHere (String.toList_injective (encodeUtf8_injective h).symm)
  · rw [Bool.eq_false_iff]
    intro hDot
    rw [percentDecode_of_isDoubleDot hDot] at h
    exact hAbove (String.toList_injective (encodeUtf8_injective h).symm)

/-! ### Query and fragment -/

theorem percentEncode_eq_nil_iff {p : Part} : percentEncode p cs = [] ↔ cs = [] := by
  constructor
  · intro h
    cases cs with
    | nil => rfl
    | cons c cs =>
        cases hc : p.encodes c with
        | false =>
            rw [percentEncode_cons_of_not_encodes hc] at h
            cases h
        | true =>
            obtain ⟨byte, bytes, hBytes⟩ :=
              List.exists_cons_of_ne_nil (String.utf8EncodeChar_ne_nil (c := c))
            rw [percentEncode_cons_of_encodes hc, hBytes] at h
            cases h
  · rintro rfl
    rfl

theorem takeTrail_of_forall (kind : SchemeKind) (h : ∀ c ∈ cs, c ≠ '?' ∧ c ≠ '#') :
    takeTrail kind cs = (cs, none, none) := by
  have hAll : ∀ c ∈ cs, (c ≠ '?' && c ≠ '#') = true := fun c hc => by simp [h c hc]
  rw [takeTrail, List.dropWhile_eq_nil_iff.mpr hAll, List.takeWhile_eq_self_iff.mpr hAll]

/-- Where no fragment is read and no query but perhaps an empty one, the text holds no sign that
begins one, unless it ends with such a sign. -/
theorem forall_of_takeTrail {front : List Char} {query : Option String}
    (hEnd : cs.getLast? ≠ some '?') (h : takeTrail kind cs = (front, query, none))
    (hQuery : query = none ∨ query = some "") : ∀ c ∈ cs, c ≠ '?' ∧ c ≠ '#' := by
  have hFront : ∀ c ∈ cs.takeWhile (fun c => c ≠ '?' && c ≠ '#'), c ≠ '?' ∧ c ≠ '#' :=
    fun c hc => by simpa using List.mem_takeWhile_imp hc
  have hSplit := cs.takeWhile_append_dropWhile (p := fun c => c ≠ '?' && c ≠ '#')
  unfold takeTrail at h
  dsimp only at h
  split at h
  · next rest hRest =>
    -- a query that is empty, with nothing behind it, ends the text with its sign
    split at h
    · cases h
    next hNoFragment =>
    have hEmpty : rest.takeWhile (· ≠ '#') = [] := by
      rw [Prod.mk.injEq, Prod.mk.injEq] at h
      rcases hQuery with rfl | rfl
      · cases h.2.1
      · have hText := congrArg String.toList (Option.some.inj h.2.1)
        rw [String.toList_ofList] at hText
        exact percentEncode_eq_nil_iff.mp hText
    have hNothing : rest = [] := by
      cases rest with
      | nil => rfl
      | cons c rest =>
          by_cases hc : c = '#'
          · subst hc
            exact absurd rfl (hNoFragment rest)
          · simp [hc] at hEmpty
    rw [hRest, hNothing] at hSplit
    exact absurd (by rw [← hSplit, List.getLast?_concat]) hEnd
  · cases h
  · next hNoQuery hNoFragment =>
    cases hBehind : cs.dropWhile fun c => c ≠ '?' && c ≠ '#' with
    | nil =>
        rw [hBehind, List.append_nil] at hSplit
        rw [← hSplit]
        exact hFront
    | cons c rest =>
        have hSign : c = '?' ∨ c = '#' := by
          have hHead := List.head?_dropWhile_not (fun c => c ≠ '?' && c ≠ '#') cs
          rw [hBehind] at hHead
          simpa [or_iff_not_imp_left] using hHead
        rcases hSign with rfl | rfl
        · exact absurd hBehind (hNoQuery rest)
        · exact absurd hBehind (hNoFragment rest)
end TypedClient.Url
