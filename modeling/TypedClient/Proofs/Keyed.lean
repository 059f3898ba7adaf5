import Mathlib.Data.List.Forall2
import Mathlib.Data.List.Induction
import TypedClient.Keyed

/-!
Entries under keys: what looking up finds was put there, and writing entries one after the other
leaves every key where it first occurred, with its last entry.
-/

namespace TypedClient.Keyed

variable {κ α β : Type} [DecidableEq κ]

/-- What is found under a key is an entry. -/
theorem mem_of_get? {entries : Keyed κ α} {key : κ} {a : α} (h : entries.get? key = some a) :
    (key, a) ∈ entries := by
  induction entries with
  | nil => exact absurd h (by simp [get?])
  | cons e rest ih =>
      rcases e with ⟨k, b⟩
      rw [get?] at h
      split at h
      · next hKey =>
          cases h
          rw [hKey]
          exact List.mem_cons_self ..
      · exact List.mem_cons_of_mem _ (ih h)

/-- An entry is found under its key, if no other has that key. -/
theorem get?_of_mem {entries : Keyed κ α} {key : κ} {a : α}
    (hNodup : (entries.map (·.1)).Nodup) (h : (key, a) ∈ entries) : entries.get? key = some a := by
  induction entries with
  | nil => exact absurd h List.not_mem_nil
  | cons e rest ih =>
      rcases e with ⟨k, b⟩
      rw [List.map_cons, List.nodup_cons] at hNodup
      rw [get?]
      rcases List.mem_cons.mp h with hHead | hRest
      · cases hHead
        rw [if_pos rfl]
      · rw [if_neg, ih hNodup.2 hRest]
        rintro rfl
        exact hNodup.1 (List.mem_map.mpr ⟨_, hRest, rfl⟩)

theorem get?_map (f : α → β) (entries : Keyed κ α) (key : κ) :
    get? (entries.map (Prod.map id f)) key = (entries.get? key).map f := by
  induction entries with
  | nil => rfl
  | cons e rest ih =>
      rcases e with ⟨k, a⟩
      rw [List.map_cons, Prod.map, get?, get?]
      by_cases h : k = key <;> simp [h, ih]

/-- An entry is missing if no entry has its key. -/
theorem get?_eq_none_iff {entries : Keyed κ α} {key : κ} :
    entries.get? key = none ↔ key ∉ entries.map (·.1) := by
  induction entries with
  | nil => simp [get?]
  | cons e rest ih =>
      rcases e with ⟨other, b⟩
      rw [get?, List.map_cons, List.mem_cons, not_or, ← ih]
      by_cases hOther : other = key
      · simp [hOther]
      · simp [hOther, Ne.symm hOther]

/-! ### Known keys -/

/-- Of the known keys, each is there at most once. -/
def Once (known : List κ) (entries : Keyed κ α) : Prop :=
  ((entries.map (·.1)).filter known.contains).Nodup

section Once

variable {known : List κ} {key : κ} {a : α} {entries entries' : Keyed κ α}

instance : Decidable (Once known entries) :=
  inferInstanceAs (Decidable (List.Nodup _))

theorem once_cons_known (h : key ∈ known) :
    Once known ((key, a) :: entries) ↔ key ∉ entries.map (·.1) ∧ Once known entries := by
  have hKnown : known.contains key = true := List.contains_iff_mem.mpr h
  rw [Once, List.map_cons, List.filter_cons_of_pos hKnown, List.nodup_cons, List.mem_filter,
    hKnown, and_iff_left rfl]
  rfl

theorem once_cons_unknown (h : key ∉ known) :
    Once known ((key, a) :: entries) ↔ Once known entries := by
  have hUnknown : known.contains key ≠ true := mt List.contains_iff_mem.mp h
  rw [Once, List.map_cons, List.filter_cons_of_neg hUnknown]
  rfl

theorem Once.tail (h : Once known ((key, a) :: entries)) : Once known entries := by
  by_cases hKnown : key ∈ known
  · exact ((once_cons_known hKnown).mp h).2
  · exact (once_cons_unknown hKnown).mp h

theorem Once.perm (h : Once known entries) (hPerm : entries.Perm entries') : Once known entries' :=
  ((hPerm.map _).filter _).nodup_iff.mp h

/-- An entry under a key that is there once is found wherever it stands. -/
theorem Once.get?_of_mem (h : Once known entries) (hKey : key ∈ known)
    (hMem : (key, a) ∈ entries) : get? entries key = some a := by
  induction entries with
  | nil => exact absurd hMem List.not_mem_nil
  | cons e rest ih =>
      rcases e with ⟨other, b⟩
      rw [get?]
      rcases List.mem_cons.mp hMem with hHead | hRest
      · cases hHead
        rw [if_pos rfl]
      · rw [if_neg, ih h.tail hRest]
        rintro rfl
        exact ((once_cons_known hKey).mp h).1 (List.mem_map.mpr ⟨_, hRest, rfl⟩)

theorem Once.get?_perm (h : Once known entries) (hPerm : entries.Perm entries')
    (hKey : key ∈ known) : get? entries' key = get? entries key := by
  cases hGet : get? entries key with
  | none =>
      rw [get?_eq_none_iff] at hGet ⊢
      rwa [← (hPerm.map _).mem_iff]
  | some a => exact (h.perm hPerm).get?_of_mem hKey (hPerm.mem_iff.mp (mem_of_get? hGet))

end Once

/-! ### Last entries -/

/-- The last entry under a key. -/
def last? (entries : List (κ × α)) (key : κ) : Option α :=
  (entries.filter (·.1 = key)).getLast?.map (·.2)

/-- Each key once, where it first occurs, with its last entry. -/
def lastAtFirst (entries : List (κ × α)) : List (κ × α) :=
  (entries.map (·.1)).eraseDups.filterMap fun key => (last? entries key).map (key, ·)

theorem last?_append_single (entries : List (κ × α)) (e : κ × α) (key : κ) :
    last? (entries ++ [e]) key = if e.1 = key then some e.2 else last? entries key := by
  rw [last?, List.filter_append]
  by_cases h : e.1 = key
  · simp [h]
  · simp [h, last?]

theorem last?_map (f : α → β) (entries : List (κ × α)) (key : κ) :
    last? (entries.map (Prod.map id f)) key = (last? entries key).map f := by
  induction entries using List.reverseRecOn with
  | nil => rfl
  | append_singleton entries e ih =>
      rw [List.map_append, List.map_singleton, last?_append_single, last?_append_single, ih]
      by_cases h : e.1 = key <;> simp [h]

theorem last?_isSome {entries : List (κ × α)} {key : κ} (h : key ∈ entries.map (·.1)) :
    ∃ a, last? entries key = some a := by
  obtain ⟨e, hMem, hKey⟩ := List.mem_map.mp h
  have hFilter : entries.filter (·.1 = key) ≠ [] := by
    apply List.ne_nil_of_mem
    exact List.mem_filter.mpr ⟨hMem, by simpa using hKey⟩
  exact ⟨_, by rw [last?, List.getLast?_eq_some_getLast hFilter]; rfl⟩

/-- Putting an entry under a key that stands among others changes that entry only. -/
theorem put_of_mem {key : κ} (a : α) {entries : Keyed κ α} (h : key ∈ entries.map (·.1))
    (hNodup : (entries.map (·.1)).Nodup) :
    put key a entries = entries.map fun e => if e.1 = key then (key, a) else e := by
  induction entries with
  | nil => exact absurd h List.not_mem_nil
  | cons e rest ih =>
      rcases e with ⟨k, b⟩
      rw [List.map_cons, List.nodup_cons] at hNodup
      rw [put, List.map_cons]
      by_cases hKey : k = key
      · subst hKey
        rw [if_pos rfl, if_pos rfl]
        have hOthers : rest.map (fun e => if e.1 = k then (k, a) else e) = rest.map id := by
          apply List.map_congr_left
          intro e hMem
          rw [if_neg, id]
          intro hEq
          exact hNodup.1 (List.mem_map.mpr ⟨e, hMem, hEq⟩)
        rw [hOthers, List.map_id]
      · rw [if_neg hKey, if_neg hKey, ih _ hNodup.2]
        rcases List.mem_cons.mp h with hEq | hRest
        · exact absurd hEq.symm hKey
        · exact hRest

/-- Putting an entry under a new key puts it at the end. -/
theorem put_of_not_mem {key : κ} (a : α) {entries : Keyed κ α} (h : key ∉ entries.map (·.1)) :
    put key a entries = entries ++ [(key, a)] := by
  induction entries with
  | nil => rfl
  | cons e rest ih =>
      rcases e with ⟨k, b⟩
      rw [List.map_cons, List.mem_cons, not_or] at h
      rw [put, if_neg (fun hEq => h.1 hEq.symm), ih h.2, List.cons_append]

theorem eraseDups_append_single (keys : List κ) (key : κ) :
    (keys ++ [key]).eraseDups = keys.eraseDups ++ if key ∈ keys then [] else [key] := by
  rw [List.eraseDups_append, List.cons_removeAll, List.nil_removeAll]
  by_cases h : key ∈ keys <;> simp [h, List.eraseDups_cons]

theorem nodup_eraseDups (keys : List κ) : keys.eraseDups.Nodup := by
  induction keys using List.reverseRecOn with
  | nil => exact List.nodup_nil
  | append_singleton keys key ih =>
      rw [eraseDups_append_single]
      split
      · simpa using ih
      · next h =>
          rw [List.nodup_append]
          refine ⟨ih, List.pairwise_singleton _ key, ?_⟩
          intro k hk l hl hEq
          rw [List.mem_singleton.mp hl] at hEq
          exact h (List.mem_eraseDups.mp (hEq ▸ hk))

/-- These keys are those that occur, each once, and a key whose first occurrence is earlier stands
in front. -/
structure InFirstOrder (keys occurrences : List κ) : Prop where
  mem_iff : ∀ key, key ∈ keys ↔ key ∈ occurrences
  ordered : keys.Pairwise fun key later => occurrences.idxOf key < occurrences.idxOf later

theorem InFirstOrder.nodup {keys occurrences : List κ} (h : InFirstOrder keys occurrences) :
    keys.Nodup := by
  refine h.ordered.imp fun hLess => ?_
  rintro rfl
  exact Nat.lt_irrefl _ hLess

theorem inFirstOrder_eraseDups (occurrences : List κ) :
    InFirstOrder occurrences.eraseDups occurrences := by
  refine ⟨fun _ => List.mem_eraseDups, ?_⟩
  induction occurrences using List.reverseRecOn with
  | nil => exact List.Pairwise.nil
  | append_singleton earlier key ih =>
      -- the first place of what occurs already is not changed by one more occurrence
      have hEarlier : earlier.eraseDups.Pairwise fun k later =>
          (earlier ++ [key]).idxOf k < (earlier ++ [key]).idxOf later := by
        refine ih.imp_of_mem fun hk hLater hLess => ?_
        rwa [List.idxOf_append_of_mem (List.mem_eraseDups.mp hk),
          List.idxOf_append_of_mem (List.mem_eraseDups.mp hLater)]
      rw [eraseDups_append_single]
      split
      · rwa [List.append_nil]
      · next hNew =>
          refine List.pairwise_append.mpr ⟨hEarlier, List.pairwise_singleton _ key, ?_⟩
          intro k hk later hLater
          have hOld := List.mem_eraseDups.mp hk
          rw [List.mem_singleton.mp hLater, List.idxOf_append_of_mem hOld,
            List.idxOf_append_of_notMem hNew]
          exact Nat.lt_add_right _ (List.idxOf_lt_length_of_mem hOld)

theorem lastAtFirst_keys (entries : List (κ × α)) :
    (lastAtFirst entries).map (·.1) = (entries.map (·.1)).eraseDups := by
  have hKeys : ∀ keys : List κ, (∀ key ∈ keys, key ∈ entries.map (·.1)) →
      (keys.filterMap fun key => (last? entries key).map (key, ·)).map (·.1) = keys := by
    intro keys hAll
    induction keys with
    | nil => rfl
    | cons key keys ih =>
        obtain ⟨a, ha⟩ := last?_isSome (hAll key (List.mem_cons_self ..))
        have hRest := ih fun k hk => hAll k (List.mem_cons_of_mem _ hk)
        rw [List.filterMap_cons, ha, Option.map_some]
        dsimp only
        rw [List.map_cons, hRest]
  exact hKeys _ fun key hKey => List.mem_eraseDups.mp hKey

theorem last?_of_mem_lastAtFirst {entries : List (κ × α)} {e : κ × α}
    (h : e ∈ lastAtFirst entries) : last? entries e.1 = some e.2 := by
  obtain ⟨key, -, hLast⟩ := List.mem_filterMap.mp h
  obtain ⟨a, ha, rfl⟩ := Option.map_eq_some_iff.mp hLast
  exact ha

theorem lastAtFirst_map (f : α → β) (entries : List (κ × α)) :
    lastAtFirst (entries.map (Prod.map id f)) = (lastAtFirst entries).map (Prod.map id f) := by
  have hKeys : (entries.map (Prod.map id f)).map (·.1) = entries.map (·.1) := by
    rw [List.map_map]
    rfl
  rw [lastAtFirst, lastAtFirst, hKeys, List.map_filterMap]
  apply List.filterMap_congr
  intro key _
  rw [last?_map, Option.map_map, Option.map_map]
  rfl

/-- Writing entries one after the other leaves each key where it first occurs, with its last
entry. -/
theorem ofEntries_eq_lastAtFirst (entries : List (κ × α)) :
    ofEntries entries = lastAtFirst entries := by
  induction entries using List.reverseRecOn with
  | nil => rfl
  | append_singleton entries e ih =>
      rcases e with ⟨key, a⟩
      have hPut : ofEntries (entries ++ [(key, a)]) = put key a (lastAtFirst entries) := by
        rw [ofEntries, List.foldl_append, ← ih]
        rfl
      have hKeys := lastAtFirst_keys entries
      rw [hPut, lastAtFirst.eq_def (entries ++ _), List.map_append, List.map_cons, List.map_nil,
        eraseDups_append_single, List.filterMap_append]
      by_cases hMem : key ∈ entries.map (·.1)
      · have hIn : key ∈ (lastAtFirst entries).map (·.1) := by
          rw [hKeys]
          exact List.mem_eraseDups.mpr hMem
        rw [put_of_mem a hIn (hKeys ▸ nodup_eraseDups _), if_pos hMem, List.filterMap_nil,
          List.append_nil, lastAtFirst, List.map_filterMap]
        congr 1
        funext k
        rw [last?_append_single]
        by_cases hk : key = k
        · subst hk
          obtain ⟨b, hb⟩ := last?_isSome hMem
          rw [if_pos rfl, hb]
          simp
        · rw [if_neg hk]
          cases last? entries k with
          | none => rfl
          | some b => simp [Ne.symm hk]
      · have hNotIn : key ∉ (lastAtFirst entries).map (·.1) := by
          rw [hKeys]
          exact fun h => hMem (List.mem_eraseDups.mp h)
        rw [put_of_not_mem a hNotIn, if_neg hMem, lastAtFirst, List.filterMap_cons,
          List.filterMap_nil, last?_append_single, if_pos rfl]
        congr 1
        apply List.filterMap_congr
        intro k hk
        rw [last?_append_single, if_neg]
        rintro rfl
        exact hMem (List.mem_eraseDups.mp hk)

theorem put_append_of_not_mem {key : κ} (a : α) {front : Keyed κ α} (back : Keyed κ α)
    (h : key ∉ front.map (·.1)) : put key a (front ++ back) = front ++ put key a back := by
  induction front with
  | nil => rfl
  | cons e rest ih =>
      rcases e with ⟨k, b⟩
      rw [List.map_cons, List.mem_cons, not_or] at h
      rw [List.cons_append, put, if_neg (fun hEq => h.1 hEq.symm), ih h.2, List.cons_append]

theorem mem_keys_ofEntries {entries : List (κ × α)} {key : κ} :
    key ∈ (ofEntries entries).map (·.1) ↔ key ∈ entries.map (·.1) := by
  rw [ofEntries_eq_lastAtFirst, lastAtFirst_keys, List.mem_eraseDups]

/-- Entries under other keys are written behind those that stand already. -/
theorem ofEntries_append {front back : List (κ × α)}
    (h : ∀ key ∈ front.map (·.1), key ∉ back.map (·.1)) :
    ofEntries (front ++ back) = ofEntries front ++ ofEntries back := by
  have hStep : ∀ (entries : List (κ × α)) (e : κ × α),
      ofEntries (entries ++ [e]) = put e.1 e.2 (ofEntries entries) := by
    intro entries e
    rw [ofEntries, List.foldl_append]
    rfl
  induction back using List.reverseRecOn with
  | nil =>
      rw [List.append_nil]
      exact (List.append_nil _).symm
  | append_singleton back e ih =>
      rw [List.map_append] at h
      have hNew : e.1 ∉ (ofEntries front).map (·.1) := by
        rw [mem_keys_ofEntries]
        exact fun hFront => h e.1 hFront (List.mem_append_right _ (List.mem_singleton_self _))
      have hRest : ∀ key ∈ front.map (·.1), key ∉ back.map (·.1) :=
        fun key hKey hBack => h key hKey (List.mem_append_left _ hBack)
      rw [← List.append_assoc, hStep, hStep, ih hRest, put_append_of_not_mem e.2 _ hNew]

/-- After writing entries one after the other, the last one is found. -/
theorem get?_ofEntries (entries : List (κ × α)) (key : κ) :
    (ofEntries entries).get? key = last? entries key := by
  induction entries using List.reverseRecOn with
  | nil => rfl
  | append_singleton entries e ih =>
      have hPut : ofEntries (entries ++ [e]) = put e.1 e.2 (ofEntries entries) := by
        rw [ofEntries, List.foldl_append]
        rfl
      rw [hPut, get?_put, last?_append_single, ih]
      by_cases h : key = e.1
      · rw [if_pos h, if_pos h.symm]
      · rw [if_neg h, if_neg (Ne.symm h)]

/-- In entries that agree one by one, what is found under a key does. -/
theorem rel_get? {R : α → β → Prop} {as : Keyed κ α} {bs : Keyed κ β}
    (h : List.Forall₂ (fun x y => x.1 = y.1 ∧ R x.2 y.2) as bs) (key : κ) :
    Option.Rel R (as.get? key) (bs.get? key) := by
  induction h with
  | nil => exact Option.Rel.none
  | @cons x y as bs hHead _ ih =>
      rcases x with ⟨k, a⟩
      rcases y with ⟨l, b⟩
      obtain ⟨hKey, hab⟩ := hHead
      dsimp only at hKey hab
      subst hKey
      rw [get?, get?]
      split
      · exact Option.Rel.some hab
      · exact ih

/-- Entries that agree one by one still do so after they were written one after the other. -/
theorem forall₂_ofEntries {R : α → β → Prop} {as : List (κ × α)} {bs : List (κ × β)}
    (h : List.Forall₂ (fun x y => x.1 = y.1 ∧ R x.2 y.2) as bs) :
    List.Forall₂ (fun x y => x.1 = y.1 ∧ R x.2 y.2) (ofEntries as) (ofEntries bs) := by
  have hPut : ∀ {key : κ} {a : α} {b : β} {ls : List (κ × α)} {ms : List (κ × β)}, R a b →
      List.Forall₂ (fun x y => x.1 = y.1 ∧ R x.2 y.2) ls ms →
      List.Forall₂ (fun x y => x.1 = y.1 ∧ R x.2 y.2) (put key a ls) (put key b ms) := by
    intro key a b ls ms hab hAll
    induction hAll with
    | nil => exact List.Forall₂.cons ⟨rfl, hab⟩ List.Forall₂.nil
    | @cons x y ls ms hHead hTail ih =>
        rcases x with ⟨k, c⟩
        rcases y with ⟨l, d⟩
        obtain ⟨hKey, hcd⟩ := hHead
        dsimp only at hKey hcd
        subst hKey
        rw [put, put]
        split
        · exact List.Forall₂.cons ⟨rfl, hab⟩ hTail
        · exact List.Forall₂.cons ⟨rfl, hcd⟩ ih
  have hFold : ∀ {ls : List (κ × α)} {ms : List (κ × β)},
      List.Forall₂ (fun x y => x.1 = y.1 ∧ R x.2 y.2) ls ms →
      List.Forall₂ (fun x y => x.1 = y.1 ∧ R x.2 y.2)
        (as.foldl (fun k e => put e.1 e.2 k) ls) (bs.foldl (fun k e => put e.1 e.2 k) ms) := by
    induction h with
    | nil => exact id
    | @cons x y as bs hHead _ ih =>
        intro ls ms hAll
        rw [List.foldl_cons, List.foldl_cons, ← hHead.1]
        exact ih (hPut hHead.2 hAll)
  exact hFold List.Forall₂.nil

end TypedClient.Keyed
