import TypedClient.Proofs.Disk.Writing
import TypedClient.Proofs.Text.Pieces

/-!
What making folders changes. Main statement: however it ends, making a folder and those on the way
to it only puts folders where nothing stood before, at places on that way.
-/

namespace TypedClient

/-! ### The folder of a path -/

namespace Path

theorem dropIdle_suffix (rooted : Bool) (ps : List String) : dropIdle rooted ps <:+ ps := by
  induction ps with
  | nil => exact List.suffix_refl _
  | cons p ps ih =>
      cases ps with
      | nil =>
          unfold dropIdle
          split
          · exact List.nil_suffix
          · exact List.suffix_refl _
      | cons q ps =>
          unfold dropIdle
          split
          · exact List.IsSuffix.trans ih (List.suffix_cons ..)
          · exact List.suffix_refl _

/-- What is left begins with a name. -/
theorem dropIdle_head {rooted : Bool} {ps rest : List String} {last : String}
    (h : dropIdle rooted ps = last :: rest) : last ≠ "" := by
  induction ps with
  | nil => exact absurd h (by simp [dropIdle])
  | cons p ps ih =>
      cases ps with
      | nil =>
          unfold dropIdle at h
          split at h
          · exact absurd h (by simp)
          · next hName =>
              cases h
              exact fun hEmpty => hName (.inl hEmpty)
      | cons q ps =>
          unfold dropIdle at h
          split at h
          · exact ih h
          · next hName =>
              cases h
              exact fun hEmpty => hName (.inl hEmpty)

/-- Behind the path without its last name, a path goes on with pieces of which one is a name. -/
theorem parent?_pieces {p q : Path} (h : p.parent? = some q) :
    q.rooted = p.rooted ∧
      ∃ rest, p.pieces = q.pieces ++ rest ∧ rest.filter (· ≠ "") ≠ [] := by
  unfold parent? at h
  split at h
  · exact absurd h (by simp)
  next last rest hRest =>
  cases h
  have hLast : last ≠ "" := dropIdle_head hRest
  obtain ⟨front, hFront⟩ := dropIdle_suffix p.rooted p.pieces.reverse
  obtain ⟨mid, hMid⟩ := dropIdle_suffix p.rooted rest
  refine ⟨rfl, mid.reverse ++ last :: front.reverse, ?_, ?_⟩
  · have hReverse : p.pieces.reverse = front ++ last :: (mid ++ dropIdle p.rooted rest) := by
      rw [hMid, ← hRest, hFront]
    rw [← List.reverse_reverse p.pieces, hReverse]
    simp
  · apply List.ne_nil_of_mem
    exact List.mem_filter.mpr
      ⟨List.mem_append_right _ (List.mem_cons_self ..), by simpa using hLast⟩

/-- The path without its last name has some of the names in front of the last. -/
theorem parent?_names {p q : Path} (h : p.parent? = some q) :
    q.rooted = p.rooted ∧ q.names <+: p.names.dropLast := by
  obtain ⟨hRooted, rest, hPieces, hMore⟩ := parent?_pieces h
  refine ⟨hRooted, ?_⟩
  have hNames : p.names = q.names ++ rest.filter (· ≠ "") := by
    rw [names, hPieces, List.filter_append]
    rfl
  rw [hNames, List.dropLast_append_of_ne_nil hMore]
  exact List.prefix_append _ _

/-- The text of the path without its last name stands at the front of that of the path. -/
theorem parent?_text {p q : Path} (h : p.parent? = some q) : ∃ rest, p.text = q.text ++ rest := by
  obtain ⟨hRooted, rest, hPieces, -⟩ := parent?_pieces h
  obtain ⟨more, hMore⟩ := Text.joined_append "/" q.pieces rest
  refine ⟨more, ?_⟩
  rw [text, text, hPieces, hMore, hRooted, String.append_assoc]

theorem folder?_names {p q : Path} (h : p.folder? = some q) :
    q.rooted = p.rooted ∧ q.names <+: p.names.dropLast :=
  parent?_names (Option.filter_eq_some_iff.mp h).1

end Path

namespace Disk

/-! ### The way -/

/-- The place that a name leads to from another, whatever stands there. -/
def step (place : Place) (name : String) : Place :=
  if name = "." then place
  else if name = ".." then place.dropLast
  else place ++ [name]

/-- The place that names lead to, one after the other. -/
def lead (place : Place) (names : List String) : Place :=
  names.foldl step place

/-- The place that a path starts from. -/
def start (d : Disk) (p : Path) : Place :=
  if p.rooted then [] else d.here

/-- A place on the way that names lead along from the start of a path. -/
def OnWay (d : Disk) (p : Path) (names : List String) (place : Place) : Prop :=
  ∃ front, front <+: names ∧ place = lead (d.start p) front

/-- One disk became another: every place holds what it held, but where there was nothing there may
now be a folder, if the place is a fresh one. -/
structure GrowsTo (before after : Disk) (fresh : Place → Prop) : Prop where
  here : after.here = before.here
  node? : ∀ place, after.node? place = before.node? place ∨
    before.node? place = none ∧ after.node? place = some .folder ∧ fresh place

section Way

variable {d before mid after : Disk} {p q : Path} {place : Place} {names : List String}
  {fresh fresh' : Place → Prop}

theorem GrowsTo.refl : d.GrowsTo d fresh :=
  ⟨rfl, fun _ => .inl rfl⟩

theorem GrowsTo.mono (h : before.GrowsTo after fresh)
    (hFresh : ∀ place, fresh place → fresh' place) : before.GrowsTo after fresh' where
  here := h.here
  node? := by
    intro place
    rcases h.node? place with hSame | ⟨hNone, hFolder, hPlace⟩
    · exact .inl hSame
    · exact .inr ⟨hNone, hFolder, hFresh place hPlace⟩

theorem GrowsTo.trans (h : before.GrowsTo mid fresh) (h' : mid.GrowsTo after fresh) :
    before.GrowsTo after fresh where
  here := h'.here.trans h.here
  node? := by
    intro place
    rcases h.node? place with hSame | ⟨hNone, hFolder, hPlace⟩
    · rcases h'.node? place with hSame' | ⟨hNone', hFolder', hPlace'⟩
      · exact .inl (hSame'.trans hSame)
      · exact .inr ⟨hSame.symm.trans hNone', hFolder', hPlace'⟩
    · rcases h'.node? place with hSame' | ⟨hNone', -⟩
      · exact .inr ⟨hNone, hSame'.trans hFolder, hPlace⟩
      · exact absurd (hFolder.symm.trans hNone') (by simp)

/-- The files are the same ones with the same contents. -/
theorem GrowsTo.file_iff (h : before.GrowsTo after fresh) {content : List UInt8} :
    after.node? place = some (.file content) ↔ before.node? place = some (.file content) := by
  rcases h.node? place with hSame | ⟨hNone, hFolder, -⟩
  · rw [hSame]
  · simp [hNone, hFolder]

theorem enter_eq_step {name : String} {next : Place} (h : d.enter place name = .ok next) :
    next = step place name := by
  unfold enter at h
  unfold step
  split at h
  · next hDot =>
      rw [if_pos hDot]
      exact (Except.ok.inj h).symm
  next hDot =>
  rw [if_neg hDot]
  split at h
  · next hDots =>
      rw [if_pos hDots]
      exact (Except.ok.inj h).symm
  next hDots =>
  rw [if_neg hDots]
  split at h
  · exact absurd h (by simp)
  split at h
  · exact absurd h (by simp)
  · exact absurd h (by simp)
  · exact (Except.ok.inj h).symm

/-- Names that can be walked along lead to where the walk ends. -/
theorem walk_eq_lead {last : Place} (h : d.walk place names = .ok last) :
    last = lead place names := by
  induction names generalizing place with
  | nil => exact (Except.ok.inj h).symm
  | cons name names ih =>
      rw [walk] at h
      cases hEnter : d.enter place name with
      | error e =>
          rw [hEnter] at h
          exact absurd h (by simp)
      | ok next =>
          rw [hEnter] at h
          rw [ih h, enter_eq_step hEnter]
          rfl

/-- A path that ends in a name ends at the place that its names lead to. -/
theorem locate_eq_lead (h : d.locate p = .ok (.entry place)) :
    place = lead (d.start p) p.names ∧ place ≠ [] := by
  obtain ⟨-, folder, last, hWalk, hLast, hDot, hDots, rfl⟩ := locate_eq_entry.mp h
  have hNames : p.names.dropLast ++ [last] = p.names := by
    rw [List.getLast?_eq_some_iff] at hLast
    obtain ⟨front, hFront⟩ := hLast
    rw [hFront, List.dropLast_concat]
  have hFolder : folder = lead (d.start p) p.names.dropLast := walk_eq_lead hWalk
  refine ⟨?_, by simp⟩
  calc folder ++ [last] = step folder last := by simp [step, hDot, hDots]
    _ = lead (d.start p) (p.names.dropLast ++ [last]) := by
      rw [hFolder, lead, lead, List.foldl_append, List.foldl_cons, List.foldl_nil]
    _ = lead (d.start p) p.names := by rw [hNames]

theorem OnWay.of_prefix {names' : List String} (h : d.OnWay p names place)
    (hNames : names <+: names') : d.OnWay p names' place := by
  obtain ⟨front, hFront, hPlace⟩ := h
  exact ⟨front, List.IsPrefix.trans hFront hNames, hPlace⟩

/-- The way only depends on where the path starts. -/
theorem OnWay.of_start {d' : Disk} (h : d.OnWay q names place) (hHere : d.here = d'.here)
    (hRooted : q.rooted = p.rooted) : d'.OnWay p names place := by
  obtain ⟨front, hFront, hPlace⟩ := h
  refine ⟨front, hFront, ?_⟩
  rw [hPlace, start, start, hHere, hRooted]

theorem OnWay.of_parent (hParent : p.parent? = some q) (h : d.OnWay q q.names place) :
    d.OnWay p p.names place := by
  obtain ⟨hRooted, hNames⟩ := Path.parent?_names hParent
  have hPrefix : q.names <+: p.names := List.IsPrefix.trans hNames (List.dropLast_prefix _)
  exact (h.of_prefix hPrefix).of_start rfl hRooted

/-! ### Making folders -/

theorem grows_makeFolder {made : Disk} (h : d.makeFolder p = .ok made) :
    d.GrowsTo made (d.OnWay p p.names) := by
  unfold makeFolder at h
  split at h
  · exact absurd h (by simp)
  · exact absurd h (by simp)
  next place hLocate =>
  split at h
  · exact absurd h (by simp)
  split at h
  · exact absurd h (by simp)
  next hNone =>
  cases h
  obtain ⟨hPlace, hRoot⟩ := locate_eq_lead hLocate
  refine ⟨rfl, fun q => ?_⟩
  rw [node?_put d place q _ hRoot]
  by_cases hq : q = place
  · subst hq
    exact .inr ⟨hNone, if_pos rfl, p.names, List.prefix_refl _, hPlace⟩
  · exact .inl (if_neg hq)

theorem grows_ensureFolder (d : Disk) (p : Path) :
    d.GrowsTo (d.ensureFolder p).disk (d.OnWay p p.names) := by
  unfold ensureFolder
  split
  · next made hMade => exact grows_makeFolder hMade
  · exact GrowsTo.refl

/-- A folder that cannot be made for want of the one it lies in is made after that one. -/
theorem makeFolders_of_missing (hText : p.text ≠ "") (h : d.makeFolder p = .error .missing) :
    d.makeFolders p = match p.parent? with
      | none => ⟨d, some .missing⟩
      | some q => match (d.makeFolders q).fault with
        | some e => ⟨(d.makeFolders q).disk, some e⟩
        | none => (d.makeFolders q).disk.ensureFolder p := by
  rw [makeFolders, if_neg hText, h]
  dsimp only
  split
  · next hParent => rw [hParent]
  · next q hParent => exact hParent ▸ rfl

/-- Making a folder and those on the way to it only puts folders there, also if it fails halfway.
The induction goes up to the first folder that can be made or is there. -/
theorem grows_makeFolders (d : Disk) (p : Path) :
    d.GrowsTo (d.makeFolders p).disk (d.OnWay p p.names) := by
  induction p using makeFolders.induct d with
  | case1 p hEmpty =>
      rw [makeFolders, if_pos hEmpty]
      exact GrowsTo.refl
  | case2 p hEmpty made hMade =>
      rw [makeFolders, if_neg hEmpty, hMade]
      exact grows_makeFolder hMade
  | case3 p hEmpty hMissing hParent =>
      rw [makeFolders_of_missing hEmpty hMissing, hParent]
      exact GrowsTo.refl
  | case4 p hEmpty hMissing q hParent _ above e hFault ih =>
      have hAbove : d.GrowsTo above.disk (d.OnWay p p.names) :=
        ih.mono fun _ hPlace => hPlace.of_parent hParent
      rw [makeFolders_of_missing hEmpty hMissing, hParent]
      dsimp only
      rw [hFault]
      exact hAbove
  | case5 p hEmpty hMissing q hParent _ above hFault ih =>
      have hAbove : d.GrowsTo above.disk (d.OnWay p p.names) :=
        ih.mono fun _ hPlace => hPlace.of_parent hParent
      have hLast : above.disk.GrowsTo (above.disk.ensureFolder p).disk (d.OnWay p p.names) :=
        (grows_ensureFolder above.disk p).mono fun _ hPlace => hPlace.of_start hAbove.here rfl
      rw [makeFolders_of_missing hEmpty hMissing, hParent]
      dsimp only
      rw [hFault]
      exact hAbove.trans hLast
  | case6 p hEmpty e hMissing hFault =>
      rw [makeFolders, if_neg hEmpty, hFault]
      cases e with
      | missing => exact absurd rfl hMissing
      | _ => exact GrowsTo.refl

end Way

end Disk

end TypedClient
