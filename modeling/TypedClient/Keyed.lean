/-!
Entries under keys, in the order in which the keys first occur. A later entry under a key takes the
place of the earlier one.
-/

namespace TypedClient

/-- Entries under keys. -/
abbrev Keyed (κ α : Type) : Type :=
  List (κ × α)

namespace Keyed

variable {κ α : Type} [DecidableEq κ]

/-- Puts an entry where its key already stands, or at the end. -/
def put (key : κ) (a : α) : Keyed κ α → Keyed κ α
  | [] => [(key, a)]
  | (k, b) :: rest => if k = key then (key, a) :: rest else (k, b) :: put key a rest

/-- The entries written one after the other. -/
def ofEntries (entries : List (κ × α)) : Keyed κ α :=
  entries.foldl (fun k e => put e.1 e.2 k) []

/-- The entry under a key. -/
def get? (entries : Keyed κ α) (key : κ) : Option α :=
  match entries with
  | [] => none
  | (k, a) :: rest => if k = key then some a else get? rest key

/-- The entries without the one under a key. -/
def erase (entries : Keyed κ α) (key : κ) : Keyed κ α :=
  entries.filter (·.1 ≠ key)

theorem get?_put (entries : Keyed κ α) (key q : κ) (a : α) :
    (put key a entries).get? q = if q = key then some a else entries.get? q := by
  induction entries with
  | nil => by_cases h : key = q <;> simp [put, get?, h, eq_comm]
  | cons e rest ih => grind [put, get?]

theorem get?_erase (entries : Keyed κ α) (key q : κ) :
    (entries.erase key).get? q = if q = key then none else entries.get? q := by
  induction entries with
  | nil => simp [erase, get?]
  | cons e rest ih => grind [erase, get?]

theorem mem_put {key k : κ} {a b : α} {entries : Keyed κ α} :
    (k, b) ∈ put key a entries → (k, b) = (key, a) ∨ (k, b) ∈ entries := by
  induction entries with
  | nil => simp [put]
  | cons e rest ih =>
    unfold put
    split
    · simp only [List.mem_cons]
      rintro (h | h)
      · exact .inl h
      · exact .inr (.inr h)
    · simp only [List.mem_cons]
      rintro (h | h)
      · exact .inr (.inl h)
      · rcases ih h with h | h
        · exact .inl h
        · exact .inr (.inr h)

end Keyed

end TypedClient
