import TypedClient.Proofs.Script.Literal
import TypedClient.Schema.TypeExpr

/-!
Reading type expressions back from their text. Main statement: the text of the type of a schema
determines that type, whatever its properties are called, as long as the names it refers to can be
told from the words for primitive types.
-/

namespace TypedClient.Script

open TypedClient.Text

/-- All primitive types. -/
def Primitive.all : List Primitive := [.text, .number, .flag, .object, .any]

/-- The type that a bare word stands for. -/
def TypeExpr.ofWord (word : String) : TypeExpr :=
  match Primitive.all.find? (·.render = word) with
  | some p => .primitive p
  | none => .named word

/-- A type and the pairs of brackets behind it. -/
def takeBrackets : TypeExpr → List Char → TypeExpr × List Char
  | t, '[' :: ']' :: cs => takeBrackets (.list t) cs
  | t, cs => (t, cs)

/-- A label with its colon, and what follows. -/
def takeLabel (cs : List Char) : Option (Label × List Char) :=
  match takeKey cs with
  | some (name, '?' :: ':' :: ' ' :: rest) => some (⟨name, true⟩, rest)
  | some (name, ':' :: ' ' :: rest) => some (⟨name, false⟩, rest)
  | _ => none

mutual

/-- A type expression and what follows it. Every step inwards takes at least one character, so the
length of the text is fuel enough. -/
def takeType : Nat → List Char → Option (TypeExpr × List Char)
  | 0, _ => none
  | _ + 1, '\x7b' :: ' ' :: ' ' :: '\x7d' :: cs => some (takeBrackets (.record []) cs)
  | fuel + 1, '\x7b' :: ' ' :: cs =>
    (takeFields fuel cs).map fun read => takeBrackets (.record read.1) read.2
  | _ + 1, cs => (takeWordPart cs).map fun read => takeBrackets (.ofWord read.1) read.2

/-- The members of a record type, and what follows the brace that closes it. -/
def takeFields : Nat → List Char → Option (List (Label × TypeExpr) × List Char)
  | 0, _ => none
  | fuel + 1, cs =>
    (takeLabel cs).bind fun label =>
      (takeType fuel label.2).bind fun type =>
        match type.2 with
        | ' ' :: '\x7d' :: rest => some ([(label.1, type.1)], rest)
        | ',' :: ' ' :: rest =>
          (takeFields fuel rest).map fun more => ((label.1, type.1) :: more.1, more.2)
        | _ => none

end

/-- The type expression that a whole text is read as. -/
def TypeExpr.ofText (s : String) : Option TypeExpr :=
  match takeType s.length s.toList with
  | some (t, []) => some t
  | _ => none

/-- A name that can be told from the words for primitive types: bare, and none of them. -/
def IsReferable (name : String) : Prop :=
  isBare name = true ∧ ∀ p : Primitive, p.render ≠ name

/-! ### Words -/

theorem Primitive.isBare_render (p : Primitive) : isBare p.render = true := by
  cases p <;> decide

theorem TypeExpr.ofWord_primitive (p : Primitive) : TypeExpr.ofWord p.render = .primitive p := by
  cases p <;> rfl

theorem TypeExpr.ofWord_name {name : String} (h : IsReferable name) :
    TypeExpr.ofWord name = .named name := by
  have hNone : Primitive.all.find? (·.render = name) = none := by
    rw [List.find?_eq_none]
    intro p _ hp
    exact h.2 p (of_decide_eq_true hp)
  rw [ofWord, hNone]

/-! ### Pieces of text -/

/-- A text that goes on with a separator does not go on with brackets. -/
theorem takeBrackets_of_head {c : Char} (hc : c ≠ '[') (t : TypeExpr) (cs : List Char) :
    takeBrackets t (c :: cs) = (t, c :: cs) := by
  rw [takeBrackets]
  intro ds h
  cases h
  exact absurd rfl hc

theorem takeLabel_render (l : Label) (rest : List Char) :
    takeLabel (l.render.toList ++ ':' :: ' ' :: rest) = some (l, rest) := by
  rcases l with ⟨name, optional⟩
  unfold takeLabel Label.render
  cases optional with
  | false =>
      have hKey := takeKey_memberKey name (':' :: ' ' :: rest) (endsName_cons rfl)
      simp [hKey]
  | true =>
      have hKey := takeKey_memberKey name ('?' :: ':' :: ' ' :: rest) (endsName_cons rfl)
      simp [hKey]

/-- What begins like a bare name does not begin with a brace. -/
theorem takeType_word {fuel : Nat} {c : Char} (hc : isNameStart c = true) (cs : List Char) :
    takeType (fuel + 1) (c :: cs) =
      (takeWordPart (c :: cs)).map fun read => takeBrackets (.ofWord read.1) read.2 := by
  have hBrace : c ≠ '\x7b' := by
    rintro rfl
    exact absurd hc (by decide)
  rw [takeType]
  · intro ds h
    exact hBrace (List.cons.inj h).1
  · intro ds h
    exact hBrace (List.cons.inj h).1

/-- A bare word is read as the type it stands for. -/
theorem takeType_bare {fuel : Nat} {word : String} (hBare : isBare word = true)
    {rest : List Char} (hRest : EndsName rest) :
    takeType (fuel + 1) (word.toList ++ rest) = some (takeBrackets (.ofWord word) rest) := by
  obtain ⟨c, cs, hs, hStart, -⟩ := isBare_toList hBare
  have hWord := takeWordPart_append hBare hRest
  rw [hs, List.cons_append] at hWord ⊢
  rw [takeType_word hStart, hWord, Option.map_some]

/-- A label begins with a name or with a quote, so a record with members is not read as one
without. -/
theorem takeType_fields {fuel : Nat} {cs : List Char} (h : ∀ ds, cs ≠ ' ' :: '\x7d' :: ds) :
    takeType (fuel + 1) ('\x7b' :: ' ' :: cs) =
      (takeFields fuel cs).map fun read => takeBrackets (.record read.1) read.2 := by
  rw [takeType]
  intro ds hds
  exact h ds hds

/-! ### Whole type expressions -/

/-- The characters of the members of a record type. -/
def fieldChars (fields : List (Label × TypeExpr)) : List Char :=
  (joined ", " (renderFields fields)).toList

theorem fieldChars_single (l : Label) (t : TypeExpr) :
    fieldChars [(l, t)] = l.render.toList ++ ':' :: ' ' :: t.render.toList := by
  simp [fieldChars, renderFields, joined]

theorem fieldChars_cons (l : Label) (t : TypeExpr) (f : Label × TypeExpr)
    (fs : List (Label × TypeExpr)) :
    fieldChars ((l, t) :: f :: fs) =
      l.render.toList ++ ':' :: ' ' :: (t.render.toList ++ ',' :: ' ' :: fieldChars (f :: fs)) := by
  simp [fieldChars, renderFields, joined]

/-- The members of a record type do not begin with a space. -/
theorem fieldChars_toList (l : Label) (t : TypeExpr) (fs : List (Label × TypeExpr)) :
    ∃ c cs, fieldChars ((l, t) :: fs) = c :: cs ∧ c ≠ ' ' := by
  obtain ⟨c, cs, hKey, hc⟩ := memberKey_toList l.name
  cases fs with
  | nil =>
      rw [fieldChars_single, Label.render, String.toList_append, hKey]
      exact ⟨c, _, rfl, hc⟩
  | cons f fs =>
      rw [fieldChars_cons, Label.render, String.toList_append, hKey]
      exact ⟨c, _, rfl, hc⟩

mutual

/-- A type expression is read back where no bare name goes on. The induction is on the expression;
a list hands its brackets on to what its items leave over. -/
theorem takeType_render : (t : TypeExpr) → (∀ name ∈ t.names, IsReferable name) →
    ∀ (fuel : Nat) (rest : List Char), t.render.toList.length ≤ fuel → EndsName rest →
      takeType fuel (t.render.toList ++ rest) = some (takeBrackets t rest)
  | .primitive p => by
      intro _ fuel rest hFuel hRest
      rw [TypeExpr.render] at hFuel ⊢
      obtain ⟨c, cs, hs, -⟩ := isBare_toList p.isBare_render
      cases fuel with
      | zero => simp [hs] at hFuel
      | succ fuel => rw [takeType_bare p.isBare_render hRest, TypeExpr.ofWord_primitive]
  | .named name => by
      intro hNames fuel rest hFuel hRest
      have hName : IsReferable name := hNames name (by simp [TypeExpr.names])
      rw [TypeExpr.render] at hFuel ⊢
      obtain ⟨c, cs, hs, -⟩ := isBare_toList hName.1
      cases fuel with
      | zero => simp [hs] at hFuel
      | succ fuel => rw [takeType_bare hName.1 hRest, TypeExpr.ofWord_name hName]
  | .list item => by
      intro hNames fuel rest hFuel _
      have hText : (TypeExpr.list item).render.toList = item.render.toList ++ ['[', ']'] := by
        simp [TypeExpr.render]
      rw [hText] at hFuel ⊢
      have hItem := takeType_render item (by simpa [TypeExpr.names] using hNames) fuel
        ('[' :: ']' :: rest) (by simp at hFuel ⊢; omega) (endsName_cons rfl)
      rw [List.append_assoc]
      exact hItem
  | .record [] => by
      intro _ fuel rest hFuel _
      cases fuel with
      | zero => simp [TypeExpr.render] at hFuel
      | succ fuel => simp [TypeExpr.render, renderFields, joined, takeType]
  | .record ((l, t) :: fs) => by
      intro hNames fuel rest hFuel _
      have hText : (TypeExpr.record ((l, t) :: fs)).render.toList =
          '\x7b' :: ' ' :: (fieldChars ((l, t) :: fs) ++ [' ', '\x7d']) := by
        simp [TypeExpr.render, fieldChars]
      rw [hText] at hFuel ⊢
      obtain ⟨c, cs, hChars, hc⟩ := fieldChars_toList l t fs
      cases fuel with
      | zero => simp at hFuel
      | succ fuel =>
          have hFields := takeFields_render ((l, t) :: fs) (by simp)
            (by simpa [TypeExpr.names] using hNames) fuel rest (by simp at hFuel; omega)
          have hOpen : ∀ ds, fieldChars ((l, t) :: fs) ++ ' ' :: '\x7d' :: rest ≠
              ' ' :: '\x7d' :: ds := by
            intro ds h
            rw [hChars] at h
            exact hc (List.cons.inj h).1
          simp only [List.cons_append, List.append_assoc, List.nil_append]
          rw [takeType_fields hOpen, hFields, Option.map_some]
termination_by structural t => t

theorem takeFields_render : (fields : List (Label × TypeExpr)) → fields ≠ [] →
    (∀ name ∈ fieldNames fields, IsReferable name) →
    ∀ (fuel : Nat) (rest : List Char), (fieldChars fields).length < fuel →
      takeFields fuel (fieldChars fields ++ ' ' :: '\x7d' :: rest) = some (fields, rest)
  | [] => fun h => absurd rfl h
  | [(l, t)] => by
      intro _ hNames fuel rest hFuel
      rw [fieldChars_single] at hFuel ⊢
      cases fuel with
      | zero => exact absurd hFuel (Nat.not_lt_zero _)
      | succ fuel =>
          have hType := takeType_render t (by simpa [fieldNames] using hNames) fuel
            (' ' :: '\x7d' :: rest) (by simp at hFuel; omega) (endsName_cons rfl)
          rw [takeBrackets_of_head (by decide)] at hType
          rw [List.append_assoc, takeFields, List.cons_append, List.cons_append, takeLabel_render]
          simp only [Option.bind_some]
          rw [hType]
          rfl
  | (l, t) :: f :: fs => by
      intro _ hNames fuel rest hFuel
      rw [fieldChars_cons] at hFuel ⊢
      have hBoth : (∀ name ∈ t.names, IsReferable name) ∧
          ∀ name ∈ fieldNames (f :: fs), IsReferable name := by
        rw [fieldNames] at hNames
        exact List.forall_mem_append.mp hNames
      cases fuel with
      | zero => exact absurd hFuel (Nat.not_lt_zero _)
      | succ fuel =>
          have hType := takeType_render t hBoth.1 fuel
            (',' :: ' ' :: (fieldChars (f :: fs) ++ ' ' :: '\x7d' :: rest))
            (by simp at hFuel; omega) (endsName_cons rfl)
          have hMore := takeFields_render (f :: fs) (by simp) hBoth.2 fuel rest
            (by simp at hFuel; omega)
          rw [takeBrackets_of_head (by decide)] at hType
          rw [List.append_assoc, takeFields, List.cons_append, List.cons_append,
            List.append_assoc, takeLabel_render]
          simp only [Option.bind_some, List.cons_append]
          rw [hType]
          simp only [Option.bind_some]
          rw [hMore, Option.map_some]
termination_by structural fields => fields

end

/-- The reader undoes the text of every type expression whose names can be referred to. -/
theorem TypeExpr.ofText_render (t : TypeExpr) (h : ∀ name ∈ t.names, IsReferable name) :
    TypeExpr.ofText t.render = some t := by
  have hRead := takeType_render t h t.render.length [] (Nat.le_of_eq String.length_toList)
    endsName_nil
  rw [List.append_nil] at hRead
  rw [ofText, hRead]
  rfl

end TypedClient.Script

namespace TypedClient.Schema

open Script

/-- The text of the type of a schema is read back as that very type, and two schemas whose types
have the same text have the same type. Properties may be called anything: their keys are never
taken for structure. -/
theorem typeExpr_determined_by_text (s₁ s₂ : Schema)
    (h₁ : ∀ name ∈ s₁.typeExpr.names, IsReferable name)
    (h₂ : ∀ name ∈ s₂.typeExpr.names, IsReferable name) :
    TypeExpr.ofText s₁.typeExpr.render = some s₁.typeExpr ∧
      (s₁.typeExpr.render = s₂.typeExpr.render → s₁.typeExpr = s₂.typeExpr) := by
  have hFirst := TypeExpr.ofText_render s₁.typeExpr h₁
  refine ⟨hFirst, ?_⟩
  intro hText
  rw [hText, TypeExpr.ofText_render s₂.typeExpr h₂] at hFirst
  exact (Option.some.inj hFirst).symm

/-- A schema whose property names look like pieces of a type. -/
def crooked (root : String) : Schema :=
  let item : Schema := ⟨some (root ++ "Item"), none, none, none, []⟩
  let items : Schema := ⟨none, some (.named "array"), some item, none, []⟩
  let empty : Schema := ⟨none, some (.named "object"), none, some [], []⟩
  ⟨none, some (.named "object"), none,
    some [("a\": string, b\\", items), (" \x7d", empty), ("", item), ("string", empty)],
    ["", "string"]⟩

theorem crooked_determined_by_text :
    (∀ name ∈ (crooked "#/definitions/").typeExpr.names, IsReferable name) ∧
      (∀ name ∈ (crooked "#/components/schemas/").typeExpr.names, IsReferable name) ∧
      TypeExpr.ofText (crooked "#/definitions/").typeExpr.render =
        some (crooked "#/definitions/").typeExpr ∧
      ((crooked "#/definitions/").typeExpr.render =
        (crooked "#/components/schemas/").typeExpr.render →
        (crooked "#/definitions/").typeExpr = (crooked "#/components/schemas/").typeExpr) := by
  have hItem : IsReferable "Item" := ⟨by decide, by intro p; cases p <;> decide⟩
  have hItems : ∀ name ∈ ["Item", "Item"], IsReferable name :=
    List.forall_mem_cons.mpr ⟨hItem, List.forall_mem_cons.mpr ⟨hItem, List.forall_mem_nil _⟩⟩
  have hFirst : ∀ name ∈ (crooked "#/definitions/").typeExpr.names, IsReferable name := hItems
  have hSecond : ∀ name ∈ (crooked "#/components/schemas/").typeExpr.names,
      IsReferable name := hItems
  exact ⟨hFirst, hSecond, typeExpr_determined_by_text _ _ hFirst hSecond⟩

end TypedClient.Schema
