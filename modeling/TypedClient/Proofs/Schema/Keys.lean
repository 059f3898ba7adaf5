import TypedClient.Proofs.Schema.Marks
import TypedClient.Proofs.Script.Renaming
import TypedClient.Proofs.Script.StringValue

/-!
The keys of members. A declaration has a body for its own members and one for each record type that
stands in it, at whatever depth. Main statement: in a declaration that is made of a schema, each of
these bodies belongs to a schema that is written inside. Its keys are distinct, and they stand for
the names of the properties that are written there, in the order in which these names first occur,
each with the type of what is written under it last.
-/

namespace TypedClient

open Json Script Text

/-! ### Bodies -/

namespace Script

theorem mapFieldNames_eq_map (f : String → String) (fields : List (Label × TypeExpr)) :
    mapFieldNames f fields = fields.map fun field => (field.1, field.2.mapNames f) := by
  induction fields with
  | nil => rfl
  | cons field fields ih =>
      rw [mapFieldNames, ih]
      rfl

/-- The text of a member of a body: its key, a mark if it may be missing, and its type. -/
def fieldText (field : Label × TypeExpr) : String :=
  memberKey field.1.name ++ (if field.1.optional then "?" else "") ++ ": " ++ field.2.render

/-- A record type with these members stands in a type where some steps lead to. -/
inductive TypeExpr.HasRecord (fields : List (Label × TypeExpr)) :
    List Schema.Step → TypeExpr → Prop
  | whole : TypeExpr.HasRecord fields [] (.record fields)
  | item {path : List Schema.Step} {t : TypeExpr} (hItem : TypeExpr.HasRecord fields path t) :
      TypeExpr.HasRecord fields (.items :: path) (.list t)
  | member {path : List Schema.Step} {others : List (Label × TypeExpr)} {label : Label}
      {t : TypeExpr} (hMem : (label, t) ∈ others) (hMember : TypeExpr.HasRecord fields path t) :
      TypeExpr.HasRecord fields (.property label.name :: path) (.record others)

/-- The steps from an interface to the type of a member. A member for any key has the type of the
whole, one for any number that of the items. -/
def Member.steps : Member → List Schema.Step
  | .field label _ => [.property label.name]
  | .index _ .number _ => [.items]
  | .index _ _ _ => []

/-- A declaration has a body with these members where some steps lead to, and it is written like
this: with a line for each in an interface, and all in one line in a record type. -/
inductive Declaration.HasBody (d : Declaration) (fields : List (Label × TypeExpr)) :
    List Schema.Step → String → Prop
  | lines (hBody : d.body = .interface (fields.map fun field => .field field.1 field.2)) :
      Declaration.HasBody d fields [] ("\x7b\n" ++
        concat (fields.map fun field => "  " ++ fieldText field ++ ";\n") ++ "\x7d")
  | member {members : List Member} {m : Member} {path : List Schema.Step}
      (hBody : d.body = .interface members) (hMem : m ∈ members)
      (hRecord : m.type.HasRecord fields path) :
      Declaration.HasBody d fields (m.steps ++ path)
        ("\x7b " ++ joined ", " (fields.map fieldText) ++ " \x7d")
  | synonym {t : TypeExpr} {path : List Schema.Step} (hBody : d.body = .synonym t)
      (hRecord : t.HasRecord fields path) :
      Declaration.HasBody d fields path ("\x7b " ++ joined ", " (fields.map fieldText) ++ " \x7d")

namespace TypeExpr

variable {fields : List (Label × TypeExpr)} {path : List Schema.Step} {t : TypeExpr}

theorem render_record (fields : List (Label × TypeExpr)) :
    render (.record fields) = "\x7b " ++ joined ", " (fields.map fieldText) ++ " \x7d" := by
  rw [render, renderFields_eq_map]
  rfl

theorem HasRecord.standsIn_render (h : t.HasRecord fields path) :
    StandsIn ("\x7b " ++ joined ", " (fields.map fieldText) ++ " \x7d") t.render := by
  induction h with
  | whole =>
      rw [render_record]
      exact .refl _
  | item hItem ih =>
      rw [render]
      exact ih.before "[]"
  | @member path others label t hMem hMember ih =>
      have hText : StandsIn t.render (fieldText (label, t)) := (StandsIn.refl t.render).behind _
      have hMembers := standsIn_joined ", " (List.mem_map_of_mem (f := fieldText) hMem)
      rw [render_record]
      exact (((ih.trans hText).trans hMembers).behind "\x7b ").before " \x7d"

/-- Replacing names leaves the record types where they are. -/
theorem exists_of_hasRecord_mapNames {f : String → String}
    (h : (t.mapNames f).HasRecord fields path) :
    ∃ before, t.HasRecord before path ∧ fields = mapFieldNames f before := by
  generalize hImage : t.mapNames f = image at h
  induction h generalizing t with
  | whole =>
      cases t with
      | record before =>
          cases hImage
          exact ⟨before, .whole, rfl⟩
      | primitive | list | named => cases hImage
  | item _ ih =>
      cases t with
      | list item =>
          cases hImage
          obtain ⟨before, hItem, hFields⟩ := ih rfl
          exact ⟨before, .item hItem, hFields⟩
      | primitive | record | named => cases hImage
  | @member path others label u hMem _ ih =>
      cases t with
      | record olds =>
          cases hImage
          rw [mapFieldNames_eq_map] at hMem
          obtain ⟨⟨own, old⟩, hOld, hSame⟩ := List.mem_map.mp hMem
          cases hSame
          obtain ⟨before, hMember, hFields⟩ := ih rfl
          exact ⟨before, .member hOld hMember, hFields⟩
      | primitive | list | named => cases hImage

end TypeExpr

theorem Member.standsIn_render (m : Member) : StandsIn m.type.render m.render := by
  cases m with
  | field label type => exact ((StandsIn.refl _).behind _).before ";"
  | index key keyType value => exact ((StandsIn.refl _).behind _).before ";"

theorem Member.type_mapNames (f : String → String) (m : Member) :
    (m.mapNames f).type = m.type.mapNames f := by
  cases m <;> rfl

theorem Member.steps_mapNames (f : String → String) (m : Member) :
    (m.mapNames f).steps = m.steps := by
  cases m with
  | field => rfl
  | index key keyType value => cases keyType <;> rfl

theorem Member.map_mapNames_field (image : String → String) (fields : List (Label × TypeExpr)) :
    (fields.map fun field => Member.field field.1 field.2).map (Member.mapNames image) =
      (mapFieldNames image fields).map fun field => .field field.1 field.2 := by
  rw [mapFieldNames_eq_map, List.map_map, List.map_map]
  rfl

/-- Members with a label are told apart by label and type. -/
theorem Member.eq_of_map_field {fields others : List (Label × TypeExpr)}
    (h : (fields.map fun field => Member.field field.1 field.2) =
      others.map fun field => .field field.1 field.2) : fields = others := by
  refine List.map_injective_iff.mpr ?_ h
  rintro ⟨label, type⟩ ⟨label', type'⟩ hField
  cases hField
  rfl

/-- Each body stands in the text of its declaration. -/
theorem Declaration.HasBody.standsIn_render {d : Declaration} {fields : List (Label × TypeExpr)}
    {path : List Schema.Step} {text : String} (h : d.HasBody fields path text) :
    StandsIn text d.render := by
  cases h with
  | lines hBody =>
      have hLines : (fields.map fun field => Member.field field.1 field.2).map
          (fun m => "  " ++ m.render ++ "\n") =
            fields.map fun field => "  " ++ fieldText field ++ ";\n" := by
        rw [List.map_map]
        apply List.map_congr_left
        intro field _
        change "  " ++ (fieldText field ++ ";") ++ "\n" = _
        simp only [String.append_assoc]
        rfl
      refine ⟨(if d.exported then "export " else "") ++ "interface "
        ++ (d.name ++ renderParameters d.parameters) ++ " ", "\n", ?_⟩
      rw [render, hBody]
      dsimp only
      rw [hLines]
      simp only [String.append_assoc]
      rfl
  | @member members m path hBody hMem hRecord =>
      have hLine : "  " ++ m.render ++ "\n" ∈ members.map fun m => "  " ++ m.render ++ "\n" :=
        List.mem_map.mpr ⟨m, hMem, rfl⟩
      have hInside := (m.standsIn_render.behind "  ").before "\n"
      rw [render, hBody]
      refine hRecord.standsIn_render.trans ?_
      exact ((hInside.trans (standsIn_concat hLine)).behind _).before "\x7d\n"
  | @synonym t path hBody hRecord =>
      rw [render, hBody]
      exact (hRecord.standsIn_render.behind _).before ";\n"

theorem Declaration.HasBody.getLast? {d : Declaration} {fields : List (Label × TypeExpr)}
    {path : List Schema.Step} {text : String} (h : d.HasBody fields path text) :
    text.toList.getLast? = some '\x7d' := by
  cases h with
  | lines | member | synonym =>
      rw [String.toList_append]
      exact List.getLast?_append_of_ne_nil _ (by decide)

end Script

/-! ### What is written -/

/-- The properties of an object as they are written, with each name as often as it occurs. -/
def Json.Outline.writtenProperties (o : Outline) : List (String × Outline) :=
  if o.isOfType "object" then ((o.part? "properties").map members).getD [] else []

/-- These members have the keys of the properties as they are written: each name once, where it
first occurs, with the type of what is written under it last. Of names of schemas in these types,
the images are mentioned. -/
structure Script.AreKeyedBy (image : String → String) (written : List (String × Outline))
    (fields : List (Label × TypeExpr)) : Prop where
  distinct : (fields.map fun field => memberKey field.1.name).Nodup
  stand : ∀ field ∈ fields, IsKeyFor (memberKey field.1.name) field.1.name
  ordered : Keyed.InFirstOrder (fields.map (·.1.name)) (written.map (·.1))
  last : ∀ field ∈ fields, ∃ (o : Outline) (s : Schema),
    Keyed.last? written field.1.name = some o ∧ s.IsReadAs o ∧
      field.2 = s.typeExpr.mapNames image

/-- A declaration that goes along with what is written here: where steps lead to a body, they lead
to properties that are written, and the body has their keys. An interface has such members, or a
single one for any key. -/
structure Script.Declaration.IsKeyedBy (image : String → String) (o : Outline) (d : Declaration) :
    Prop where
  members : ∀ members, d.body = .interface members →
    (∃ fields : List (Label × TypeExpr),
      members = fields.map fun field => .field field.1 field.2) ∨
    ∃ key keyType t, members = [.index key keyType t]
  bodies : ∀ fields path text, d.HasBody fields path text →
    ∃ o', o.at? path = some o' ∧ AreKeyedBy image o'.writtenProperties fields

/-- Names that are told apart have keys that are. -/
theorem Script.nodup_memberKey {names : List String} (h : names.Nodup) :
    (names.map memberKey).Nodup :=
  h.map fun _ _ => memberKey_inj

/-! ### Types of written schemas -/

/-- The word that names a type, if it is the only one. -/
def SchemaKind.word? : SchemaKind → Option String
  | .text => some "string"
  | .flag => some "boolean"
  | .list => some "array"
  | .object => some "object"
  | .number => none
  | .unknown => none

namespace Schema

theorem eq_named_of_kind {k : TypeKeyword} {word : String} (h : k.kind.word? = some word) :
    k = .named word := by
  cases k with
  | other => cases h
  | named name =>
      unfold TypeKeyword.kind at h
      dsimp only at h
      repeat' split at h
      all_goals
        cases h
        try exact congrArg TypeKeyword.named ‹name = _›

/-- Only the schema of a list has the type of one. -/
theorem eq_of_typeExpr_list {s : Schema} {t : TypeExpr} (h : s.typeExpr = .list t) :
    ∃ items properties required,
      s = ⟨none, some (.named "array"), items, properties, required⟩ ∧ t = itemType items := by
  unfold typeExpr at h
  split at h
  case h_3 keyword items properties required =>
    split at h
    case h_4 hKind =>
      cases h
      cases eq_named_of_kind (congrArg SchemaKind.word? hKind)
      exact ⟨items, properties, required, rfl, rfl⟩
    case h_5 => split at h <;> cases h
    all_goals cases h
  all_goals cases h

/-- Only the schema of an object with properties has the type of one. -/
theorem eq_of_typeExpr_record {s : Schema} {fields : List (Label × TypeExpr)}
    (h : s.typeExpr = .record fields) :
    ∃ items ps required, s = ⟨none, some (.named "object"), items, some ps, required⟩ ∧
      fields = ps.map fun p => (⟨p.1, !required.contains p.1⟩, p.2.typeExpr) := by
  unfold typeExpr at h
  split at h
  case h_3 keyword items properties required =>
    split at h
    case h_5 hKind =>
      split at h
      · next ps =>
          cases h
          cases eq_named_of_kind (congrArg SchemaKind.word? hKind)
          exact ⟨items, ps, required, rfl, fieldTypes_eq_map _ _⟩
      · cases h
    all_goals cases h
  all_goals cases h

namespace ReadByParts

variable {o : Outline} {s : Schema}

/-- What is read as a schema of a type and not as a reference is written as one. -/
theorem isOfType {type : String} (h : s.ReadByParts o) (hReference : s.reference = none)
    (hKeyword : s.keyword = some (.named type)) : o.isOfType type = true := by
  have hNone := rel_isSome h.reference
  have hNamed := h.keyword
  rw [hReference, Option.isSome_none] at hNone
  rw [hKeyword] at hNamed
  rw [Outline.isOfType, Bool.and_eq_true_iff, ← Option.isSome_eq_false_iff]
  refine ⟨hNone.symm, ?_⟩
  generalize o.part? "type" = type? at hNamed ⊢
  cases hNamed with
  | @some written _ hRead =>
      cases hText : written.text? with
      | none => rw [hText] at hRead; cases hRead
      | some name =>
          rw [hText] at hRead
          cases hRead
          rw [Option.bind_some, hText]
          exact beq_self_eq_true _

theorem items? {item : Schema} {properties : Option (List (String × Schema))}
    {required : List String}
    (h : ReadByParts o ⟨none, some (.named "array"), some item, properties, required⟩) :
    ∃ written, o.items? = some written ∧ item.IsReadAs written := by
  have hItems := h.items
  rw [Outline.items?, if_pos (h.isOfType rfl rfl)]
  generalize o.part? "items" = item? at hItems ⊢
  cases hItems with
  | some hRead => exact ⟨_, rfl, hRead⟩

theorem writtenProperties {items : Option Schema} {ps : List (String × Schema)}
    {required : List String}
    (h : ReadByParts o ⟨none, some (.named "object"), items, some ps, required⟩) :
    o.properties? = some (Keyed.lastAtFirst o.writtenProperties) ∧
      List.Forall₂ (fun x y => x.1 = y.1 ∧ y.2.IsReadAs x.2)
        (Keyed.lastAtFirst o.writtenProperties) ps := by
  have hProperties := h.properties
  rw [Outline.properties?, Outline.writtenProperties, if_pos (h.isOfType rfl rfl),
    if_pos (h.isOfType rfl rfl)]
  generalize o.part? "properties" = part? at hProperties ⊢
  cases hProperties with
  | some hAll => exact ⟨rfl, hAll⟩

/-- The schema of a property is read of what is written under its name last. -/
theorem property? {name : String} {inner : Schema} (h : s.ReadByParts o)
    (hProperty : s.property? name = some inner) :
    ∃ part written, o.part? "properties" = some part ∧
      Keyed.last? part.members name = some written ∧ inner.IsReadAs written := by
  obtain ⟨ps, hPs, hGet⟩ := Option.bind_eq_some_iff.mp hProperty
  have hProperties := h.properties
  rw [hPs] at hProperties
  generalize o.part? "properties" = part? at hProperties ⊢
  cases hProperties with
  | @some part _ hAll =>
      have hRel := Keyed.rel_get? (R := fun o s => IsReadAs o s) hAll name
      rw [hGet, ← Keyed.ofEntries_eq_lastAtFirst, Keyed.get?_ofEntries] at hRel
      generalize hLast : Keyed.last? part.members name = written? at hRel
      cases hRel with
      | some hRead => exact ⟨part, _, rfl, hLast, hRead⟩

end ReadByParts

namespace IsReadAs

variable {o : Outline} {s : Schema} {fields : List (Label × TypeExpr)}

/-- The members of the type of an object have the keys of its properties. -/
theorem areKeyedBy (h : s.IsReadAs o) (hType : s.typeExpr = .record fields)
    (image : String → String) :
    AreKeyedBy image o.writtenProperties (mapFieldNames image fields) := by
  obtain ⟨items, ps, required, rfl, rfl⟩ := eq_of_typeExpr_record hType
  have hAll := h.byParts.writtenProperties.2
  have hNames : (Keyed.lastAtFirst o.writtenProperties).map (·.1) = ps.map (·.1) :=
    map_eq_map_of_forall₂ (hAll.imp fun _ _ hEntry => hEntry.1)
  rw [Keyed.lastAtFirst_keys] at hNames
  have hOrder := Keyed.inFirstOrder_eraseDups (o.writtenProperties.map (·.1))
  rw [hNames] at hOrder
  rw [mapFieldNames_eq_map, List.map_map]
  refine ⟨?_, fun _ _ => isKeyFor_memberKey _, ?_, ?_⟩
  · have hKeys := nodup_memberKey hOrder.nodup
    rw [List.map_map] at hKeys ⊢
    exact hKeys
  · rw [List.map_map]
    exact hOrder
  · intro field hField
    obtain ⟨p, hp, rfl⟩ := List.mem_map.mp hField
    obtain ⟨entry, hEntry, hName, hRead⟩ := exists_of_mem_right hAll hp
    refine ⟨entry.2, p.2, ?_, hRead, rfl⟩
    rw [← Keyed.last?_of_mem_lastAtFirst hEntry, hName]
    rfl

/-- Where steps lead to a record type inside the type of a schema, they lead to what is written of a
schema of this type. -/
theorem exists_of_hasRecord {path : List Step} (h : s.IsReadAs o)
    (hRecord : s.typeExpr.HasRecord fields path) :
    ∃ (o' : Outline) (inner : Schema),
      o.at? path = some o' ∧ inner.IsReadAs o' ∧ inner.typeExpr = .record fields := by
  generalize hType : s.typeExpr = t at hRecord
  induction hRecord generalizing o s with
  | whole => exact ⟨o, s, rfl, h, hType⟩
  | item hItem ih =>
      obtain ⟨items, properties, required, rfl, rfl⟩ := eq_of_typeExpr_list hType
      cases items with
      | none => cases hItem
      | some item =>
          obtain ⟨written, hWritten, hRead⟩ := h.byParts.items?
          obtain ⟨o', inner, hAt, hInner⟩ := ih hRead rfl
          refine ⟨o', inner, ?_, hInner⟩
          rw [Outline.at?, Outline.step?, hWritten]
          exact hAt
  | @member path others label u hMem _ ih =>
      obtain ⟨items, ps, required, rfl, rfl⟩ := eq_of_typeExpr_record hType
      obtain ⟨p, hp, hField⟩ := List.mem_map.mp hMem
      cases hField
      obtain ⟨hProperties, hAll⟩ := h.byParts.writtenProperties
      obtain ⟨⟨name, written⟩, hEntry, hName, hRead⟩ := exists_of_mem_right hAll hp
      cases hName
      obtain ⟨o', inner, hAt, hInner⟩ := ih hRead rfl
      refine ⟨o', inner, ?_, hInner⟩
      rw [Outline.at?, Outline.step?, hProperties, Option.bind_some,
        Keyed.get?_of_mem (Outline.nodup_of_properties? hProperties) hEntry]
      exact hAt

end IsReadAs

/-! ### Declarations of written schemas -/

/-- What the members of a schema are: none where nothing is said of its type; one for any key, of
its own type; one for any number, of the type of its items; or those of its own type. -/
inductive HasMembers (s : Schema) : List Member → Prop
  | none (hKeyword : s.keyword = none) : HasMembers s []
  | anyKey : HasMembers s [s.anyKey]
  | anyNumber {t : TypeExpr} (hType : s.typeExpr = .list t) :
      HasMembers s [.index "index" .number t]
  | own {fields : List (Label × TypeExpr)} (hType : s.typeExpr = .record fields) :
      HasMembers s (fields.map fun field => .field field.1 field.2)

theorem hasMembers (s : Schema) : s.HasMembers s.members := by
  unfold members
  split
  · exact .anyKey
  · next hReference =>
      rcases s with ⟨_ | reference, keyword, items, properties, required⟩
      case some => exact absurd rfl hReference
      split
      · next ps hKind hProperties =>
          cases hProperties
          cases keyword with
          | none => cases hKind
          | some k =>
              cases eq_named_of_kind (congrArg SchemaKind.word? hKind)
              exact .own (by rw [typeExpr_of_properties, fieldTypes_eq_map])
      · next item hKind hItems =>
          cases hItems
          cases keyword with
          | none => cases hKind
          | some k =>
              cases eq_named_of_kind (congrArg SchemaKind.word? hKind)
              exact .anyNumber (by simp [typeExpr, TypeKeyword.kind, itemType])
      · split
        · exact .anyKey
        · next hKeyword => exact .none (Option.not_isSome_iff_eq_none.mp hKeyword)

/-- A shared schema is declared by its members or by its type. -/
theorem shared_cases (s : Schema) (name : String) :
    (s.shared name).body = .interface s.members ∨ (s.shared name).body = .synonym s.typeExpr := by
  rw [shared]
  split
  · exact .inl rfl
  · exact .inr rfl

/-- The record types in the members of a schema stand in its type, where its members lead to. -/
theorem hasRecord_of_mem_members {s : Schema} {m : Member} {fields : List (Label × TypeExpr)}
    {path : List Step} (hMem : m ∈ s.members) (h : m.type.HasRecord fields path) :
    s.typeExpr.HasRecord fields (m.steps ++ path) := by
  have hMembers := s.hasMembers
  generalize s.members = members at hMem hMembers
  cases hMembers with
  | none => exact absurd hMem List.not_mem_nil
  | anyKey =>
      cases List.mem_singleton.mp hMem
      exact h
  | anyNumber hType =>
      cases List.mem_singleton.mp hMem
      rw [hType]
      exact .item h
  | own hType =>
      obtain ⟨⟨label, type⟩, hField, rfl⟩ := List.mem_map.mp hMem
      rw [hType]
      exact .member hField h

theorem mapNames_members_cases (s : Schema) (image : String → String) :
    (∃ fields : List (Label × TypeExpr), s.members.map (Member.mapNames image) =
      fields.map fun field => .field field.1 field.2) ∨
    ∃ key keyType t, s.members.map (Member.mapNames image) = [.index key keyType t] := by
  have hMembers := s.hasMembers
  generalize s.members = own at hMembers
  cases hMembers with
  | none => exact .inl ⟨[], rfl⟩
  | anyKey => exact .inr ⟨_, _, _, rfl⟩
  | anyNumber => exact .inr ⟨_, _, _, rfl⟩
  | own => exact .inl ⟨_, Member.map_mapNames_field image _⟩

namespace IsReadAs

variable {o : Outline} {s : Schema} {d : Declaration} {image : String → String}

/-- Nothing is written of properties where nothing is of the type. -/
theorem writtenProperties_of_keyword (h : s.IsReadAs o) (hKeyword : s.keyword = none) :
    o.writtenProperties = [] := by
  have hNone := rel_isSome h.byParts.keyword
  rw [hKeyword, Option.isSome_none, eq_comm, Option.isSome_eq_false_iff,
    Option.isNone_iff_eq_none] at hNone
  rw [Outline.writtenProperties, Outline.isOfType, hNone]
  simp

/-- The members of the interface of a schema have the keys of its properties. -/
theorem areKeyedBy_of_members {fields : List (Label × TypeExpr)} (h : s.IsReadAs o)
    (hSame : s.members.map (Member.mapNames image) =
      fields.map fun field => .field field.1 field.2) :
    AreKeyedBy image o.writtenProperties fields := by
  have hMembers := s.hasMembers
  generalize s.members = own at hSame hMembers
  cases hMembers with
  | none hKeyword =>
      cases List.map_eq_nil_iff.mp hSame.symm
      rw [h.writtenProperties_of_keyword hKeyword]
      exact ⟨List.nodup_nil, by simp, Keyed.inFirstOrder_eraseDups [], by simp⟩
  | anyKey => cases fields <;> cases hSame
  | anyNumber => cases fields <;> cases hSame
  | own hType =>
      rw [Member.map_mapNames_field] at hSame
      exact Member.eq_of_map_field hSame ▸ h.areKeyedBy hType image

theorem isKeyedBy_of_interface (h : s.IsReadAs o)
    (hBody : d.body = (DeclarationBody.interface s.members).mapNames image) :
    d.IsKeyedBy image o := by
  rw [DeclarationBody.mapNames] at hBody
  constructor
  case members =>
    intro members hOwn
    cases hBody.symm.trans hOwn
    exact s.mapNames_members_cases image
  case bodies =>
    intro fields path text hText
    cases hText with
    | lines hLines =>
        have hSame := DeclarationBody.interface.inj (hBody.symm.trans hLines)
        exact ⟨o, rfl, h.areKeyedBy_of_members hSame⟩
    | member hOwn hMem hRecord =>
        cases hBody.symm.trans hOwn
        obtain ⟨m, hBefore, rfl⟩ := List.mem_map.mp hMem
        rw [Member.type_mapNames] at hRecord
        obtain ⟨before, hSource, rfl⟩ := TypeExpr.exists_of_hasRecord_mapNames hRecord
        obtain ⟨o', inner, hAt, hInner, hType⟩ :=
          h.exists_of_hasRecord (hasRecord_of_mem_members hBefore hSource)
        refine ⟨o', ?_, hInner.areKeyedBy hType image⟩
        rw [Member.steps_mapNames]
        exact hAt
    | synonym hOwn => cases hBody.symm.trans hOwn

theorem isKeyedBy_of_synonym (h : s.IsReadAs o)
    (hBody : d.body = (DeclarationBody.synonym s.typeExpr).mapNames image) :
    d.IsKeyedBy image o := by
  rw [DeclarationBody.mapNames] at hBody
  constructor
  case members =>
    intro members hOwn
    cases hBody.symm.trans hOwn
  case bodies =>
    intro fields path text hText
    cases hText with
    | lines hOwn => cases hBody.symm.trans hOwn
    | member hOwn => cases hBody.symm.trans hOwn
    | synonym hOwn hRecord =>
        cases hBody.symm.trans hOwn
        obtain ⟨before, hSource, rfl⟩ := TypeExpr.exists_of_hasRecord_mapNames hRecord
        obtain ⟨o', inner, hAt, hInner, hType⟩ := h.exists_of_hasRecord hSource
        exact ⟨o', hAt, hInner.areKeyedBy hType image⟩

end IsReadAs

end Schema

end TypedClient
