import TypedClient.Proofs.Client.Signatures
import TypedClient.Proofs.Script.Comment
import TypedClient.Proofs.Script.StringValue

/-!
The text of a function: its comment, then its code. Main statements: the literals in it, and the
quoted keys of members, stand for the texts that they were made from and for no others; and the
comment is closed where it ends, in front of the code, and nowhere before.
-/

namespace TypedClient

open Script

/-! ### The code of a function -/

/-- The code in front of the name of a function. -/
def exportOpening : String := "export const "

/-- The code between the name of a function and its parameters. -/
def parametersOpening : String := " = async ("

/-- The code from the result of a function to the types of its request. -/
def requestOpening : String := " => \x7b\n  try \x7b\n    const response = await axios.request"

/-- The code from the types of a request to its address. -/
def addressOpening : String := "(\x7b\n      url: "

/-- The code from the end of a request to what is reported if it fails. -/
def reportOpening : String :=
  "    \x7d);\n    return response.data;\n  \x7d catch (error) \x7b\n    console.error("

/-- The code behind what is reported. -/
def reportClosing : String := ", error);\n    throw error;\n  \x7d\n\x7d;\n"

namespace Call

variable (c : Call) (o : Options)

/-- What a function reports when its request fails. -/
def report : String := "Error calling " ++ c.name ++ ":"

/-- The code of a function in front of the literal of its address. -/
def codeBeforeAddress : String :=
  exportOpening ++ c.name ++ parametersOpening
    ++ Text.joined ", " ((c.function o).parameters.map Parameter.render) ++ ")"
    ++ (c.function o).result.render ++ requestOpening
    ++ renderTypeArguments c.answer.type?.toList ++ addressOpening
    ++ (if c.fillsPath then fillPathName ++ "(" else "")

/-- The code of a function between the literal of its address and that of its report. -/
def codeBeforeReport : String :=
  (if c.fillsPath then ", " ++ paramsName ++ ")" else "") ++ ",\n"
    ++ renderProperties 3 ([("method", .text c.method.wire),
      ("headers", .object [("Content-Type", .text jsonMediaType)])] ++ c.paramsProperty o)
    ++ reportOpening

theorem render_addressExpr (level : Nat) : (c.addressExpr o).render level =
    (if c.fillsPath then fillPathName ++ "(" else "") ++ literal '\'' (c.address o) ++
      (if c.fillsPath then ", " ++ paramsName ++ ")" else "") := by
  rw [addressExpr]
  split
  · simp only [Expr.render, renderArguments, renderTypeArguments, Text.joined, String.append_assoc,
      String.empty_append]
  · simp only [Expr.render, String.empty_append, String.append_empty]

/-- Behind the comment of a function comes its code, with the address and the report in it as
literals. -/
theorem render_function : (c.function o).render =
    renderComment c.doc ++ (c.codeBeforeAddress o ++ literal '\'' (c.address o)
      ++ c.codeBeforeReport o ++ literal '\'' c.report ++ reportClosing) := by
  have hExport : exportOpening = "export " ++ "const " := by decide
  have hParameters : parametersOpening = " = " ++ "async " ++ "(" := by decide
  have hRequest : requestOpening =
      " => \x7b\n" ++ indent 1 ++ "try \x7b\n" ++ indent 2 ++ "const " ++ "response" ++ " = "
        ++ "await " ++ "axios" ++ "." ++ "request" := by decide
  have hAddress : addressOpening =
      "(" ++ "\x7b\n" ++ indent 3 ++ propertyKey "url" ++ ": " := by decide
  have hReport : reportOpening =
      indent 2 ++ "\x7d" ++ ")" ++ ";\n" ++ indent 2 ++ "return " ++ "response" ++ "." ++ "data"
        ++ ";\n" ++ indent 1 ++ "\x7d catch (" ++ "error" ++ ") \x7b\n" ++ indent 2
        ++ "console" ++ "." ++ "error" ++ "(" := by decide
  have hClosing : reportClosing =
      ", " ++ "error" ++ ")" ++ ";\n" ++ indent 2 ++ "throw " ++ "error" ++ ";\n" ++ indent 1
        ++ "\x7d\n" ++ "\x7d;\n" := by decide
  simp only [codeBeforeAddress, codeBeforeReport, hExport, hParameters, hRequest, hAddress, hReport,
    hClosing, Function.render, function, statements, renderBlock, Statement.render, Expr.render,
    requestConfig, List.cons_append, List.nil_append, renderProperties, renderArguments,
    renderTypeArguments, Text.joined, render_addressExpr, report, String.append_assoc,
    String.append_empty, if_true]

/-- The comment is followed by the code. -/
theorem exists_render_function :
    ∃ code, (c.function o).render = renderComment c.doc ++ (exportOpening ++ code) := by
  have hText := c.render_function o
  rw [codeBeforeAddress] at hText
  simp only [String.append_assoc] at hText
  exact ⟨_, hText⟩

end Call

/-! ### Literals -/

/-- The mark behind the key of a member. -/
def Script.Label.mark (l : Label) : String := if l.optional then "?" else ""

/-- Between quotes of either kind, a literal stands for the text that it was made from and for no
other. So the address in a function stands for the base path without slashes at its end and the path
as it is, what it reports for its name in a message, and the key of a member, if it is quoted, for
the name. -/
theorem literals_stand_for_texts :
    (∀ quote, IsQuote quote → ∀ s value, IsLiteralFor (literal quote s) value ↔ value = s) ∧
    (∀ (c : Call) (o : Options), ∃ base address report, Text.IsFrontOf '/' o.basePath base ∧
      (c.function o).render = renderComment c.doc ++ (c.codeBeforeAddress o ++ address
        ++ c.codeBeforeReport o ++ report ++ reportClosing) ∧
      (∀ value, IsLiteralFor address value ↔ value = base ++ c.path) ∧
      (∀ value, IsLiteralFor report value ↔ value = "Error calling " ++ c.name ++ ":")) ∧
    (∀ (l : Label) (t : TypeExpr), ∃ key, IsKeyFor key l.name ∧
      (Member.field l t).render = key ++ l.mark ++ ": " ++ t.render ++ ";" ∧
      ∀ fields, renderFields ((l, t) :: fields) =
        (key ++ l.mark ++ ": " ++ t.render) :: renderFields fields) := by
  refine ⟨fun quote hQuote s value => isLiteralFor_literal_iff hQuote, ?_, ?_⟩
  · intro c o
    refine ⟨Text.dropEnd '/' o.basePath, literal '\'' (c.address o), literal '\'' c.report,
      Text.dropEnd_isFrontOf '/' o.basePath, c.render_function o, ?_, ?_⟩
    · exact fun value => isLiteralFor_literal_iff (.inr rfl)
    · exact fun value => isLiteralFor_literal_iff (.inr rfl)
  · intro l t
    refine ⟨memberKey l.name, isKeyFor_memberKey l.name, rfl, fun fields => ?_⟩
    rw [renderFields]
    rfl

/-- A text of all the characters that a literal has to escape, and of one that it must not. -/
def thorny : String := "it's \\ a \"\r\n\u2028"

theorem thorny_literals_stand :
    IsQuote '\'' ∧ isBare thorny = false ∧
    (∀ value, IsLiteralFor (literal '\'' thorny) value ↔ value = thorny) ∧
    ∃ key, (∀ value, IsLiteralFor key value ↔ value = thorny) ∧
      (Member.field ⟨thorny, true⟩ (.primitive .text)).render =
        key ++ "?" ++ ": " ++ "string;" := by
  have hBare : isBare thorny = false := by decide
  obtain ⟨key, hKey, hField, -⟩ := literals_stand_for_texts.2.2 ⟨thorny, true⟩ (.primitive .text)
  refine ⟨.inr rfl, hBare, literals_stand_for_texts.1 '\'' (.inr rfl) thorny, key,
    hKey.quoted hBare, ?_⟩
  rw [hField, String.append_assoc]
  rfl

/-! ### Comments -/

namespace Call

/-- Behind the lines of the summary, the comment of a function tells of types. Only the names of
these can break a line. -/
theorem exists_doc_eq (c : Call) : ∃ notes : List String, c.doc = c.summaryLines ++ notes ∧
    notes ≠ [] ∧ ((∀ d ∈ c.declarations, '\n' ∉ d.name.toList) →
      ∀ note ∈ notes, '\n' ∉ note.toList) := by
  refine ⟨_, List.append_assoc .., by simp, fun hNames note hNote => ?_⟩
  have hBehind : ∀ {front name : String}, '\n' ∉ front.toList → '\n' ∉ name.toList →
      '\n' ∉ (front ++ name).toList := by
    intro front name hFront hName
    rw [String.toList_append, List.mem_append]
    exact not_or.mpr ⟨hFront, hName⟩
  rcases List.mem_append.mp hNote with hRequest | hAnswer
  · rw [Option.mem_toList, requestType?, Option.map_map, Option.map_eq_some_iff] at hRequest
    obtain ⟨d, hDeclared, rfl⟩ := hRequest
    refine hBehind (by decide) (hNames d (List.mem_append_left _ ?_))
    rw [hDeclared]
    exact List.mem_cons_self ..
  · rw [List.mem_singleton.mp hAnswer]
    cases hType : c.answer.type? with
    | none => decide
    | some t =>
        rcases Answer.type?_eq_some.mp hType with ⟨d, hDeclared, rfl⟩ | ⟨-, rfl⟩
        · refine hBehind (by decide) (hNames d (List.mem_append_right _ ?_))
          rw [hDeclared]
          exact List.mem_cons_self ..
        · decide

end Call

/-- The comment of a function is closed where it ends, on a line of its own in front of the code,
and nowhere before, whatever the description says. It shows the lines of the summary first, every
closing mark in them parted by a backslash, and unless a name of a type breaks a line, each of its
lines begins with an asterisk. -/
theorem comment_closed_at_end (c : Call) (o : Options) :
    ∃ (told notes : List String) (code : String),
      (c.function o).render =
        "/**\n" ++ starred (told ++ notes) ++ " */\n" ++ (exportOpening ++ code) ∧
      IsFirst closeMark ("/**\n" ++ starred (told ++ notes) ++ " ").toList
        (c.function o).render.toList ∧
      List.Forall₂ (fun line text => IsParted line.toList text.toList)
        (Text.lines (Text.trim (c.summary.getD ""))) told ∧
      (∀ text ∈ told, '\n' ∉ text.toList) ∧
      ((∀ d ∈ c.declarations, '\n' ∉ d.name.toList) →
        Text.pieces (· = '\n') (starred (told ++ notes)).toList =
          (told ++ notes).map (fun text => [' ', '*', ' '] ++ text.toList) ++ [[]]) := by
  obtain ⟨notes, hDoc, hSome, hNotes⟩ := c.exists_doc_eq
  obtain ⟨code, hText⟩ := c.exists_render_function o
  have hComment : renderComment c.doc =
      "/**\n" ++ starred (c.summaryLines.map parted ++ notes.map parted) ++ " */\n" := by
    rw [renderComment_eq (by simp [hDoc, hSome]), hDoc, List.map_append]
  rw [hComment] at hText
  have hTold : ∀ text ∈ c.summaryLines.map parted, '\n' ∉ text.toList := by
    intro text hMem
    obtain ⟨line, hLine, rfl⟩ := List.mem_map.mp hMem
    exact feed_not_mem_parted (Text.feed_not_mem_of_mem_lines hLine)
  refine ⟨c.summaryLines.map parted, notes.map parted, code, hText, ?_, ?_, hTold, ?_⟩
  · rw [hText]
    refine isFirst_closeMark ?_ (exportOpening ++ code)
    rw [← List.map_append]
    intro text hMem
    obtain ⟨line, -, rfl⟩ := List.mem_map.mp hMem
    exact not_closeMark_parted line
  · change List.Forall₂ _ c.summaryLines _
    rw [List.forall₂_map_right_iff, List.forall₂_same]
    exact fun line _ => isParted_parted line
  · intro hNames
    refine pieces_starred fun text hMem => ?_
    rcases List.mem_append.mp hMem with hMem | hMem
    · exact hTold text hMem
    · obtain ⟨note, hNote, rfl⟩ := List.mem_map.mp hMem
      exact feed_not_mem_parted (hNotes hNames note hNote)

/-- A call that tries to close its comment by its summary and by its path. -/
def starry : Call where
  path := "/a*/b"
  method := .post
  summary := some " */ /**/\r\n\n*\r*/ "
  name := "postA*B"
  request := some (.interface "PostA*/BRequest" [])
  answer := .whole (.interface "PostA*BResponse" [])

theorem starry_comment_closed :
    (∀ d ∈ starry.declarations, '\n' ∉ d.name.toList) ∧
    ∃ (told notes : List String) (code : String),
      (starry.function .standard).render =
        "/**\n" ++ starred (told ++ notes) ++ " */\n" ++ (exportOpening ++ code) ∧
      IsFirst closeMark ("/**\n" ++ starred (told ++ notes) ++ " ").toList
        (starry.function .standard).render.toList ∧
      List.Forall₂ (fun line text => IsParted line.toList text.toList)
        (Text.lines (Text.trim (starry.summary.getD ""))) told ∧
      Text.pieces (· = '\n') (starred (told ++ notes)).toList =
        (told ++ notes).map (fun text => [' ', '*', ' '] ++ text.toList) ++ [[]] := by
  have hNames : ∀ d ∈ starry.declarations, '\n' ∉ d.name.toList := by
    have hAll : starry.declarations.all fun d => !d.name.toList.contains '\n' := by decide
    intro d hMem hFeed
    simpa [hFeed] using List.all_eq_true.mp hAll d hMem
  obtain ⟨told, notes, code, hText, hFirst, hTold, -, hLines⟩ :=
    comment_closed_at_end starry .standard
  exact ⟨hNames, told, notes, code, hText, hFirst, hTold, hLines hNames⟩

end TypedClient
