import TypedClient.Client.Generate
import TypedClient.Proofs.Text.Pieces

/-!
What stands in front of the import in a script: a comment that shows the title and the version of
the description as they are. Main statement: these show nowhere else, and the comment is two lines
with an empty one behind them just when neither of them breaks a line.
-/

namespace TypedClient

open Script Text

/-! ### A comment of whole lines -/

namespace Script

/-- A line that is a comment, its end included. -/
def remarkLine (line : String) : String := "// " ++ line ++ "\n"

/-- What ends a line: the line feed and perhaps other characters, but none that ASCII has a picture
for. -/
structure EndsLines (ends : Char → Bool) : Prop where
  feed : ends '\n' = true
  plain : ∀ c : Char, ' ' ≤ c → c ≤ '~' → ends c = false

variable {ends : Char → Bool}

theorem EndsLines.of_printable (h : EndsLines ends) {cs : List Char}
    (hPrintable : ∀ c ∈ cs, ' ' ≤ c ∧ c ≤ '~') : ∀ c ∈ cs, ends c = false :=
  fun c hc => h.plain c (hPrintable c hc).1 (hPrintable c hc).2

/-- So many lines of comment and an empty line, each with its end. -/
def IsHeader (ends : Char → Bool) (count : Nat) (text : String) : Prop :=
  ∃ lines : List (List Char), lines.length = count ∧
    pieces ends text.toList = lines.map (['/', '/'] ++ ·) ++ [[], []]

theorem remarkLine_toList (line : String) :
    (remarkLine line).toList = ('/' :: '/' :: ' ' :: line.toList) ++ '\n' :: [] := by
  simp [remarkLine]

/-- Every line ends once, and besides where it breaks. -/
theorem countP_concat_remarkLine (hEnds : EndsLines ends) (lines : List String) :
    (concat (lines.map remarkLine)).toList.countP ends =
      lines.length + (lines.flatMap String.toList).countP ends := by
  have hMark : ends '/' = false ∧ ends ' ' = false :=
    ⟨hEnds.plain _ (by decide) (by decide), hEnds.plain _ (by decide) (by decide)⟩
  induction lines with
  | nil => rfl
  | cons line lines ih =>
      rw [List.map_cons, concat, String.toList_append, List.countP_append, ih, remarkLine_toList,
        List.flatMap_cons, List.countP_append, List.countP_append]
      simp only [List.countP_cons, hMark, hEnds.feed, List.countP_nil, List.length_cons,
        Bool.false_eq_true, ↓reduceIte]
      omega

theorem pieces_concat_remarkLine (hEnds : EndsLines ends) {lines : List String}
    (h : ∀ line ∈ lines, ∀ c ∈ line.toList, ends c = false) (rest : List Char) :
    pieces ends ((concat (lines.map remarkLine)).toList ++ rest) =
      lines.map (fun line => '/' :: '/' :: ' ' :: line.toList) ++ pieces ends rest := by
  have hLead : ∀ c ∈ "// ".toList, ends c = false := hEnds.of_printable (by simp)
  exact pieces_concat_lines hEnds.feed hLead h rest

theorem paragraph_eq {lines : List String} (h : lines ≠ []) :
    Module.paragraph lines = concat lines ++ "\n" := by
  cases lines with
  | nil => exact absurd rfl h
  | cons line lines => rfl

/-- A comment has as many lines as it is given just when none of these breaks: each break makes a
further line. -/
theorem isHeader_paragraph_iff (hEnds : EndsLines ends) {lines : List String} (hLines : lines ≠ []) :
    IsHeader ends lines.length (Module.paragraph (lines.map remarkLine)) ↔
      ∀ line ∈ lines, ∀ c ∈ line.toList, ends c = false := by
  have hText : (Module.paragraph (lines.map remarkLine)).toList =
      (concat (lines.map remarkLine)).toList ++ '\n' :: [] := by
    rw [paragraph_eq (by simpa using hLines), String.toList_append]
    rfl
  rw [IsHeader, hText]
  constructor
  · rintro ⟨bodies, hLength, hPieces⟩ line hLine c hc
    have hCount := length_pieces ends ((concat (lines.map remarkLine)).toList ++ '\n' :: [])
    rw [hPieces, List.length_append, List.length_map, hLength, List.countP_append,
      countP_concat_remarkLine hEnds, List.countP_cons_of_pos hEnds.feed] at hCount
    have hNone : (lines.flatMap String.toList).countP ends = 0 := by
      simp only [List.length_cons, List.length_nil, List.countP_nil] at hCount
      omega
    simpa using List.countP_eq_zero.mp hNone c (List.mem_flatMap.mpr ⟨line, hLine, hc⟩)
  · intro h
    refine ⟨lines.map fun line => ' ' :: line.toList, List.length_map .., ?_⟩
    rw [pieces_concat_remarkLine hEnds h, List.map_map]
    congr 1
    exact (pieces_append_cons hEnds.feed [] []).trans rfl

/-- The line that imports the client library. -/
def importLine : String := "import axios from 'axios';\n"

end Script

/-! ### The comment at the head of a client -/

/-- The text in front of the import. -/
def Info.header (info : Info) : String :=
  remarkLine "Auto-generated API client"
    ++ remarkLine ("Based on OpenAPI spec: " ++ info.title ++ " v" ++ info.version) ++ "\n"

/-- The two lines of the comment. -/
def Info.headerLines (info : Info) : List String :=
  ["Auto-generated API client", "Based on OpenAPI spec: " ++ info.title ++ " v" ++ info.version]

theorem Info.paragraph_headerLines (info : Info) :
    Module.paragraph (info.headerLines.map remarkLine) = info.header := by
  rw [paragraph_eq (by simp [headerLines]), headerLines, List.map_cons, List.map_cons,
    List.map_nil, concat, concat, concat, String.append_empty, header]

/-- The comment is two lines with an empty one behind them just when neither the title nor the
version breaks a line. -/
theorem Info.isHeader_iff {ends : Char → Bool} (hEnds : EndsLines ends) (info : Info) :
    IsHeader ends 2 info.header ↔
      ∀ c ∈ info.title.toList ++ info.version.toList, ends c = false := by
  have hFirst : ∀ c ∈ "Auto-generated API client".toList, ends c = false :=
    hEnds.of_printable (by simp)
  have hSecond : ∀ c ∈ "Based on OpenAPI spec: ".toList, ends c = false :=
    hEnds.of_printable (by simp)
  have hMark : ∀ c ∈ " v".toList, ends c = false := hEnds.of_printable (by simp)
  have hSome : info.headerLines ≠ [] := List.cons_ne_nil _ _
  have hLines := isHeader_paragraph_iff hEnds hSome
  rw [info.paragraph_headerLines] at hLines
  refine hLines.trans ⟨?_, ?_⟩
  · intro h c hc
    refine h _ (List.mem_cons_of_mem _ (List.mem_singleton.mpr rfl)) c ?_
    simp only [String.toList_append, List.mem_append]
    rcases List.mem_append.mp hc with hc | hc
    · exact .inl (.inl (.inr hc))
    · exact .inr hc
  · intro h line hLine c hc
    rcases List.mem_cons.mp hLine with rfl | hLine
    · exact hFirst c hc
    · rw [List.mem_singleton.mp hLine] at hc
      simp only [String.toList_append, List.mem_append] at hc
      rcases hc with ((hc | hc) | hc) | hc
      · exact hSecond c hc
      · exact h c (List.mem_append_left _ hc)
      · exact hMark c hc
      · exact h c (List.mem_append_right _ hc)

/-- A client begins with the comment and the import, with an empty line behind each. -/
theorem Client.renderHead_ofDocument (d : Document) (o : Options) :
    ((ofDocument d o).script o).renderHead = d.info.header ++ importLine ++ "\n" := by
  have hHeader : ((ofDocument d o).script o).header = d.info.headerLines := by
    rw [ofDocument]
    cases o.naming <;> rfl
  have hImports : Module.paragraph (((ofDocument d o).script o).imports.map Import.render) =
      importLine ++ "\n" := by
    change Module.paragraph [Import.render ⟨"axios", "axios"⟩] = importLine ++ "\n"
    decide
  rw [Module.renderHead, hImports, hHeader, String.append_assoc, ← d.info.paragraph_headerLines]
  rfl

namespace Document

/-- The title and the version show in front of the import and nowhere else. -/
theorem exists_code_eq (d : Document) (o : Options) :
    ∃ rest, ∀ info : Info,
      (generate { d with info := info } o).code = info.header ++ importLine ++ rest := by
  refine ⟨"\n" ++ (Module.slot ((Client.ofDocument d o).script o).components ++
    ((Client.ofDocument d o).script o).renderBody), fun info => ?_⟩
  have hScript : (Client.ofDocument { d with info := info } o).script o =
      { (Client.ofDocument d o).script o with header := info.headerLines } := by
    rw [Client.ofDocument, Client.ofDocument]
    cases o.naming <;> rfl
  rw [generate, Client.render, Module.render, Client.renderHead_ofDocument, hScript]
  simp only [String.append_assoc]
  rfl

/-- In the code of a client, the title and the version show in front of the import and nowhere else.
What stands there is two lines of comment and an empty one just when neither of them breaks a
line. -/
theorem header_closed_iff {ends : Char → Bool} (hEnds : EndsLines ends) (d : Document)
    (o : Options) :
    ∃ rest, (∀ info : Info,
        (generate { d with info := info } o).code = info.header ++ importLine ++ rest) ∧
      (IsHeader ends 2 d.info.header ↔
        ∀ c ∈ d.info.title.toList ++ d.info.version.toList, ends c = false) := by
  obtain ⟨rest, hCode⟩ := d.exists_code_eq o
  exact ⟨rest, hCode, d.info.isHeader_iff hEnds⟩

/-- The characters that end a line of a script, and with it a comment. -/
def isLineEnd (c : Char) : Bool :=
  c = '\n' || c = '\r' || c = '\u2028' || c = '\u2029'

theorem endsLines_isLineEnd : EndsLines isLineEnd where
  feed := by decide
  plain := by
    intro c hLow hHigh
    have hBelow : c ≠ '\n' ∧ c ≠ '\r' := by
      constructor <;> rintro rfl <;> exact absurd hLow (by decide)
    have hAbove : c ≠ '\u2028' ∧ c ≠ '\u2029' := by
      constructor <;> rintro rfl <;> exact absurd hHigh (by decide)
    simp [isLineEnd, hBelow, hAbove]

/-- A description without operations whose title ends the comment that shows it. -/
def loud : Document :=
  ⟨⟨"Loud\nalert(1) //", "1"⟩, [], none⟩

theorem loud_header_closed_iff :
    EndsLines isLineEnd ∧
    ∃ rest, (∀ info : Info,
        (generate { loud with info := info } .standard).code =
          info.header ++ importLine ++ rest) ∧
      (IsHeader isLineEnd 2 loud.info.header ↔
        ∀ c ∈ loud.info.title.toList ++ loud.info.version.toList, isLineEnd c = false) :=
  ⟨endsLines_isLineEnd, header_closed_iff endsLines_isLineEnd loud .standard⟩

/-- The lines in front of its import, up to the empty one. -/
def loudLines : List String :=
  ["// Auto-generated API client", "// Based on OpenAPI spec: Loud", "alert(1) // v1"]

/-- A title with a line feed brings a line in front of the import that is neither empty nor a
comment. -/
theorem loud_shows :
    ∃ line ∈ (pieces (· = '\n') (loud.generate .standard).code.toList).takeWhile
        (· ≠ "import axios from 'axios';".toList),
      line ≠ [] ∧ ¬ ['/', '/'] <+: line := by
  have hHeader : loud.info.header = concat (loudLines.map ("" ++ · ++ "\n")) ++ "\n" := by
    simp [Info.header, remarkLine, loud, loudLines, concat]
  obtain ⟨rest, hCode⟩ := loud.exists_code_eq .standard
  have hText : (loud.generate .standard).code.toList =
      (concat (loudLines.map ("" ++ · ++ "\n"))).toList ++ ("\n" ++ importLine ++ rest).toList := by
    have hLoud : (loud.generate .standard).code = loud.info.header ++ importLine ++ rest :=
      hCode loud.info
    rw [hLoud, hHeader, ← String.toList_append, String.append_assoc, String.append_assoc,
      String.append_assoc]
  have hWhole : ∀ line ∈ loudLines, ∀ c ∈ line.toList, decide (c = '\n') = false := by
    simp [loudLines]
  have hBare : ∀ c ∈ "".toList, decide (c = '\n') = false := by simp
  have hPieces := pieces_concat_lines (p := (· = '\n')) rfl hBare hWhole
    ("\n" ++ importLine ++ rest).toList
  have hOther : ∀ line ∈ loudLines, line ≠ "import axios from 'axios';" := by decide
  have hBefore : ∀ line ∈ loudLines.map fun line => "".toList ++ line.toList,
      decide (line ≠ "import axios from 'axios';".toList) = true := by
    intro line hLine
    obtain ⟨s, hs, rfl⟩ := List.mem_map.mp hLine
    exact decide_eq_true fun hSame => hOther s hs (String.toList_inj.mp hSame)
  refine ⟨"alert(1) // v1".toList, ?_, by simp, by simp⟩
  rw [hText, hPieces, List.takeWhile_append_of_pos hBefore]
  exact List.mem_append_left _ (List.mem_map.mpr ⟨"alert(1) // v1", by simp [loudLines], rfl⟩)

end Document

end TypedClient
