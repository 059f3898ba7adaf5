import TypedClient.Proofs.Script.StringValue
import TypedClient.Proofs.Text.Margins
import TypedClient.Script.Expr

/-!
Levels of nesting. A text that is laid out at any level either goes on in a line that has begun or
consists of whole lines, and both kinds are put together of smaller ones. Main statement: so many
levels further in, an expression reads the same but that every line except its first has two spaces
more for each level in front, and of a statement every line has; and lines are broken by statements
and around the properties of objects, never by a literal.
-/

namespace TypedClient.Script

open Text

/-! ### Names -/

mutual

/-- The names in an expression: those that stand alone or behind a point, and those of types. -/
def Expr.names : Expr → List String
  | .name name => [name]
  | .text _ => []
  | .call callee typeArguments arguments =>
    callee.names ++ typeArguments.flatMap TypeExpr.names ++ argumentNames arguments
  | .member object name => object.names ++ [name]
  | .object properties => propertyNames properties
  | .await value => value.names

/-- The names in the arguments of a call. -/
def argumentNames : List Expr → List String
  | [] => []
  | e :: es => e.names ++ argumentNames es

/-- The names in the values of properties. -/
def propertyNames : List (String × Expr) → List String
  | [] => []
  | (_, e) :: rest => e.names ++ propertyNames rest

end

mutual

/-- The names in a statement, those that it binds included. -/
def Statement.names : Statement → List String
  | .const name value => name :: value.names
  | .eval value => value.names
  | .return value => value.names
  | .throw value => value.names
  | .attempt body binding handler => binding :: (blockNames body ++ blockNames handler)
  | .verbatim _ => []

/-- The names in a block. -/
def blockNames : List Statement → List String
  | [] => []
  | s :: ss => s.names ++ blockNames ss

end

mutual

/-- No part of a statement is given as lines of text. -/
def Statement.isStructured : Statement → Bool
  | .attempt body _ handler => blockIsStructured body && blockIsStructured handler
  | .verbatim _ => false
  | _ => true

/-- No part of a block is given as lines of text. -/
def blockIsStructured : List Statement → Bool
  | [] => true
  | s :: ss => s.isStructured && blockIsStructured ss

end

/-! ### Line feeds -/

mutual

/-- How many line feeds an expression takes: an object that is not empty has one behind its opening
brace and one behind each property. -/
def Expr.feeds : Expr → Nat
  | .name _ => 0
  | .text _ => 0
  | .call callee _ arguments => callee.feeds + argumentFeeds arguments
  | .member object _ => object.feeds
  | .object [] => 0
  | .object properties => propertyFeeds properties + 1
  | .await value => value.feeds

/-- How many line feeds the arguments of a call take. -/
def argumentFeeds : List Expr → Nat
  | [] => 0
  | e :: es => e.feeds + argumentFeeds es

/-- How many line feeds properties take. -/
def propertyFeeds : List (String × Expr) → Nat
  | [] => 0
  | (_, e) :: rest => e.feeds + 1 + propertyFeeds rest

end

mutual

/-- How many line feeds a statement takes: one at its end, and two more to set off its blocks. -/
def Statement.feeds : Statement → Nat
  | .const _ value => value.feeds + 1
  | .eval value => value.feeds + 1
  | .return value => value.feeds + 1
  | .throw value => value.feeds + 1
  | .attempt body _ handler => blockFeeds body + 1 + (blockFeeds handler + 1) + 1
  | .verbatim lines => lines.length

/-- How many line feeds a block takes. -/
def blockFeeds : List Statement → Nat
  | [] => 0
  | s :: ss => s.feeds + blockFeeds ss

end

/-! ### Texts in one line -/

theorem oneLine_literal {quote : Char} (hQuote : IsQuote quote) (s : String) :
    OneLine (literal quote s) :=
  fun h => ((isLiteralFor_literal hQuote s).unbroken _ h).1 rfl

theorem oneLine_of_isBare {s : String} (h : isBare s = true) : OneLine s := by
  obtain ⟨c, cs, hText, -, hParts⟩ := isBare_toList h
  intro hFeed
  exact absurd (hParts '\n' (hText ▸ hFeed)) (by decide)

theorem oneLine_memberKey (name : String) : OneLine (memberKey name) := by
  rw [memberKey]
  split
  · next hBare => exact oneLine_of_isBare hBare
  · exact oneLine_literal (.inl rfl) name

theorem oneLine_propertyKey (name : String) : OneLine (propertyKey name) := by
  rw [propertyKey]
  split
  · next hBare => exact oneLine_of_isBare hBare
  · exact oneLine_literal (.inr rfl) name

theorem Label.oneLine_render (l : Label) : OneLine l.render := by
  rw [render]
  refine (oneLine_memberKey l.name).append ?_
  split <;> decide

mutual

theorem TypeExpr.oneLine_render :
    (t : TypeExpr) → (∀ name ∈ t.names, OneLine name) → OneLine t.render
  | .primitive p, _ => by cases p <;> decide
  | .list item, h => (item.oneLine_render h).append (by decide)
  | .record fields, h => by
      have hFields : OneLine (joined ", " (renderFields fields)) :=
        OneLine.joined (by decide) (oneLine_renderFields fields h)
      exact (OneLine.append (by decide) hFields).append (by decide)
  | .named name, h => h name (List.mem_singleton.mpr rfl)

theorem oneLine_renderFields :
    (fields : List (Label × TypeExpr)) → (∀ name ∈ fieldNames fields, OneLine name) →
      ∀ s ∈ renderFields fields, OneLine s
  | [], _, _, hs => absurd hs List.not_mem_nil
  | (label, type) :: rest, h, s, hs => by
      rcases List.mem_cons.mp hs with rfl | hs
      · have hType := type.oneLine_render fun name hName => h name (List.mem_append_left _ hName)
        exact (label.oneLine_render.append (by decide)).append hType
      · exact oneLine_renderFields rest (fun name hName => h name (List.mem_append_right _ hName))
          s hs

end

theorem oneLine_renderTypeArguments {ts : List TypeExpr}
    (h : ∀ name ∈ ts.flatMap TypeExpr.names, OneLine name) : OneLine (renderTypeArguments ts) := by
  cases ts with
  | nil => decide
  | cons t ts =>
      have hTypes : ∀ s ∈ (t :: ts).map TypeExpr.render, OneLine s := by
        intro s hs
        obtain ⟨type, hType, rfl⟩ := List.mem_map.mp hs
        exact type.oneLine_render fun name hName =>
          h name (List.mem_flatMap.mpr ⟨type, hType, hName⟩)
      exact (OneLine.append (by decide) (OneLine.joined (by decide) hTypes)).append (by decide)

/-! ### Texts at a level -/

theorem indent_add (n k : Nat) : indent (n + k) = indent k ++ indent n := by
  rw [indent, indent, indent, ← String.ofList_append, List.replicate_append_replicate,
    Nat.mul_add, Nat.add_comm]

theorem oneLine_indent (n : Nat) : OneLine (indent n) := by
  rw [OneLine, indent, String.toList_ofList]
  intro hFeed
  exact absurd (List.eq_of_mem_replicate hFeed) (by decide)

/-- A text that goes on in a line of some level and ends within a line, with so many line feeds. At
a deeper level, each of its further lines is so much further in. -/
structure Phrase (f : Nat → String) (feeds : Nat) : Prop where
  deeper : ∀ n k, f (n + k) = deepened (indent k) (f n)
  count : ∀ n, (f n).toList.count '\n' = feeds
  unended : ∀ n, (f n).toList.getLast? ≠ some '\n'

/-- A text of whole lines at some level, with so many line feeds. At a deeper level, each of its
lines is so much further in; where it ends, the next line would be so as well. -/
structure Rows (f : Nat → String) (feeds : Nat) : Prop where
  deeper : ∀ n k, indent k ++ deepened (indent k) (f n) = f (n + k) ++ indent k
  count : ∀ n, (f n).toList.count '\n' = feeds

/-- A phrase behind its own indentation, with a line feed at its end. -/
def Row (f : Nat → String) (feeds : Nat) : Prop :=
  ∃ g inner, Phrase g inner ∧ feeds = inner + 1 ∧ ∀ n, f n = indent n ++ g n ++ "\n"

variable {f g : Nat → String} {a b : Nat}

namespace Phrase

theorem of_oneLine {s : String} (h : OneLine s) : Phrase (fun _ => s) 0 where
  deeper := fun _ _ => (deepened_of_oneLine h).symm
  count := fun _ => List.count_eq_zero.mpr h
  unended := fun _ hLast => h (List.mem_of_getLast? hLast)

theorem append (hf : Phrase f a) (hg : Phrase g b) : Phrase (fun n => f n ++ g n) (a + b) where
  deeper := by
    intro n k
    rw [deepened_append, hf.deeper, hg.deeper]
  count := by
    intro n
    rw [String.toList_append, List.count_append, hf.count, hg.count]
  unended := by
    intro n hLast
    rw [String.toList_append, List.getLast?_append, Option.or_eq_some_iff] at hLast
    rcases hLast with hLast | ⟨-, hLast⟩
    · exact hg.unended n hLast
    · exact hf.unended n hLast

theorem oneLine_append {s : String} (h : OneLine s) (hf : Phrase f a) :
    Phrase (fun n => s ++ f n) a := by
  simpa only [Nat.zero_add] using (of_oneLine h).append hf

theorem append_oneLine {s : String} (hf : Phrase f a) (h : OneLine s) :
    Phrase (fun n => f n ++ s) a :=
  hf.append (of_oneLine h)

theorem row (hf : Phrase f a) : Row (fun n => indent n ++ f n ++ "\n") (a + 1) :=
  ⟨f, a, hf, rfl, fun _ => rfl⟩

theorem hang_eq (hf : Phrase f a) (n k : Nat) : f (n + k) = hang (indent k) (f n) := by
  rw [hang_eq_deepened (hf.unended n), hf.deeper]

end Phrase

namespace Row

theorem rows (hf : Row f a) : Rows f a := by
  obtain ⟨g, inner, hg, rfl, hText⟩ := hf
  constructor
  · intro n k
    rw [hText, hText, deepened_append, deepened_append, deepened_of_oneLine (oneLine_indent n),
      deepened_feed, ← hg.deeper, indent_add]
    simp only [String.append_assoc]
  · intro n
    have hIndent : (indent n).toList.count '\n' = 0 := List.count_eq_zero.mpr (oneLine_indent n)
    rw [hText, String.toList_append, String.toList_append, List.count_append, List.count_append,
      hIndent, hg.count, Nat.zero_add]
    rfl

theorem hang_eq (hf : Row f a) (n k : Nat) : f (n + k) = indent k ++ hang (indent k) (f n) := by
  obtain ⟨g, inner, hg, rfl, hText⟩ := hf
  rw [hText, hText, hang_append_feed, deepened_append, deepened_of_oneLine (oneLine_indent n),
    ← hg.deeper, indent_add]
  simp only [String.append_assoc]

end Row

namespace Rows

theorem nil : Rows (fun _ => "") 0 where
  deeper := by
    intro n k
    rw [deepened_of_oneLine (by decide), String.append_empty, String.empty_append]
  count := fun _ => rfl

theorem append (hf : Rows f a) (hg : Rows g b) : Rows (fun n => f n ++ g n) (a + b) where
  deeper := by
    intro n k
    calc indent k ++ deepened (indent k) (f n ++ g n)
        = indent k ++ deepened (indent k) (f n) ++ deepened (indent k) (g n) := by
          rw [deepened_append, String.append_assoc]
      _ = f (n + k) ++ (indent k ++ deepened (indent k) (g n)) := by
          rw [hf.deeper, String.append_assoc]
      _ = f (n + k) ++ g (n + k) ++ indent k := by rw [hg.deeper, String.append_assoc]
  count := by
    intro n
    rw [String.toList_append, List.count_append, hf.count, hg.count]

/-- Lines between braces, a level further in, go on in the line of the opening brace. -/
theorem block (hf : Rows f a) :
    Phrase (fun n => "\x7b\n" ++ f (n + 1) ++ indent n ++ "\x7d") (a + 1) where
  deeper := by
    intro n k
    have hOpening : deepened (indent k) "\x7b\n" = "\x7b\n" ++ indent k := by
      have hSplit : "\x7b\n" = "\x7b" ++ "\n" := rfl
      rw [hSplit, deepened_append, deepened_of_oneLine (by decide), deepened_feed,
        String.append_assoc]
    have hInside := hf.deeper (n + 1) k
    rw [Nat.add_right_comm] at hInside
    calc "\x7b\n" ++ f (n + k + 1) ++ indent (n + k) ++ "\x7d"
        = "\x7b\n" ++ (f (n + k + 1) ++ indent k) ++ indent n ++ "\x7d" := by
          rw [indent_add]
          simp only [String.append_assoc]
      _ = "\x7b\n" ++ indent k ++ deepened (indent k) (f (n + 1)) ++ indent n ++ "\x7d" := by
          rw [← hInside]
          simp only [String.append_assoc]
      _ = deepened (indent k) ("\x7b\n" ++ f (n + 1) ++ indent n ++ "\x7d") := by
          rw [deepened_append, deepened_append, deepened_append, hOpening,
            deepened_of_oneLine (oneLine_indent n), deepened_of_oneLine (s := "\x7d") (by decide)]
  count := by
    intro n
    have hOpening : "\x7b\n".toList.count '\n' = 1 := by decide
    have hIndent : (indent n).toList.count '\n' = 0 := List.count_eq_zero.mpr (oneLine_indent n)
    have hClosing : "\x7d".toList.count '\n' = 0 := by decide
    rw [String.toList_append, String.toList_append, String.toList_append, List.count_append,
      List.count_append, List.count_append, hOpening, hf.count, hIndent, hClosing]
    omega
  unended := by
    intro n
    have hClosing : "\x7d".toList = ['\x7d'] := rfl
    rw [String.toList_append, hClosing, List.getLast?_concat]
    decide

end Rows

/-! ### Expressions -/

mutual

/-- An expression is a phrase. Objects are the only ones that take more than a line, and what stands
in them is a level further in. -/
theorem Expr.phrase : (e : Expr) → (∀ name ∈ e.names, OneLine name) →
    Phrase (fun n => e.render n) e.feeds
  | .name name, h => .of_oneLine (h name (List.mem_singleton.mpr rfl))
  | .text value, _ => .of_oneLine (oneLine_literal (.inr rfl) value)
  | .call callee typeArguments arguments, h => by
      have hCallee := callee.phrase fun name hName =>
        h name (List.mem_append_left _ (List.mem_append_left _ hName))
      have hTypes : OneLine (renderTypeArguments typeArguments ++ "(") :=
        (oneLine_renderTypeArguments fun name hName =>
          h name (List.mem_append_left _ (List.mem_append_right _ hName))).append (by decide)
      have hArguments := phrase_arguments arguments fun name hName =>
        h name (List.mem_append_right _ hName)
      have hCall := ((hCallee.append_oneLine hTypes).append hArguments).append_oneLine
        (s := ")") (by decide)
      simpa only [Expr.render, Expr.feeds, String.append_assoc] using hCall
  | .member object name, h => by
      have hObject := object.phrase fun name hName => h name (List.mem_append_left _ hName)
      have hName : OneLine ("." ++ name) :=
        OneLine.append (by decide) (h name (List.mem_append_right _ (List.mem_singleton.mpr rfl)))
      simpa only [Expr.render, Expr.feeds, String.append_assoc] using hObject.append_oneLine hName
  | .object [], _ => .of_oneLine (s := "\x7b\x7d") (by decide)
  | .object (property :: properties), h => (rows_properties (property :: properties) h).block
  | .await value, h => (value.phrase h).oneLine_append (s := "await ") (by decide)

theorem phrase_arguments : (es : List Expr) → (∀ name ∈ argumentNames es, OneLine name) →
    Phrase (fun n => joined ", " (renderArguments n es)) (argumentFeeds es)
  | [], _ => .of_oneLine (s := "") (by decide)
  | e :: es, h => by
      have hFirst := e.phrase fun name hName => h name (List.mem_append_left _ hName)
      have hRest := phrase_arguments es fun name hName => h name (List.mem_append_right _ hName)
      cases es with
      | nil => exact hFirst
      | cons e' es =>
          exact (hFirst.append_oneLine (s := ", ") (by decide)).append hRest

theorem rows_properties : (properties : List (String × Expr)) →
    (∀ name ∈ propertyNames properties, OneLine name) →
    Rows (fun n => renderProperties n properties) (propertyFeeds properties)
  | [], _ => .nil
  | (key, value) :: rest, h => by
      have hKey : OneLine (propertyKey key ++ ": ") := (oneLine_propertyKey key).append (by decide)
      have hValue := value.phrase fun name hName => h name (List.mem_append_left _ hName)
      have hRow := ((hValue.oneLine_append hKey).append_oneLine (s := ",") (by decide)).row
      have hRest := rows_properties rest fun name hName => h name (List.mem_append_right _ hName)
      simpa only [renderProperties, propertyFeeds, String.append_assoc, String.reduceAppend]
        using hRow.rows.append hRest

end

/-! ### Statements -/

/-- A word, an expression and a semicolon make a row. -/
theorem row_of_word {word : String} (hWord : OneLine word) {value : Expr}
    (h : ∀ name ∈ value.names, OneLine name) :
    Row (fun n => indent n ++ word ++ value.render n ++ ";\n") (value.feeds + 1) := by
  have hRow := (((value.phrase h).oneLine_append hWord).append_oneLine (s := ";") (by decide)).row
  simpa only [String.append_assoc, String.reduceAppend] using hRow

mutual

/-- A statement is a row. What stands in a block of it is a level further in. -/
theorem Statement.row : (s : Statement) → s.isStructured = true →
    (∀ name ∈ s.names, OneLine name) → Row (fun n => s.render n) s.feeds
  | .const name value, _, h => by
      have hWord : OneLine ("const " ++ name ++ " = ") :=
        (OneLine.append (by decide) (h name (List.mem_cons_self ..))).append (by decide)
      have hRow := row_of_word hWord fun other hOther => h other (List.mem_cons_of_mem _ hOther)
      simpa only [Statement.render, Statement.feeds, String.append_assoc] using hRow
  | .eval value, _, h => by
      simpa only [Statement.render, Statement.feeds, String.append_empty]
        using row_of_word (show OneLine "" by decide) h
  | .return value, _, h => row_of_word (show OneLine "return " by decide) h
  | .throw value, _, h => row_of_word (show OneLine "throw " by decide) h
  | .attempt body binding handler, hStructured, h => by
      obtain ⟨hTried, hHandled⟩ := Bool.and_eq_true_iff.mp hStructured
      have hBody := rows_block body hTried fun name hName =>
        h name (List.mem_cons_of_mem _ (List.mem_append_left _ hName))
      have hHandler := rows_block handler hHandled fun name hName =>
        h name (List.mem_cons_of_mem _ (List.mem_append_right _ hName))
      have hCatch : OneLine (" catch (" ++ binding ++ ") ") :=
        (OneLine.append (by decide) (h binding (List.mem_cons_self ..))).append (by decide)
      have hRow := (((hBody.block.oneLine_append (s := "try ") (by decide)).append_oneLine
        hCatch).append hHandler.block).row
      have hTryBrace : "try \x7b\n" = "try " ++ "\x7b\n" := rfl
      have hCatchBrace : "\x7d catch (" = "\x7d" ++ " catch (" := rfl
      have hHandlerBrace : ") \x7b\n" = ") " ++ "\x7b\n" := rfl
      have hLastBrace : "\x7d\n" = "\x7d" ++ "\n" := rfl
      simpa only [Statement.render, Statement.feeds, hTryBrace, hCatchBrace, hHandlerBrace,
        hLastBrace, String.append_assoc] using hRow
  | .verbatim _, hStructured, _ => nomatch hStructured

theorem rows_block : (ss : List Statement) → blockIsStructured ss = true →
    (∀ name ∈ blockNames ss, OneLine name) → Rows (fun n => renderBlock n ss) (blockFeeds ss)
  | [], _, _ => .nil
  | s :: ss, hStructured, h => by
      obtain ⟨hFirst, hRest⟩ := Bool.and_eq_true_iff.mp hStructured
      exact (s.row hFirst fun name hName => h name (List.mem_append_left _ hName)).rows.append
        (rows_block ss hRest fun name hName => h name (List.mem_append_right _ hName))

end

/-- Expressions and statements whose names do not break the line are laid out alike at all levels.
So many levels further in, two spaces for each stand in front of every line that begins behind a
line feed, and in front of a statement as well. Lines are broken where statements end and around
blocks and properties, and by no literal, whatever is in it. -/
theorem render_add (n k : Nat) :
    (∀ e : Expr, (∀ name ∈ e.names, OneLine name) →
      e.render (n + k) = hang (indent k) (e.render n) ∧
      (e.render n).toList.count '\n' = e.feeds) ∧
    (∀ s : Statement, s.isStructured = true → (∀ name ∈ s.names, OneLine name) →
      s.render (n + k) = indent k ++ hang (indent k) (s.render n) ∧
      (s.render n).toList.count '\n' = s.feeds) ∧
    ∀ text : String, OneLine ((Expr.text text).render n) := by
  refine ⟨?_, ?_, fun text => oneLine_literal (.inr rfl) text⟩
  · intro e h
    have hPhrase := e.phrase h
    exact ⟨hPhrase.hang_eq n k, hPhrase.count n⟩
  · intro s hStructured h
    have hRow := s.row hStructured h
    exact ⟨hRow.hang_eq n k, hRow.rows.count n⟩

/-- A request whose literals, keys and labels would all break the line if they were written as they
are. -/
def brokenRequest : Expr :=
  .await (.call (.member (.name "axios") "request")
    [.list (.record [(⟨"first\nname", true⟩, .named "Name")])]
    [.object [("url", .text "/a\n  b'"), ("x\ny", .object [("k", .object [])])], .name "rest"])

/-- It is tried twice, one attempt inside the other. -/
def brokenAttempt : Statement :=
  .attempt [.attempt [.const "reply" brokenRequest] "early" [.eval (.text "\r\n")]] "late"
    [.throw (.name "late"), .return (.object [])]

theorem brokenAttempt_render_add :
    (∀ name ∈ brokenRequest.names, OneLine name) ∧
    brokenRequest.render (1 + 2) = hang (indent 2) (brokenRequest.render 1) ∧
    brokenAttempt.isStructured = true ∧ (∀ name ∈ brokenAttempt.names, OneLine name) ∧
    brokenAttempt.render (1 + 2) = indent 2 ++ hang (indent 2) (brokenAttempt.render 1) ∧
    (brokenAttempt.render 1).toList.count '\n' = 15 := by
  have hNames : ∀ name ∈ brokenRequest.names, OneLine name := by
    have hAll : brokenRequest.names.all fun name => OneLine name := by decide
    exact fun name hName => of_decide_eq_true (List.all_eq_true.mp hAll name hName)
  have hAllNames : ∀ name ∈ brokenAttempt.names, OneLine name := by
    have hAll : brokenAttempt.names.all fun name => OneLine name := by decide
    exact fun name hName => of_decide_eq_true (List.all_eq_true.mp hAll name hName)
  have hExpr := (render_add 1 2).1 brokenRequest hNames
  have hStatement := (render_add 1 2).2.1 brokenAttempt rfl hAllNames
  exact ⟨hNames, hExpr.1, rfl, hAllNames, hStatement.1, hStatement.2.trans (by decide)⟩

end TypedClient.Script
