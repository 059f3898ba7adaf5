import TypedClient.Log.Event
import TypedClient.Text.Alphanumeric
import TypedClient.Text.Blank

/-!
Which events are shown. A filter is a list of rules, each with a limit for the events it is about;
of several rules about an event the most specific one counts. A filter is written as rules between
commas:

  limit              all events
  target             all events of a target and what lies below it, without limit
  target=limit       the same with a limit
  target[{field}]    only those that have the field

A rule may also name a span, or a value of a field. Such a rule is about what happens inside of
spans, and nothing here does.
-/

namespace TypedClient

open Text

/-- How much is shown: what matters no less than a level, or nothing. -/
inductive Limit where
  | off
  | upTo (level : Level)
  deriving DecidableEq, Repr

namespace Limit

/-- Whether a limit lets a level pass. -/
def admits : Limit → Level → Bool
  | .off, _ => false
  | .upTo least, level => least.rank ≤ level.rank

/-- No limit. -/
def all : Limit := .upTo .trace

/-- The limits by their numbers. -/
def numbered : List Limit :=
  [.off, .upTo .error, .upTo .warn, .upTo .info, .upTo .debug, .upTo .trace]

/-- The limits by their names. -/
def named : List (String × Limit) :=
  [("error", .upTo .error), ("warn", .upTo .warn), ("info", .upTo .info),
    ("debug", .upTo .debug), ("trace", .upTo .trace), ("off", .off)]

/-- The value of a number in digits, with a plus sign in front or not. -/
def number? (cs : List Char) : Option Nat :=
  let digits := match cs with
    | '+' :: rest => rest
    | cs => cs
  if digits = [] ∨ !digits.all Char.isDigit then none
  else some (digits.foldl (fun n c => 10 * n + (c.toNat - '0'.toNat)) 0)

/-- The limit that a word names, in upper or lower case, or by its number. -/
def ofWord? (cs : List Char) : Option Limit :=
  match number? cs with
  | some n => numbered[n]?
  | none => named.lookup (String.ofList (cs.map Char.toLower))

end Limit

/-- A rule of a filter. -/
structure Rule where
  target : Option (List Char)
  fields : List String
  limit : Limit
  deriving DecidableEq, Repr

/-- What is wrong with a rule. -/
inductive RuleFault where
  | malformed
  | unknownLimit
  deriving DecidableEq, Repr

/-- What is wrong with a rule, in words. -/
def RuleFault.message : RuleFault → String
  | .malformed => "invalid filter directive"
  | .unknownLimit => "error parsing level filter: expected one of \"off\", \"error\", \"warn\", " ++
      "\"info\", \"debug\", \"trace\", or a number 0-5"

namespace Rule

/-- Whether a rule can start with a character. -/
def canStart (c : Char) : Bool :=
  isAlphanumeric c || c = '-' || c = ':' || c = '_'

/-- The limit behind an equals sign; without a word there is none. -/
def readLimit (cs : List Char) : Except RuleFault Limit :=
  if cs = [] then .ok .all
  else match Limit.ofWord? cs with
    | some limit => .ok limit
    | none => .error .unknownLimit

/-- What stands between brackets: whether it is about spans, and the names of fields. -/
structure Scope where
  spans : Bool
  fields : List String

/-- What stands behind an opening bracket, and what follows the closing one. A field stands between
braces. -/
def readScope (cs : List Char) : Except RuleFault (Scope × List Char) :=
  let isOpening := fun c : Char => c.toNat = 0x7B
  let isClosing := fun c : Char => c.toNat = 0x7D
  let span := cs.takeWhile fun c => c ≠ ']' && !isOpening c
  match cs.dropWhile fun c => c ≠ ']' && !isOpening c with
  | [] => .error .malformed
  | ']' :: rest => .ok (⟨true, []⟩, rest)
  | _ :: inner =>
    let field := inner.takeWhile (!isClosing ·)
    match inner.dropWhile (!isClosing ·) with
    | _ :: ']' :: rest =>
      if field = [] then .error .malformed
      else .ok (⟨span ≠ [] || field.contains '=', [String.ofList field]⟩, rest)
    | _ => .error .malformed

/-- The limit at the end of a rule. -/
def readEnd : List Char → Except RuleFault Limit
  | [] => .ok .all
  | '=' :: rest => readLimit rest
  | _ => .error .malformed

/-- The rule in a text; none if it is about spans. A limit with white space in front of the rule or
behind it is none. -/
def read? (cs : List Char) : Except RuleFault (Option Rule) :=
  let trimmed := trimList cs
  let isMark := fun c : Char => c = '=' || c = '['
  let target := trimmed.takeWhile (!isMark ·)
  let isPadded := trimmed.length ≠ cs.length
  match trimmed.dropWhile (!isMark ·) with
  | [] =>
    if !(trimmed.head?.any canStart) then .error .malformed
    else match Limit.ofWord? cs with
      | some limit => .ok (some ⟨none, [], limit⟩)
      | none => .ok (some ⟨some cs, [], .all⟩)
  | '=' :: rest =>
    if !(target.head?.any canStart) then .error .malformed
    else if isPadded then .error .unknownLimit
    else do return some ⟨some target, [], ← readLimit rest⟩
  | _ :: inner =>
    if target ≠ [] ∧ !(target.head?.any canStart) then .error .malformed
    else do
      let (scope, rest) ← readScope inner
      let limit ← readEnd rest
      if scope.spans then return none
      else return some ⟨if target = [] then none else some target, scope.fields, limit⟩

/-- Whether a rule is about an event. The message of an event is a field as well. -/
def isAbout (r : Rule) (e : Event) : Bool :=
  (r.target.getD []).isPrefixOf e.target.toList
    && r.fields.all fun f => f = "message" || e.fields.any (·.1 = f)

/-- How specific a rule is: first the length of its target, then the number of its fields. -/
def isBefore (a b : Rule) : Bool :=
  let size := fun r : Rule => match r.target with
    | none => 0
    | some t => (String.ofList t).utf8ByteSize + 1
  size a > size b || (size a = size b && a.fields.length ≥ b.fields.length)

end Rule

/-- A filter for events, the most specific rules first. -/
structure Filter where
  rules : List Rule
  deriving DecidableEq, Repr

namespace Filter

/-- Whether an event is shown. -/
def admits (f : Filter) (e : Event) : Bool :=
  match f.rules.find? (·.isAbout e) with
  | some r => r.limit.admits e.level
  | none => false

/-- Adds a rule; one about the same events is replaced. -/
def addRule (rules : List Rule) (r : Rule) : List Rule :=
  rules.filter (fun q => q.target ≠ r.target || q.fields ≠ r.fields) ++ [r]

/-- A filter of rules, of which later ones replace earlier ones. If there is not even a rule about
spans, errors alone are shown. -/
def ofRules (rules : List (Option Rule)) : Filter :=
  let found := (rules.filterMap id).foldl addRule []
  ⟨(if rules = [] then [⟨none, [], .upTo .error⟩] else found).mergeSort Rule.isBefore⟩

/-- What is said of a rule that cannot be read. -/
def complaint (cs : List Char) (e : RuleFault) : String :=
  "ignoring `" ++ String.ofList cs ++ "`: " ++ e.message ++ "\n"

/-- Reads the rules one after the other: those that can be read, and what is said of the others. -/
def readRules : List (List Char) → List (Option Rule) × String
  | [] => ([], "")
  | cs :: rest =>
    let (rules, said) := readRules rest
    match Rule.read? cs with
    | .ok r => (r :: rules, said)
    | .error e => (rules, complaint cs e ++ said)

/-- The filter in a text, and what is said of the rules that cannot be read. -/
def ofString (s : String) : Filter × String :=
  let (rules, said) := readRules (words (· = ',') s.toList)
  (ofRules rules, said)

/-- The targets whose events a bare level is about. -/
def ownTargets : List String := ["a2i_cli", "a2i_core", "a2i_common"]

/-- The levels that may stand alone. -/
def bareLevels : List String := ["trace", "debug", "info", "warn", "error"]

/-- A filter with one limit for all own targets. -/
def ownText (level : String) : String :=
  joined "," (ownTargets.map (· ++ "=" ++ level))

/-- The text of the filter that a setting of the environment stands for. -/
def specText (setting : Option String) : String :=
  let spec := trim (setting.getD "")
  let lower := String.ofList (spec.toList.map Char.toLower)
  if bareLevels.contains lower then ownText lower
  else if spec = "" then ownText "warn"
  else spec

/-- The filter that a setting of the environment stands for. -/
def ofSetting (setting : Option String) : Filter × String :=
  ofString (specText setting)

end Filter

end TypedClient
