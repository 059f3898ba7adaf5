import TypedClient.Charset.Decode

/-!
The content type of an answer, as far as it names a character set.
-/

namespace TypedClient.ContentType

open Text

/-- Whether a character may stand in a token. -/
def isToken (c : Char) : Bool :=
  c.isAlphanum || "!#$%&'*+-.^_|~".toList.contains c || c.toNat = 0x60

/-- Whether a character may stand between quotes: printable ASCII and the tab. -/
def isQuotable (c : Char) : Bool :=
  c = '\t' || (0x20 ≤ c.toNat && c.toNat < 0x7F && c ≠ '"')

/-- A value without quotes, up to a semicolon or the end, and what follows that. -/
def takeBare (cs : List Char) : Option (List Char × List Char) :=
  let value := cs.takeWhile isToken
  match cs.dropWhile isToken with
  | [] => some (value, [])
  | ';' :: rest => if value = [] then none else some (value, rest)
  | _ => none

/-- A value between quotes, from behind the first on, and what follows the next semicolon. -/
def takeQuoted (cs : List Char) : Option (List Char × List Char) :=
  let value := cs.takeWhile isQuotable
  match cs.dropWhile isQuotable with
  | '"' :: rest =>
    if value = [] then none
    else match rest.dropWhile (· = ' ') with
      | [] => some (value, [])
      | ';' :: rest => some (value, rest)
      | _ => none
  | _ => none

/-- The parameters of a type, each a name and a value; none if one is malformed. There can be no
more of them than the given number. -/
def parameters : Nat → List Char → Option (List (List Char × List Char))
  | 0, _ => some []
  | count + 1, cs =>
    match cs.dropWhile (· = ' ') with
    | [] => some []
    | cs =>
      let name := cs.takeWhile isToken
      match cs.dropWhile isToken with
      | '=' :: rest =>
        if name = [] then none
        else do
          let (value, rest) ← match rest with
            | '"' :: rest => takeQuoted rest
            | _ => takeBare rest
          return (name, value) :: (← parameters count rest)
      | _ => none

/-- The value of the first charset parameter of a type, if the type is well formed. -/
def charsetLabel? (contentType : String) : Option String :=
  let cs := contentType.toList
  let main := cs.takeWhile isToken
  match cs.dropWhile isToken with
  | '/' :: rest =>
    let sub := rest.takeWhile isToken
    if main = [] ∨ sub = [] then none
    else match rest.dropWhile isToken with
      | ';' :: rest => do
        let ps ← parameters (rest.length + 1) rest
        let (_, value) ← ps.find? fun p => p.1.map Char.toLower = "charset".toList
        return String.ofList value
      | _ => none
  | _ => none

/-- The character set of an answer with the given content type: UTF-8 if none is named, or none
that is known. -/
def charset (contentType : Option String) : Charset :=
  ((contentType.bind charsetLabel?).bind Charset.ofLabel?).getD .utf8

end TypedClient.ContentType
