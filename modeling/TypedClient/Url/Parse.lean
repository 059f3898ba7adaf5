import TypedClient.Url.Address
import TypedClient.Url.Basic
import TypedClient.Url.Domain.Basic

/-!
Reading the text of an absolute address. Schemes of the web are read leniently: any number of
slashes or backslashes may stand in front of the host, and a backslash in the path is a slash.
-/

namespace TypedClient.Url

open Text

/-- How the text behind a scheme is read. -/
inductive SchemeKind where
  /-- A scheme of the web: it has a host and a path. -/
  | web
  /-- Files: the host may be missing. -/
  | file
  | other
  deriving DecidableEq, Repr

/-- How the text behind a scheme is read. -/
def SchemeKind.ofScheme (scheme : String) : SchemeKind :=
  if ["http", "https", "ws", "wss", "ftp"].contains scheme then .web
  else if scheme = "file" then .file
  else .other

/-- Whether backslashes count as slashes. -/
def SchemeKind.isSpecial (k : SchemeKind) : Bool :=
  k ≠ .other

/-- The port of a scheme where none is written. -/
def defaultPort? (scheme : String) : Option Nat :=
  if scheme = "http" ∨ scheme = "ws" then some 80
  else if scheme = "https" ∨ scheme = "wss" then some 443
  else if scheme = "ftp" then some 21
  else none

/-- Drops blanks and controls from both ends, and tabs and line ends everywhere. -/
def cleaned (cs : List Char) : List Char :=
  let isTrimmed := fun c : Char => c.toNat ≤ 0x20
  (((cs.dropWhile isTrimmed).reverse.dropWhile isTrimmed).reverse).filter
    fun c => c ≠ '\t' && c ≠ '\n' && c ≠ '\r'

/-- Whether a character may stand in a scheme behind its first. -/
def isSchemePart (c : Char) : Bool :=
  c.isAlphanum || c = '+' || c = '-' || c = '.'

/-- The scheme, in lower case, and what follows its colon. -/
def takeScheme (cs : List Char) : Option (String × List Char) :=
  match cs with
  | [] => none
  | c :: _ =>
    if c.isAlpha then
      match cs.dropWhile isSchemePart with
      | ':' :: rest => some (String.ofList ((cs.takeWhile isSchemePart).map Char.toLower), rest)
      | _ => none
    else none

/-- Whether a character separates segments of a path. -/
def isSlash (special : Bool) (c : Char) : Bool :=
  c = '/' || (special && c = '\\')

/-- Whether a character ends what stands in front of a path. -/
def endsAuthority (special : Bool) (c : Char) : Bool :=
  isSlash special c || c = '?' || c = '#'

/-! ### Host and port -/

/-- Characters up to the last of a kind, without it, and what follows it. -/
def splitLast (isSeparator : Char → Bool) (cs : List Char) : Option (List Char × List Char) :=
  let behind := cs.reverse.takeWhile fun c => !isSeparator c
  match cs.reverse.dropWhile fun c => !isSeparator c with
  | [] => none
  | _ :: front => some (front.reverse, behind.reverse)

/-- Who asks. A colon stands between name and password. -/
def Userinfo.ofChars (cs : List Char) : Userinfo :=
  let name := cs.takeWhile (· ≠ ':')
  let password := (cs.dropWhile (· ≠ ':')).drop 1
  ⟨String.ofList (percentEncode .userinfo name), String.ofList (percentEncode .userinfo password)⟩

/-- Splits off who asks: what stands in front of the last such sign of the authority. -/
def takeUserinfo (special : Bool) (cs : List Char) :
    Except UrlError (Userinfo × Bool × List Char) :=
  let authority := cs.takeWhile fun c => !endsAuthority special c
  let rest := cs.dropWhile fun c => !endsAuthority special c
  match splitLast (· = '@') authority with
  | none => .ok (⟨"", ""⟩, false, cs)
  | some ([], host) =>
    if host = [] ∧ rest ≠ [] then .error .emptyHost else .ok (⟨"", ""⟩, false, host ++ rest)
  | some (info, host) =>
    let u := Userinfo.ofChars info
    .ok (u, u.name ≠ "" || u.password ≠ "", host ++ rest)

/-- Characters up to the end of a host. A colon inside brackets does not end it. -/
def takeHost (special : Bool) (inBrackets : Bool) : List Char → List Char × List Char
  | [] => ([], [])
  | c :: cs =>
    if endsAuthority special c || (c = ':' && !inBrackets) then ([], c :: cs)
    else
      let inBrackets := c = '[' || (inBrackets && c ≠ ']')
      let (host, rest) := takeHost special inBrackets cs
      (c :: host, rest)

/-- A host between brackets. -/
def bracketHost (cs : List Char) : Except UrlError String :=
  if cs.getLast? ≠ some ']' then .error .invalidV6
  else match addressV6? (cs.drop 1).dropLast with
    | some gs => .ok ("[" ++ renderV6 gs ++ "]")
    | none => .error .invalidV6

/-- The host of a scheme of the web or of files. -/
def specialHost (cs : List Char) : Except UrlError String :=
  if cs.head? = some '[' then bracketHost cs
  else
    match (decodeUtf8? (percentDecode cs)).bind Domain.ascii? with
    | none => .error .invalidDomain
    | some [] => .error .emptyHost
    | some domain =>
      if endsInNumber domain then
        match addressV4? domain with
        | some n => .ok (renderV4 n)
        | none => .error .invalidV4
      else .ok (String.ofList domain)

/-- The host of any other scheme. -/
def otherHost (cs : List Char) : Except UrlError String :=
  if cs.head? = some '[' then bracketHost cs
  else if cs.any fun c => c.toNat = 0 || " #/:<>?@[\\]^|".toList.contains c then
    .error .forbiddenCharacter
  else .ok (String.ofList (percentEncode .opaquePath cs))

/-- The port behind a colon, if it is not the usual one, and what follows. -/
def takePort (scheme : String) (cs : List Char) : Except UrlError (Option Nat × List Char) :=
  let digits := cs.takeWhile Char.isDigit
  let rest := cs.dropWhile Char.isDigit
  let port := (digitsValue? 10 digits).getD 0
  if port > 65535 then .error .invalidPort
  else if rest.head?.any fun c => !endsAuthority true c then .error .invalidPort
  else if digits = [] ∨ defaultPort? scheme = some port then .ok (none, rest)
  else .ok (some port, rest)

/-- A host and a port. -/
structure Authority where
  host : String
  userinfo : Userinfo
  port : Option Nat

/-- The authority behind two slashes, and what follows. -/
def takeAuthority (scheme : String) (kind : SchemeKind) (cs : List Char) :
    Except UrlError (Authority × List Char) := do
  let (info, hasInfo, cs) ← takeUserinfo kind.isSpecial cs
  let (host, rest) := takeHost kind.isSpecial false cs
  if host = [] ∧ (kind.isSpecial ∨ hasInfo ∨ rest.head? = some ':') then throw .emptyHost
  let host ← if kind.isSpecial then specialHost host else otherHost host
  match rest with
  | ':' :: rest => do
    let (port, rest) ← takePort scheme rest
    return (⟨host, info, port⟩, rest)
  | _ => return (⟨host, info, none⟩, rest)

/-! ### Path -/

/-- Whether a segment leads to the directory it stands in. -/
def isSingleDot (s : String) : Bool :=
  [".", "%2e"].contains (s.map Char.toLower)

/-- Whether a segment leads to the directory above. -/
def isDoubleDot (s : String) : Bool :=
  ["..", ".%2e", "%2e.", "%2e%2e"].contains (s.map Char.toLower)

/-- Whether a segment names a drive: a letter, and a colon or a bar. -/
def isDrive (s : String) : Bool :=
  match s.toList with
  | [a, b] => a.isAlpha && (b = ':' || b = '|')
  | _ => false

/-- A drive with its colon; any other segment as it is. -/
def normalDrive (s : String) : String :=
  if isDrive s then String.ofList (s.toList.take 1 ++ [':']) else s

/-- The path without its last segment. A drive stays. -/
def shorten (kind : SchemeKind) (path : List String) : List String :=
  match path with
  | [drive] => if kind = .file ∧ isDrive drive then path else []
  | _ => path.dropLast

/-- The path with further segments, of which dots are followed. What leads to a directory leaves
an empty segment at the end. -/
def walk (kind : SchemeKind) (path : List String) : List String → List String
  | [] => path
  | s :: ss =>
    let path :=
      if isDoubleDot s then
        let path := shorten kind path
        if ss = [] then path ++ [""] else path
      else if isSingleDot s then
        if ss = [] then path ++ [""] else path
      else if kind = .file ∧ path = [] then [normalDrive s]
      else path ++ [s]
    walk kind path ss

/-- A path of files: no empty segments in front. -/
def dropEmptyFront (path : List String) : List String :=
  match path.dropWhile (· = "") with
  | [] => [""]
  | path => path

/-- The segments of a path, from behind its first slash on. -/
def pathSegments (kind : SchemeKind) (cs : List Char) : List String :=
  let path := walk kind []
    ((pieces (isSlash kind.isSpecial) cs).map fun p => String.ofList (percentEncode .path p))
  if kind = .file then dropEmptyFront path else path

/-- The path behind an authority. -/
def pathBehind (kind : SchemeKind) (cs : List Char) : List String :=
  match cs with
  | [] => if kind.isSpecial then [""] else []
  | c :: rest => pathSegments kind (if isSlash kind.isSpecial c then rest else cs)

/-! ### Query and fragment -/

/-- The text up to a query or fragment, and those. -/
def takeTrail (kind : SchemeKind) (cs : List Char) :
    List Char × Option String × Option String :=
  let front := cs.takeWhile fun c => c ≠ '?' && c ≠ '#'
  let queryPart := if kind.isSpecial then Part.specialQuery else Part.query
  let fragment := fun cs => String.ofList (percentEncode .fragment cs)
  match cs.dropWhile fun c => c ≠ '?' && c ≠ '#' with
  | '?' :: rest =>
    let query := String.ofList (percentEncode queryPart (rest.takeWhile (· ≠ '#')))
    match rest.dropWhile (· ≠ '#') with
    | '#' :: rest => (front, some query, some (fragment rest))
    | _ => (front, some query, none)
  | '#' :: rest => (front, none, some (fragment rest))
  | _ => (front, none, none)

/-! ### Whole addresses -/

/-- The address of a scheme with an authority, from behind its slashes on. -/
def withAuthority (scheme : String) (kind : SchemeKind) (cs : List Char) :
    Except UrlError Url := do
  let (authority, rest) ← takeAuthority scheme kind cs
  let (path, query, fragment) := takeTrail kind rest
  return ⟨scheme, some authority.host, authority.userinfo, authority.port,
    .segments (pathBehind kind path), query, fragment⟩

/-- The address of files, from behind its scheme on. -/
def ofFile (scheme : String) (cs : List Char) : Except UrlError Url := do
  let slashes := (cs.take 2).all (isSlash true) && cs.length ≥ 2
  let behind := if slashes then cs.drop 2 else cs
  let host := if slashes then behind.takeWhile fun c => !endsAuthority true c else []
  let isHost := !isDrive (String.ofList host)
  let rest := if isHost then behind.drop host.length else behind
  let host ← if isHost ∧ host ≠ [] then specialHost host else .ok ""
  let (path, query, fragment) := takeTrail .file rest
  let path := pathBehind .file path
  let startsAtDrive := path.head?.any isDrive
  return ⟨scheme, some (if host = "localhost" || startsAtDrive then "" else host), ⟨"", ""⟩, none,
    .segments path, query, fragment⟩

/-- The address of a scheme without meaning of its own, from behind it on. -/
def ofOther (scheme : String) (cs : List Char) : Except UrlError Url :=
  match cs with
  | '/' :: '/' :: rest => withAuthority scheme .other rest
  | _ =>
    let (path, query, fragment) := takeTrail .other cs
    let path := match path with
      | '/' :: rest => UrlPath.segments (pathSegments .other rest)
      | _ => .rootless (String.ofList (percentEncode .opaquePath path))
    .ok ⟨scheme, none, ⟨"", ""⟩, none, path, query, fragment⟩

/-- The address in a text. -/
def ofString (s : String) : Except UrlError Url :=
  match takeScheme (cleaned s.toList) with
  | none => .error .noScheme
  | some (scheme, rest) =>
    match SchemeKind.ofScheme scheme with
    | .web => withAuthority scheme .web (rest.dropWhile (isSlash true))
    | .file => ofFile scheme rest
    | .other => ofOther scheme rest

end TypedClient.Url
