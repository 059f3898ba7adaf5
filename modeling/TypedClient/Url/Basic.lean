import TypedClient.Text.Pieces

/-!
Addresses of the web: their parts, and how they are put together.
-/

namespace TypedClient

open Text

/-- The path of an address: segments, or text of no further structure. -/
inductive UrlPath where
  | segments (segments : List String)
  | rootless (text : String)
  deriving DecidableEq, Repr

/-- Who asks, in front of a host. -/
structure Userinfo where
  name : String
  password : String
  deriving DecidableEq, Repr

/-- An address. All parts are encoded as they are written. -/
structure Url where
  scheme : String
  /-- None if nothing but a path follows the scheme. -/
  host : Option String
  userinfo : Userinfo
  port : Option Nat
  path : UrlPath
  query : Option String
  fragment : Option String
  deriving DecidableEq, Repr

/-- What is wrong with the text of an address. -/
inductive UrlError where
  | emptyHost
  | invalidDomain
  | invalidPort
  | invalidV4
  | invalidV6
  | forbiddenCharacter
  | noScheme
  deriving DecidableEq, Repr

/-- What is wrong with the text of an address, in words. -/
def UrlError.message : UrlError → String
  | .emptyHost => "empty host"
  | .invalidDomain => "invalid international domain name"
  | .invalidPort => "invalid port number"
  | .invalidV4 => "invalid IPv4 address"
  | .invalidV6 => "invalid IPv6 address"
  | .forbiddenCharacter => "invalid domain character"
  | .noScheme => "relative URL without a base"

namespace Url

/-- The written form of who asks, the sign behind it included. -/
def Userinfo.render (u : Userinfo) : String :=
  if u.name = "" ∧ u.password = "" then ""
  else u.name ++ (if u.password = "" then "" else ":" ++ u.password) ++ "@"

/-- The path in writing. -/
def renderPath : UrlPath → String
  | .rootless text => text
  | .segments ss => concat (ss.map ("/" ++ ·))

/-- What stands in front of a path. Without a host, two slashes at the front of the path would read
as one, so a dot segment goes between. -/
def renderAuthority (u : Url) : String :=
  match u.host with
  | some host =>
    "//" ++ Userinfo.render u.userinfo ++ host ++ (match u.port with
      | some p => ":" ++ toString p
      | none => "")
  | none =>
    match u.path with
    | .segments ("" :: _ :: _) => "/."
    | _ => ""

/-- A part with its mark in front, if it is there. -/
def renderPart (mark : String) : Option String → String
  | some s => mark ++ s
  | none => ""

/-- Path and query, as they are asked for. -/
def target (u : Url) : String :=
  (match renderPath u.path with
    | "" => "/"
    | p => p) ++ renderPart "?" u.query

/-- The text of an address. -/
def render (u : Url) : String :=
  u.scheme ++ ":" ++ u.renderAuthority ++ renderPath u.path ++ renderPart "?" u.query
    ++ renderPart "#" u.fragment

/-- The address with one more item in its query. -/
def addQuery (u : Url) (name value : String) : Url :=
  { u with query := match u.query with
    | none => some (name ++ "=" ++ value)
    | some "" => some (name ++ "=" ++ value)
    | some q => some (q ++ "&" ++ name ++ "=" ++ value) }

end Url

end TypedClient
