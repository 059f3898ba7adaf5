import TypedClient.Log.Event
import TypedClient.Service.ContentType
import TypedClient.Service.Endpoint
import TypedClient.Service.Status

/-!
Asking a service for the description of a project: what is sent, what can go wrong, and what comes
back. The network is a value: it says at which port of this machine a server listens, and what it
answers.
-/

namespace TypedClient

open Text

/-- What is sent to a service. -/
structure ExportCall where
  method : String
  target : String
  accept : String
  authorization : String
  contentType : String
  apiVersion : String
  body : String
  deriving DecidableEq, Repr

/-- What a service answers. -/
structure Reply where
  status : Nat
  content : List UInt8
  contentType : Option String
  deriving DecidableEq, Repr

/-- The text of an answer. -/
def Reply.text (r : Reply) : String :=
  if lacksContent r.status then ""
  else (ContentType.charset r.contentType).decodeText r.content

/-- A server on this machine. Without a reply it hangs up when it is asked. -/
structure Server where
  port : Nat
  reply : Option Reply
  deriving DecidableEq, Repr

/-- What can be reached, and whether there are certificates to trust. -/
structure Network where
  server : Option Server
  certificates : Bool
  deriving DecidableEq, Repr

/-- Why a request could not be made. -/
inductive RequestFault where
  /-- A value cannot stand in a header. -/
  | header
  /-- The address is not one that can be asked. -/
  | address (url : String)
  /-- No answer came from the address. -/
  | noAnswer (url : String)
  deriving DecidableEq, Repr

/-- Why a request could not be made, in words. -/
def RequestFault.message : RequestFault → String
  | .header => "builder error"
  | .address url => "builder error for url (" ++ url ++ ")"
  | .noAnswer url => "error sending request for url (" ++ url ++ ")"

/-- Why a description could not be fetched. -/
inductive FetchError where
  | host (e : InvalidHost)
  /-- Nothing to trust, so that no client can be made. -/
  | client
  | request (f : RequestFault)
  | status (status : Nat) (text : String)
  deriving DecidableEq, Repr

/-- What is said if no client can be made. -/
def clientFault : String := "builder error"

/-- Why a description could not be fetched, in words. -/
def FetchError.message : FetchError → String
  | .host e => e.message
  | .client => "Failed to build HTTP client: " ++ clientFault
  | .request f => "Apifox export request failed: " ++ f.message
  | .status code text =>
    "Apifox export failed with status " ++ renderStatus code ++ ": " ++ text

/-- Whether a character can stand in a header: no control but the tab. -/
def fitsHeader (c : Char) : Bool :=
  c = '\t' || (0x20 ≤ c.toNat && c.toNat ≠ 0x7F)

/-- A value as it arrives in a header: without spaces and tabs around it. -/
def headerValue (s : String) : String :=
  let isEdge := fun c : Char => c = ' ' || c = '\t'
  String.ofList ((s.toList.dropWhile isEdge).reverse.dropWhile isEdge).reverse

/-- The proof of the right to ask. -/
def bearer (token : String) : String :=
  "Bearer " ++ token

namespace Settings

/-- Whether the settings fit into the headers of a request. -/
def fitHeaders (s : Settings) : Bool :=
  s.apiVersion.toList.all fitsHeader && s.token.toList.all fitsHeader

/-- What is sent to an address. -/
def exportCall (s : Settings) (url : Url) : ExportCall where
  method := "POST"
  target := url.target
  accept := "*/*"
  authorization := headerValue (bearer s.token)
  contentType := "application/json"
  apiVersion := headerValue s.apiVersion
  body := s.requestText

end Settings

namespace Url

/-- The address without the one who asks, who is named in a header instead. A name that is not
readable stays where it is. -/
def withoutUserinfo (u : Url) : Url :=
  match decodeUtf8? (percentDecode u.userinfo.name.toList) with
  | none => u
  | some name =>
    if name = [] ∧ (u.userinfo.password = "" ∨
        (decodeUtf8? (percentDecode u.userinfo.password.toList)).isNone) then u
    else { u with userinfo := ⟨"", ""⟩ }

/-- The longest text of an address that can be asked. -/
def longest : Nat := 65534

/-- Whether an address can be asked: one of the web, of a bounded length, with a host that needs no
quoting. -/
def isAskable (u : Url) : Bool :=
  (u.scheme = "http" || u.scheme = "https")
    && u.render.utf8ByteSize ≤ longest
    && !(u.host.getD "").toList.any fun c =>
      c = '"' || c.toNat = 0x60 || c.toNat = 0x7B || c.toNat = 0x7D

end Url

/-- Whether an address leads to the server. -/
def Server.isAt (s : Server) (url : Url) : Bool :=
  url.scheme = "http" && url.host = some "127.0.0.1" && url.port.getD 80 = s.port

namespace Event

/-- The module that reports on requests. -/
def fetchTarget : String := "a2i_core::apifox"

/-- A description is about to be fetched. -/
def fetching (url : Url) : Event :=
  ⟨.info, "a2i_core::pipeline", "Fetching OpenAPI document.", [("url", .shown url.render)]⟩

/-- A request is about to be sent. -/
def sending (url : Url) : Event :=
  ⟨.debug, fetchTarget, "Sending Apifox export request.", [("url", .shown url.render)]⟩

/-- A request could not be made. -/
def requestFailed (f : RequestFault) (url : Url) : Event :=
  ⟨.warn, fetchTarget, "Apifox export request failed.",
    [("error", .shown f.message), ("url", .shown url.render)]⟩

/-- A service answered that it failed. -/
def errorStatus (status : Nat) : Event :=
  ⟨.warn, fetchTarget, "Apifox export returned an error status.",
    [("status", .shown (renderStatus status))]⟩

/-- A description was fetched. -/
def fetched (text : String) : Event :=
  ⟨.info, fetchTarget, "Fetched OpenAPI document from Apifox.",
    [("bytes", .ofNat text.utf8ByteSize)]⟩

/-- No client could be made. -/
def clientFailed : Event :=
  ⟨.warn, fetchTarget, "Failed to build Apifox HTTP client.", [("error", .shown clientFault)]⟩

end Event

/-- What came of asking: the events reported, the request that arrived, and the result. -/
structure Fetched (α : Type) where
  events : List Event
  call : Option ExportCall
  result : Except FetchError α

/-- The address to ask, and whether there is anything to ask it with. -/
def Network.connect (n : Network) (s : Settings) : Fetched Url :=
  match exportEndpoint s.host s.projectId with
  | .error e => ⟨[], none, .error (.host e)⟩
  | .ok url =>
    if n.certificates then ⟨[], none, .ok url⟩
    else ⟨[Event.clientFailed], none, .error .client⟩

/-- A request to an address that failed for the given reason. -/
def Fetched.failed (f : RequestFault) (url : Url) (call : Option ExportCall) : Fetched String :=
  ⟨[Event.sending url, Event.requestFailed f url], call, .error (.request f)⟩

/-- The text that an address answers with. -/
def Network.ask (n : Network) (s : Settings) (url : Url) : Fetched String :=
  let asked := url.withoutUserinfo
  let unanswered := RequestFault.noAnswer asked.render
  if !s.fitHeaders then .failed .header url none
  else if !asked.isAskable then .failed (.address asked.render) url none
  else match n.server with
    | none => .failed unanswered url none
    | some server =>
      if !server.isAt asked then .failed unanswered url none
      else
        let call := s.exportCall asked
        match server.reply with
        | none => .failed unanswered url (some call)
        | some reply =>
          if isSuccess reply.status then
            ⟨[Event.sending url, Event.fetched reply.text], some call, .ok reply.text⟩
          else
            ⟨[Event.sending url, Event.errorStatus reply.status], some call,
              .error (.status reply.status reply.text)⟩

end TypedClient
