import TypedClient.Settings.Basic
import TypedClient.Url.Parse

/-!
Where the description of a project is exported from.
-/

namespace TypedClient

/-- The language asked for. -/
def exportLocale : String := "zh-CN"

/-- A host that is no address. -/
structure InvalidHost where
  host : String
  cause : UrlError
  deriving DecidableEq, Repr

/-- A host that is no address, in words. -/
def InvalidHost.message (e : InvalidHost) : String :=
  "Invalid Apifox host " ++ Text.quoted e.host ++ ": " ++ e.cause.message

/-- The text of the address that a host and a project make. -/
def exportText (host projectId : String) : String :=
  Text.dropEnd '/' host ++ "/v1/projects/" ++ projectId ++ "/export-openapi"

/-- The address that the description of a project is exported from. -/
def exportEndpoint (host projectId : String) : Except InvalidHost Url :=
  match Url.ofString (exportText host projectId) with
  | .ok url => .ok (url.addQuery "locale" exportLocale)
  | .error cause => .error ⟨host, cause⟩

end TypedClient
