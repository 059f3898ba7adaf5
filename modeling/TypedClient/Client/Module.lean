import TypedClient.Client.Basic
import TypedClient.Script.Module

/-!
The script of a client: its types, a function for each call, and what those need.
-/

namespace TypedClient

open Script

/-- The name of the declaration that every client has. -/
def baseResponseName : String := "BaseResponse"

/-- The name of the function that puts parameters into a path. -/
def fillPathName : String := "resolvePath"

/-- The name of the parameters of a function. -/
def paramsName : String := "params"

/-- The usual envelope of an answer, whatever its data. -/
def baseResponse : Declaration where
  name := baseResponseName
  parameters := ["T"]
  body := .interface [
    .field ⟨"success", false⟩ (.primitive .flag),
    .field ⟨"code", false⟩ (.primitive .number),
    .field ⟨"data", false⟩ (.named "T")]
  exported := false

/-- The function that puts parameters into a path. -/
def fillPath : Function where
  name := fillPathName
  doc := ["Replace `\x7bname\x7d` tokens in a path template with values from `params`."]
  parameters := [⟨"template", .primitive .text⟩, ⟨paramsName, .primitive .object⟩]
  result := .value (.primitive .text)
  body := [.verbatim [
    "return template.replace(/\\\x7b([^\x7d]+)\\\x7d/g, (match: string, key: string) => \x7b",
    "  const value = (params as Record<string, unknown>)[key];",
    "  return value === undefined || value === null ? match : encodeURIComponent(String(value));",
    "\x7d);"]]
  isAsync := false
  exported := false

namespace Call

/-- The type of what a call takes. -/
def requestType? (c : Call) : Option TypeExpr :=
  c.request.map fun d => .named d.name

/-- The lines of the summary, unless it is blank. -/
def summaryLines (c : Call) : List String :=
  Text.lines (Text.trim (c.summary.getD ""))

/-- The comment of a call: its summary, what it takes, what it gives. -/
def doc (c : Call) : List String :=
  c.summaryLines
    ++ (c.requestType?.map fun t => "@param " ++ paramsName ++ " " ++ t.render).toList
    ++ [match c.answer.type? with
      | some t => "@returns " ++ t.render
      | none => "@returns Response payload"]

/-- The address of a call: the base path without slashes at its end, then the path. -/
def address (c : Call) (o : Options) : String :=
  Text.dropEnd '/' o.basePath ++ c.path

/-- The expression for the address, filled with parameters if the path has places for them. -/
def addressExpr (c : Call) (o : Options) : Expr :=
  if c.fillsPath then .call (.name fillPathName) [] [.text (c.address o), .name paramsName]
  else .text (c.address o)

/-- The parameters as they are handed over. -/
def paramsExpr : ParamsEncoding → Expr
  | .structured => .name paramsName
  | .jsonText => .call (.member (.name "JSON") "stringify") [] [.name paramsName]

/-- The property that holds the parameters of a call, if it takes any. -/
def paramsProperty (c : Call) (o : Options) : List (String × Expr) :=
  if c.request.isSome then
    [(if c.method.sendsQuery then "params" else "data", paramsExpr o.params)]
  else []

/-- What is requested. -/
def requestConfig (c : Call) (o : Options) : Expr :=
  .object ([
    ("url", c.addressExpr o),
    ("method", .text c.method.wire),
    ("headers", .object [("Content-Type", .text jsonMediaType)])] ++ c.paramsProperty o)

/-- The body of a function: request and return the data, or report the error and throw it on. -/
def statements (c : Call) (o : Options) : List Statement :=
  [.attempt
    [.const "response"
      (.await (.call (.member (.name "axios") "request") c.answer.type?.toList [c.requestConfig o])),
     .return (.member (.name "response") "data")]
    "error"
    [.eval (.call (.member (.name "console") "error") []
      [.text ("Error calling " ++ c.name ++ ":"), .name "error"]),
     .throw (.name "error")]]

/-- The function of a call. -/
def function (c : Call) (o : Options) : Function where
  name := c.name
  doc := c.doc
  parameters := (c.requestType?.map (Parameter.mk paramsName)).toList
  result := match c.answer.type? with
    | some t => .promise t
    | none => .untyped
  body := c.statements o
  isAsync := true
  exported := true

end Call

namespace Client

/-- The declarations of all calls in order. -/
def declarations (c : Client) : List Declaration :=
  c.calls.flatMap Call.declarations

/-- Names with each only where it first occurs. -/
def distinct : List String → List String
  | [] => []
  | n :: ns => n :: (distinct ns).filter (· ≠ n)

/-- The names that are exported: each declared one once, and that of the usual envelope. -/
def exports (c : Client) : List String :=
  distinct (c.declarations.map (·.name) ++ [baseResponseName])

/-- The functions of a client. -/
def functions (c : Client) (o : Options) : List Function :=
  (if c.calls.any Call.fillsPath then [fillPath] else []) ++ c.calls.map (·.function o)

/-- The script of a client. -/
def script (c : Client) (o : Options) : Module where
  header := ["Auto-generated API client",
    "Based on OpenAPI spec: " ++ c.title ++ " v" ++ c.version]
  imports := [⟨"axios", "axios"⟩]
  components := c.shared.render
  baseTypes := [baseResponse]
  types := c.declarations
  functions := c.functions o
  exports := c.exports

/-- The text of a client. -/
def render (c : Client) (o : Options) : String :=
  (c.script o).render

end Client

end TypedClient
