import TypedClient.Naming

/-!
What can be chosen about a generated client.
-/

namespace TypedClient

/-- How parameters are handed over. -/
inductive ParamsEncoding where
  /-- As an object. -/
  | structured
  /-- As the JSON text of that object. -/
  | jsonText
  deriving DecidableEq, Repr

/-- What stands in the place for shared declarations. -/
inductive SharedBlock where
  /-- The declarations of the shared schemas. -/
  | declared
  /-- A given text. -/
  | verbatim (text : String)
  deriving DecidableEq, Repr

/-- What can be chosen about a generated client. -/
structure Options where
  naming : NamingStyle
  params : ParamsEncoding
  /-- What stands in front of every path. -/
  basePath : String
  shared : SharedBlock
  deriving DecidableEq, Repr

/-- The base path where none is given. -/
def defaultBasePath : String := "/api"

/-- The choices where none are made. -/
def Options.standard : Options :=
  ⟨.preserve, .structured, defaultBasePath, .declared⟩

end TypedClient
