import TypedClient.Script.Expr
import TypedClient.Text.Blank

/-!
A whole script: comment, imports, the block of shared declarations, declarations of its own,
functions, and the list of the types it exports, in that order.
-/

namespace TypedClient.Script

open TypedClient.Text

/-- An import of the default export of a package. -/
structure Import where
  name : String
  package : String

/-- The line of an import. -/
def Import.render (i : Import) : String :=
  "import " ++ i.name ++ " from " ++ literal '\'' i.package ++ ";\n"

/-- A script. -/
structure Module where
  /-- The lines of the comment at its head. -/
  header : List String
  imports : List Import
  /-- The text of the shared declarations. -/
  components : String
  baseTypes : List Declaration
  types : List Declaration
  functions : List Function
  exports : List String

namespace Module

/-- Texts one after the other, each with an empty line behind it. -/
def spaced (texts : List String) : String :=
  concat (texts.map (· ++ "\n"))

/-- A headed section; nothing at all if it has no content. -/
def titled (title : String) (texts : List String) : String :=
  match texts with
  | [] => ""
  | _ => "// " ++ title ++ "\n" ++ spaced texts

/-- Lines with an empty line behind the last; nothing at all if there are none. -/
def paragraph (lines : List String) : String :=
  match lines with
  | [] => ""
  | _ => concat lines ++ "\n"

/-- The block of shared declarations, without white space at its end and with an empty line behind
it; nothing at all if it is blank. -/
def slot (components : String) : String :=
  let text := trimEnd components
  if text = "" then "" else text ++ "\n\n"

/-- The list of exported types. -/
def renderExports (names : List String) : String :=
  match names with
  | [] => ""
  | _ => "// Exported types\nexport type \x7b\n  " ++ joined ",\n  " names ++ "\n\x7d;\n"

/-- What stands in front of the shared declarations. -/
def renderHead (m : Module) : String :=
  paragraph (m.header.map fun line => "// " ++ line ++ "\n")
    ++ paragraph (m.imports.map Import.render)

/-- What follows the shared declarations. -/
def renderBody (m : Module) : String :=
  titled "Base response type" (m.baseTypes.map Declaration.render)
    ++ titled "Operation types" (m.types.map Declaration.render)
    ++ spaced (m.functions.map Function.render)
    ++ renderExports m.exports

/-- The text of the script. -/
def render (m : Module) : String :=
  m.renderHead ++ slot m.components ++ m.renderBody

end Module

end TypedClient.Script
