import TypedClient.Script.Lexeme
import TypedClient.Text.Pieces

/-!
Type expressions of a script and the declarations made of them.
-/

namespace TypedClient.Script

open TypedClient.Text

/-- The types that need no declaration. -/
inductive Primitive where
  | text
  | number
  | flag
  | object
  | any
  deriving DecidableEq, Repr

/-- The word for a primitive type. -/
def Primitive.render : Primitive → String
  | .text => "string"
  | .number => "number"
  | .flag => "boolean"
  | .object => "object"
  | .any => "any"

/-- What stands in front of the type of a member: its name, and whether it may be missing. -/
structure Label where
  name : String
  optional : Bool
  deriving DecidableEq, Repr

/-- A label up to its colon. -/
def Label.render (l : Label) : String :=
  memberKey l.name ++ (if l.optional then "?" else "")

/-- A type expression. -/
inductive TypeExpr where
  | primitive (p : Primitive)
  | list (item : TypeExpr)
  | record (fields : List (Label × TypeExpr))
  | named (name : String)

mutual

/-- The text of a type expression. It is one line. -/
def TypeExpr.render : TypeExpr → String
  | .primitive p => p.render
  | .list item => item.render ++ "[]"
  | .record fields => "\x7b " ++ joined ", " (renderFields fields) ++ " \x7d"
  | .named name => name

/-- The texts of the members of a record type. -/
def renderFields : List (Label × TypeExpr) → List String
  | [] => []
  | (label, type) :: rest => (label.render ++ ": " ++ type.render) :: renderFields rest

end

mutual

/-- The type expression with every name in it replaced. Labels are left as they are. -/
def TypeExpr.mapNames (f : String → String) : TypeExpr → TypeExpr
  | .primitive p => .primitive p
  | .list item => .list (item.mapNames f)
  | .record fields => .record (mapFieldNames f fields)
  | .named name => .named (f name)

/-- The members of a record type with every name in them replaced. -/
def mapFieldNames (f : String → String) :
    List (Label × TypeExpr) → List (Label × TypeExpr)
  | [] => []
  | (label, type) :: rest => (label, type.mapNames f) :: mapFieldNames f rest

end

mutual

/-- The names that a type expression mentions. -/
def TypeExpr.names : TypeExpr → List String
  | .primitive _ => []
  | .list item => item.names
  | .record fields => fieldNames fields
  | .named name => [name]

/-- The names that the members of a record type mention. -/
def fieldNames : List (Label × TypeExpr) → List String
  | [] => []
  | (_, type) :: rest => type.names ++ fieldNames rest

end

/-- One line of an interface. -/
inductive Member where
  | field (label : Label) (type : TypeExpr)
  | index (key : String) (keyType : Primitive) (value : TypeExpr)

namespace Member

/-- The text of a member. -/
def render : Member → String
  | .field label type => label.render ++ ": " ++ type.render ++ ";"
  | .index key keyType value =>
    "[" ++ key ++ ": " ++ keyType.render ++ "]: " ++ value.render ++ ";"

/-- The type that a member gives. -/
def type : Member → TypeExpr
  | .field _ type => type
  | .index _ _ value => value

/-- The member with every name in its type replaced. -/
def mapNames (f : String → String) : Member → Member
  | .field label type => .field label (type.mapNames f)
  | .index key keyType value => .index key keyType (value.mapNames f)

end Member

/-- What a declaration gives its name to. -/
inductive DeclarationBody where
  | interface (members : List Member)
  | synonym (type : TypeExpr)

/-- The body with every name in its types replaced. -/
def DeclarationBody.mapNames (f : String → String) : DeclarationBody → DeclarationBody
  | .interface members => .interface (members.map (·.mapNames f))
  | .synonym type => .synonym (type.mapNames f)

/-- A declaration of a type. -/
structure Declaration where
  name : String
  parameters : List String
  body : DeclarationBody
  exported : Bool

namespace Declaration

/-- An interface of the module's own, without parameters. -/
def interface (name : String) (members : List Member) : Declaration :=
  ⟨name, [], .interface members, false⟩

/-- The parameters of a declaration between angle brackets, if there are any. -/
def renderParameters : List String → String
  | [] => ""
  | ps => "<" ++ joined ", " ps ++ ">"

/-- The text of a declaration, its line ends included. -/
def render (d : Declaration) : String :=
  let front := if d.exported then "export " else ""
  let head := d.name ++ renderParameters d.parameters
  match d.body with
  | .interface members =>
    front ++ "interface " ++ head ++ " \x7b\n"
      ++ concat (members.map fun m => "  " ++ m.render ++ "\n") ++ "\x7d\n"
  | .synonym type => front ++ "type " ++ head ++ " = " ++ type.render ++ ";\n"

end Declaration

end TypedClient.Script
