import TypedClient.Script.TypeExpr

/-!
Expressions, statements and functions of a script, and their text. A nested block is two spaces
further to the right than what it stands in.
-/

namespace TypedClient.Script

open TypedClient.Text

/-- An expression. -/
inductive Expr where
  | name (name : String)
  | text (value : String)
  | call (callee : Expr) (typeArguments : List TypeExpr) (arguments : List Expr)
  | member (object : Expr) (name : String)
  | object (properties : List (String × Expr))
  | await (value : Expr)

/-- The space in front of a line at a level of nesting. -/
def indent (level : Nat) : String :=
  String.ofList (List.replicate (2 * level) ' ')

/-- Type arguments between angle brackets, if there are any. -/
def renderTypeArguments : List TypeExpr → String
  | [] => ""
  | ts => "<" ++ joined ", " (ts.map TypeExpr.render) ++ ">"

mutual

/-- The text of an expression in a line at the given level. Only an object takes more than the one
line: one for each property, a level further in. -/
def Expr.render (level : Nat) : Expr → String
  | .name name => name
  | .text value => literal '\'' value
  | .call callee typeArguments arguments =>
    callee.render level ++ renderTypeArguments typeArguments
      ++ "(" ++ joined ", " (renderArguments level arguments) ++ ")"
  | .member object name => object.render level ++ "." ++ name
  | .object [] => "\x7b\x7d"
  | .object properties =>
    "\x7b\n" ++ renderProperties (level + 1) properties ++ indent level ++ "\x7d"
  | .await value => "await " ++ value.render level

/-- The texts of the arguments of a call. -/
def renderArguments (level : Nat) : List Expr → List String
  | [] => []
  | e :: es => e.render level :: renderArguments level es

/-- The lines of the properties of an object. -/
def renderProperties (level : Nat) : List (String × Expr) → String
  | [] => ""
  | (key, value) :: rest =>
    indent level ++ propertyKey key ++ ": " ++ value.render level ++ ",\n"
      ++ renderProperties level rest

end

/-- A statement. -/
inductive Statement where
  | const (name : String) (value : Expr)
  | eval (value : Expr)
  | return (value : Expr)
  | throw (value : Expr)
  | attempt (body : List Statement) (binding : String) (handler : List Statement)
  /-- Lines that are written as they are. -/
  | verbatim (lines : List String)

mutual

/-- The lines of a statement at the given level. -/
def Statement.render (level : Nat) : Statement → String
  | .const name value => indent level ++ "const " ++ name ++ " = " ++ value.render level ++ ";\n"
  | .eval value => indent level ++ value.render level ++ ";\n"
  | .return value => indent level ++ "return " ++ value.render level ++ ";\n"
  | .throw value => indent level ++ "throw " ++ value.render level ++ ";\n"
  | .attempt body binding handler =>
    indent level ++ "try \x7b\n" ++ renderBlock (level + 1) body
      ++ indent level ++ "\x7d catch (" ++ binding ++ ") \x7b\n"
      ++ renderBlock (level + 1) handler ++ indent level ++ "\x7d\n"
  | .verbatim lines => concat (lines.map fun line => indent level ++ line ++ "\n")

/-- The lines of a block at the given level. -/
def renderBlock (level : Nat) : List Statement → String
  | [] => ""
  | s :: ss => s.render level ++ renderBlock level ss

end

/-- A parameter of a function. -/
structure Parameter where
  name : String
  type : TypeExpr

/-- The text of a parameter. -/
def Parameter.render (p : Parameter) : String :=
  p.name ++ ": " ++ p.type.render

/-- What a function gives back. -/
inductive Result where
  | untyped
  | value (type : TypeExpr)
  | promise (type : TypeExpr)

/-- The text of a result, from its colon on. -/
def Result.render : Result → String
  | .untyped => ""
  | .value type => ": " ++ type.render
  | .promise type => ": Promise<" ++ type.render ++ ">"

/-- A function, written as a constant that holds an arrow. -/
structure Function where
  name : String
  /-- The lines of the comment in front of it. -/
  doc : List String
  parameters : List Parameter
  result : Result
  body : List Statement
  isAsync : Bool
  exported : Bool

/-- Separates every slash from an asterisk in front of it by a backslash, so that a line cannot
close the comment it stands in. -/
def commentChars : List Char → List Char
  | '*' :: '/' :: cs => '*' :: '\\' :: '/' :: commentChars cs
  | c :: cs => c :: commentChars cs
  | [] => []

/-- A line of a comment. -/
def commentLine (line : String) : String :=
  " * " ++ String.ofList (commentChars line.toList) ++ "\n"

/-- A comment in front of a declaration. -/
def renderComment : List String → String
  | [] => ""
  | lines => "/**\n" ++ concat (lines.map commentLine) ++ " */\n"

/-- The text of a function, its line ends included. -/
def Function.render (f : Function) : String :=
  renderComment f.doc ++ (if f.exported then "export " else "")
    ++ "const " ++ f.name ++ " = " ++ (if f.isAsync then "async " else "")
    ++ "(" ++ joined ", " (f.parameters.map Parameter.render) ++ ")" ++ f.result.render
    ++ " => \x7b\n" ++ renderBlock 1 f.body ++ "\x7d;\n"

end TypedClient.Script
