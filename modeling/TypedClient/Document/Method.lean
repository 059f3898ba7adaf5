/-!
The HTTP methods that an operation can have.
-/

namespace TypedClient

/-- An HTTP method. -/
inductive Method where
  | get
  | post
  | put
  | delete
  | patch
  deriving DecidableEq, Repr

namespace Method

/-- All methods. -/
def all : List Method := [.get, .post, .put, .delete, .patch]

/-- The method's word at the front of a function name, and in a path item. -/
def lower : Method → String
  | .get => "get"
  | .post => "post"
  | .put => "put"
  | .delete => "delete"
  | .patch => "patch"

/-- The method's word at the front of a type name. -/
def capital : Method → String
  | .get => "Get"
  | .post => "Post"
  | .put => "Put"
  | .delete => "Delete"
  | .patch => "Patch"

/-- The method's name in a request. -/
def wire : Method → String
  | .get => "GET"
  | .post => "POST"
  | .put => "PUT"
  | .delete => "DELETE"
  | .patch => "PATCH"

/-- Whether parameters go into the query rather than the body. -/
def sendsQuery : Method → Bool
  | .get => true
  | .delete => true
  | _ => false

/-- A text with its ASCII letters in lower case. -/
def asciiLower (s : String) : String :=
  String.ofList (s.toList.map Char.toLower)

/-- The method that a member of a path item stands for, in any mixture of upper and lower case. -/
def ofKey? (key : String) : Option Method :=
  all.find? fun m => m.lower = asciiLower key

theorem ofKey?_lower (m : Method) : ofKey? m.lower = some m := by
  cases m <;> decide

end Method

end TypedClient
