import TypedClient.Json.Number

/-!
JSON values without regard to how they are written. An object keeps its members in order, also
those whose name occurs twice.
-/

namespace TypedClient.Json

/-- A value. -/
inductive Value where
  | null
  | flag (value : Bool)
  | number (value : Number)
  | text (value : String)
  | list (items : List Value)
  | object (members : List (String × Value))
  deriving Inhabited

namespace Value

/-- The texts among the values. -/
def textsOf : List Value → List String
  | [] => []
  | .text s :: vs => s :: textsOf vs
  | _ :: vs => textsOf vs

/-- The texts that a list holds; none if it is not a list. -/
def texts : Value → List String
  | .list items => textsOf items
  | _ => []

end Value

end TypedClient.Json
