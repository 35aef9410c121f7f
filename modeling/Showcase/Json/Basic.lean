import Showcase.Json.Number

/-!
# JSON values
-/

namespace Showcase.Json

/-- A value without parts. -/
inductive Scalar
  | null
  | bool (value : Bool)
  | number (value : Number)
  | string (value : String)
  deriving DecidableEq, Repr, Inhabited

/-- A JSON value. -/
inductive Value
  | scalar (value : Scalar)
  | array (items : List Value)
  /-- The members of an object, the latest first; a key can occur more than once. -/
  | object (members : List (String × Value))
  deriving Repr, Inhabited

end Showcase.Json
