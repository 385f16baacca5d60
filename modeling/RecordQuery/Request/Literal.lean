import RecordQuery.Number.Notation

/-!
# Literals

A literal is a value as a request gives it, before anything is known of the field it is compared
with.
-/

namespace RecordQuery

/-- An untyped value of a request. -/
inductive Literal where
  | bool (value : Bool)
  | integer (value : Int64)
  | real (value : Double)
  | string (value : String)
  deriving DecidableEq

namespace Literal

/-- The text that conversion to a field's type starts from. -/
def text : Literal → String
  | .bool value => if value then "true" else "false"
  | .integer value => String.ofList (Digits.integer value.toInt)
  | .real value => value.display
  | .string value => value

end Literal

end RecordQuery
