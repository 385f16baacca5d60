import RecordQuery.Number.Notation
import RecordQuery.Timestamp
import RecordQuery.Uuid

/-!
# Typed values

What a compiled filter carries: the values that fields can hold, and null.
-/

namespace RecordQuery

/-- A value of one of the scalar types, or null. -/
inductive Value where
  | null
  | bool (value : Bool)
  | int32 (value : Int32)
  | int64 (value : Int64)
  | float32 (value : Single)
  | float64 (value : Double)
  | string (value : String)
  -- Microseconds from the start of 1970.
  | timestamp (micros : Int64)
  | uuid (value : Uuid)
  deriving DecidableEq

namespace Value

/-- The short name of the value's type. -/
def typeName : Value → String
  | .null => "null"
  | .bool _ => "bool"
  | .int32 _ => "int32"
  | .int64 _ => "int64"
  | .float32 _ => "float32"
  | .float64 _ => "float64"
  | .string _ => "string"
  | .timestamp _ => "timestamp"
  | .uuid _ => "uuid"

def text : Value → String
  | .null => "null"
  | .bool value => if value then "true" else "false"
  | .int32 value => String.ofList (Digits.integer value.toInt)
  | .int64 value => String.ofList (Digits.integer value.toInt)
  | .float32 value => value.display
  | .float64 value => value.display
  | .string value => value
  | .timestamp micros => String.ofList (Digits.integer micros.toInt) ++ "us"
  | .uuid value => value.display

end Value

end RecordQuery
