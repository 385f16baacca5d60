import RecordQuery.Number.Reading
import RecordQuery.Number.Width
import RecordQuery.Operator
import RecordQuery.Request.Literal
import RecordQuery.Schema.FieldType
import RecordQuery.Text.Blank
import RecordQuery.Text.LetterCase
import RecordQuery.Value

/-!
# From literals to typed values

The type of a field decides how the text of a literal is read. Blanks around numbers, timestamps
and identifiers do not count. Nothing falls back to a default: a text that does not fit is a fault
that names the field, the text and the type.
-/

namespace RecordQuery

/-- Why a literal has no value of a field's type. -/
inductive CoercionFault where
  -- The text is not one of the type.
  | invalid (field text target : String)
  -- The comparison needs a value and there is none.
  | missingValue (field : String) (comparison : Comparison)
  -- The field is not matched as text.
  | nonTextPattern (field : String) (comparison : Comparison) (type : FieldType)
  -- The field has fields of its own and no value.
  | nonComparable (field : String) (type : FieldType)
  deriving DecidableEq, Repr

namespace CoercionFault

def message : CoercionFault → String
  | .invalid field text target =>
    s!"Value '{text}' for field '{field}' cannot be converted to {target}."
  | .missingValue field comparison =>
    s!"Field '{field}' requires a value for the {comparison.name} operator."
  | .nonTextPattern field comparison type =>
    s!"Field '{field}' of type {type.text} cannot be matched with {comparison.name}."
  | .nonComparable field type =>
    s!"Field '{field}' of type {type.text} cannot be compared to a value."

end CoercionFault

namespace ScalarType

/-- A truth value, in any case. -/
def readBool? (text : String) : Option Bool :=
  if Text.sameName text "true" then some true
  else if Text.sameName text "false" then some false
  else none

/-- An integer of 32 bits. -/
def readInt32? (text : List Char) : Option Int32 :=
  (Numeral.integer? text).bind Width.int32?

/-- An integer of 64 bits. -/
def readInt64? (text : List Char) : Option Int64 :=
  (Numeral.integer? text).bind Width.int64?

/-- A finite number of a binary format. -/
def readFinite? (format : FloatFormat) (text : List Char) : Option (Binary format) :=
  (Numeral.real? format text).bind fun x => if x.isFinite then some x else none

/-- A timestamp: a date and a time, or a count of microseconds. -/
def readTimestamp? (text : List Char) : Option Int64 :=
  (Timestamp.read? text).or (readInt64? text)

/-- The value of a scalar type that a text writes. -/
def read? (type : ScalarType) (text : String) : Option Value :=
  let trimmed := Text.trim text.toList
  match type with
  | .string => some (.string text)
  | .bool => (readBool? text).map .bool
  | .int32 => (readInt32? trimmed).map .int32
  | .int64 => (readInt64? trimmed).map .int64
  | .float32 => (readFinite? .single trimmed).map .float32
  | .float64 => (readFinite? .double trimmed).map .float64
  | .timestamp => (readTimestamp? trimmed).map .timestamp
  | .uuid => (Uuid.read? trimmed).map .uuid

end ScalarType

namespace FieldType

/-- The declared variant that a text spells in any case, the first one of several. -/
def variant? (variants : List String) (text : String) : Option String :=
  variants.find? (Text.sameName · text)

/-- The value of the type that a text writes, for the field that it is compared with. -/
def read (type : FieldType) (field text : String) : Except CoercionFault Value :=
  let found (target : String) : Option Value → Except CoercionFault Value
    | some value => .ok value
    | none => .error (.invalid field text target)
  match type with
  | .scalar inner => found inner.name (inner.read? text)
  | .optionalScalar inner => found inner.name (inner.read? text)
  | .arrayOfScalar inner => found inner.name (inner.read? text)
  | .enumeration name variants => found name ((variant? variants text).map .string)
  | .optionalEnumeration name variants => found name ((variant? variants text).map .string)
  | .embedded _ => .error (.nonComparable field type)
  | .optionalEmbedded _ => .error (.nonComparable field type)
  | .arrayOfEmbedded _ => .error (.nonComparable field type)

def coerce (type : FieldType) (field : String) (literal : Literal) :
    Except CoercionFault Value :=
  type.read field literal.text

def coerceAll (type : FieldType) (field : String) (literals : List Literal) :
    Except CoercionFault (List Value) :=
  literals.mapM (type.coerce field)

/-- The text that a pattern comparison looks for, as it is written. -/
def patternText (type : FieldType) (field : String) (comparison : Comparison)
    (literal : Literal) : Except CoercionFault String :=
  if type.isText then .ok literal.text else .error (.nonTextPattern field comparison type)

end FieldType

end RecordQuery
