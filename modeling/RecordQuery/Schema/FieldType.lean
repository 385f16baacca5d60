/-!
# Types of fields

A field holds a scalar, an enumeration or an embedded entity, which may be optional; scalars and
embedded entities also come in arrays. Embedded entities are named, so types do not nest and an
entity may embed itself.
-/

namespace RecordQuery

inductive ScalarType where
  | bool
  | int32
  | int64
  | float32
  | float64
  | string
  | timestamp
  | uuid
  deriving DecidableEq, Repr

namespace ScalarType

def all : List ScalarType :=
  [.bool, .int32, .int64, .float32, .float64, .string, .timestamp, .uuid]

def name : ScalarType → String
  | .bool => "Bool"
  | .int32 => "Int32"
  | .int64 => "Int64"
  | .float32 => "Float32"
  | .float64 => "Float64"
  | .string => "String"
  | .timestamp => "Timestamp"
  | .uuid => "Uuid"

def key : ScalarType → String
  | .bool => "bool"
  | .int32 => "int32"
  | .int64 => "int64"
  | .float32 => "float32"
  | .float64 => "float64"
  | .string => "string"
  | .timestamp => "timestamp"
  | .uuid => "uuid"

/-- The scalar type of a name in documents. -/
def ofKey? (key : String) : Option ScalarType := all.find? (·.key == key)

theorem ofKey?_key (scalar : ScalarType) : ofKey? scalar.key = some scalar := by
  cases scalar <;> rfl

end ScalarType

inductive FieldType where
  | scalar (type : ScalarType)
  | optionalScalar (type : ScalarType)
  | arrayOfScalar (type : ScalarType)
  | enumeration (name : String) (variants : List String)
  | optionalEnumeration (name : String) (variants : List String)
  | embedded (entity : String)
  | optionalEmbedded (entity : String)
  | arrayOfEmbedded (entity : String)
  deriving DecidableEq, Repr

namespace FieldType

def isNullable : FieldType → Bool
  | .optionalScalar _ => true
  | .optionalEnumeration .. => true
  | .optionalEmbedded _ => true
  | _ => false

def isArray : FieldType → Bool
  | .arrayOfScalar _ => true
  | .arrayOfEmbedded _ => true
  | _ => false

def scalar? : FieldType → Option ScalarType
  | .scalar type => some type
  | .optionalScalar type => some type
  | .arrayOfScalar type => some type
  | _ => none

/-- The name of the embedded entity; of an array, that of its elements. -/
def embedded? : FieldType → Option String
  | .embedded entity => some entity
  | .optionalEmbedded entity => some entity
  | .arrayOfEmbedded entity => some entity
  | _ => none

def isComposite (type : FieldType) : Bool := type.embedded?.isSome

/-- Are the field's values matched as text? -/
def isText : FieldType → Bool
  | .enumeration .. => true
  | .optionalEnumeration .. => true
  | type => type.scalar? == some .string

def text : FieldType → String
  | .scalar type => type.name
  | .optionalScalar type => s!"Optional<{type.name}>"
  | .arrayOfScalar type => s!"Array<{type.name}>"
  | .enumeration name _ => name
  | .optionalEnumeration name _ => s!"Optional<{name}>"
  | .embedded entity => entity
  | .optionalEmbedded entity => s!"Optional<{entity}>"
  | .arrayOfEmbedded entity => s!"Array<{entity}>"

end FieldType

end RecordQuery
