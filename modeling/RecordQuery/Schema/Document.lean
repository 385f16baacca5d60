import RecordQuery.Json.Printer
import RecordQuery.Json.Reader
import RecordQuery.Json.Record
import RecordQuery.Schema.Entity

/-!
# Schemas as documents

A field type is an object with one entry, whose key says which kind of type it is. Types with named
parts give them as an object; in the text of a schema they may also be a list of the parts in order.
Whether that form is accepted is what `listed` says. The keys under which a schema lists its
entities do not count: each entity stands at its own name. Unknown keys are passed over together
with what is written at them, whether it has a value or not.
-/

namespace RecordQuery

/-- A name by itself or as an object that holds null at it. -/
def Json.nameOf? : Json → Option String
  | .string name => some name
  | .object [(name, .null)] => some name
  | _ => none

namespace ScalarType

def ofJson? (document : Json) : Option ScalarType := document.nameOf?.bind ofKey?

def toJson (scalar : ScalarType) : Json := .string scalar.key

end ScalarType

namespace Operation

def ofJson? (document : Json) : Option Operation := document.nameOf?.bind ofName?

def toJson (operation : Operation) : Json := .string operation.name

end Operation

namespace FieldType

/-- The parts of a type, which are all required. -/
def parts? (listed : Bool) (names : List String) (document : Json.Written) :
    Option (List (Option Json.Written)) :=
  if listed then document.fields? names else document.namedFields? names

def variants? (listed : Bool) (document : Json.Written) : Option (String × List String) := do
  match ← parts? listed ["name", "variants"] document with
  | [name, variants] =>
    let name ← Json.required (·.as? Json.string?) name
    let variants ← Json.required (·.as? (Json.list? Json.string?)) variants
    pure (name, variants)
  | _ => none

def entity? (listed : Bool) (document : Json.Written) : Option String := do
  match ← parts? listed ["entity"] document with
  | [entity] => Json.required (·.as? Json.string?) entity
  | _ => none

def ofWritten? (listed : Bool) : Json.Written → Option FieldType
  | .object [(some "scalar", part)] => (part.as? ScalarType.ofJson?).map .scalar
  | .object [(some "optional_scalar", part)] => (part.as? ScalarType.ofJson?).map .optionalScalar
  | .object [(some "array_scalar", part)] => (part.as? ScalarType.ofJson?).map .arrayOfScalar
  | .object [(some "enum", part)] =>
    (variants? listed part).map fun (name, variants) => .enumeration name variants
  | .object [(some "optional_enum", part)] =>
    (variants? listed part).map fun (name, variants) => .optionalEnumeration name variants
  | .object [(some "embedded", part)] => (entity? listed part).map .embedded
  | .object [(some "optional_embedded", part)] => (entity? listed part).map .optionalEmbedded
  | .object [(some "array_embedded", part)] => (entity? listed part).map .arrayOfEmbedded
  | _ => none

/-- A name and variants as an object. -/
def variantsToJson (name : String) (variants : List String) : Json :=
  .object [("name", .string name), ("variants", Json.texts variants)]

def toJson : FieldType → Json
  | .scalar type => Json.single "scalar" type.toJson
  | .optionalScalar type => Json.single "optional_scalar" type.toJson
  | .arrayOfScalar type => Json.single "array_scalar" type.toJson
  | .enumeration name variants => Json.single "enum" (variantsToJson name variants)
  | .optionalEnumeration name variants =>
    Json.single "optional_enum" (variantsToJson name variants)
  | .embedded entity => Json.single "embedded" (Json.single "entity" (.string entity))
  | .optionalEmbedded entity =>
    Json.single "optional_embedded" (Json.single "entity" (.string entity))
  | .arrayOfEmbedded entity =>
    Json.single "array_embedded" (Json.single "entity" (.string entity))

end FieldType

namespace OperatorRule

def ofJson? (document : Json) : Option OperatorRule :=
  document.string?.bind fun text => (ofText text).toOption

def toJson (rule : OperatorRule) : Json := .string rule.text

end OperatorRule

namespace FieldPolicy

def ofWritten? (document : Json.Written) : Option FieldPolicy := do
  match ← document.fields? ["disallowed"] with
  | [disallowed] =>
    let disallowed ← Json.withDefault [] (·.as? (Json.list? OperatorRule.ofJson?)) disallowed
    pure { disallowed }
  | _ => none

def toJson (policy : FieldPolicy) : Json :=
  Json.single "disallowed" (.list (policy.disallowed.map OperatorRule.toJson))

end FieldPolicy

namespace Field

/-- The keys of a field, in their declared order. -/
def keys : List String := ["name", "alias", "field_type", "required", "policy"]

def ofWritten? (listed : Bool) (document : Json.Written) : Option Field := do
  match ← document.fields? keys with
  | [name, aliasName, type, required, policy] =>
    let name ← Json.required (·.as? Json.string?) name
    let aliasName ← Json.Written.optional (·.as? Json.string?) aliasName
    let type ← Json.required (FieldType.ofWritten? listed) type
    let required ← Json.withDefault true (·.as? Json.bool?) required
    let policy ← Json.Written.optional FieldPolicy.ofWritten? policy
    pure { name, aliasName, type, required, policy }
  | _ => none

def toJson (field : Field) : Json :=
  .object <|
    [("name", .string field.name)] ++
    Json.entry? "alias" (field.aliasName.map .string) ++
    [("field_type", field.type.toJson), ("required", .bool field.required)] ++
    Json.entry? "policy" (field.policy.map FieldPolicy.toJson)

end Field

namespace Entity

/-- The keys of an entity, in their declared order. -/
def keys : List String := ["name", "identity_field", "fields", "denied_operations"]

def ofWritten? (listed : Bool) (document : Json.Written) : Option Entity := do
  match ← document.fields? keys with
  | [name, identity, fields, denied] =>
    let name ← Json.required (·.as? Json.string?) name
    let identity ← Json.required (·.as? Json.string?) identity
    let fields ← Json.withDefault [] (Json.Written.list? (Field.ofWritten? listed)) fields
    let denied ← Json.Written.optional (·.as? (Json.list? Operation.ofJson?)) denied
    pure { name, identity, fields, denied }
  | _ => none

def ofText? (text : String) : Option Entity := (Json.Written.ofText? text).bind (ofWritten? true)

def toJson (entity : Entity) : Json :=
  .object <|
    [("name", .string entity.name), ("identity_field", .string entity.identity),
     ("fields", .list (entity.fields.map Field.toJson))] ++
    Json.entry? "denied_operations" (entity.denied.map fun denied =>
      .list (denied.map Operation.toJson))

end Entity

namespace Schema

/-- The keys of a schema, in their declared order. -/
def keys : List String := ["version", "entities"]

/-- The entities of an object, the last of equal keys winning. -/
def entities? (document : Json.Written) : Option (List Entity) := do
  let entries ← (← document.entries?).mapM fun (key, part) =>
    (Entity.ofWritten? true part).map fun entity => (key, entity)
  pure ((putEntries entries).map (·.2))

def ofWritten? (document : Json.Written) : Option Schema := do
  match ← document.fields? keys with
  | [version, entities] =>
    let version ← Json.withDefault 0 (·.as? Json.uint64?) version
    let entities ← Json.withDefault [] entities? entities
    pure (ofEntities version entities)
  | _ => none

def ofText? (text : String) : Option Schema := (Json.Written.ofText? text).bind ofWritten?

def toJson (schema : Schema) : Json :=
  .object
    [("version", .integer schema.version.toNat),
     ("entities", .object (schema.entities.entries.map fun (name, entity) =>
       (name, entity.toJson)))]

def text (schema : Schema) : String := schema.toJson.compact

end Schema

end RecordQuery
