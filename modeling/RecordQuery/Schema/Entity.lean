import RecordQuery.Dictionary
import RecordQuery.Operation
import RecordQuery.Schema.Field

/-!
# Entities and schemas

An entity declares the fields of a record type and the operations it denies. A schema holds
entities by name. Looking something up takes the declared name first as it stands and then without
regard to the case of ASCII letters.
-/

namespace RecordQuery

/-- A record type. -/
structure Entity where
  name : String
  -- The name of the field that identifies a record.
  identity : String
  fields : List Field := []
  -- The denied operations. An empty list denies all, no list denies none.
  denied : Option (List Operation) := none
  deriving DecidableEq, Repr

namespace Entity

def withField (field : Field) (entity : Entity) : Entity :=
  { entity with fields := entity.fields ++ [field] }

def withFields (fields : List Field) (entity : Entity) : Entity :=
  { entity with fields := entity.fields ++ fields }

def deny (operations : List Operation) (entity : Entity) : Entity :=
  { entity with denied := some (entity.denied.getD [] ++ operations) }

def denyAll (entity : Entity) : Entity := { entity with denied := some [] }

/-- The field of a declared name. -/
def field? (entity : Entity) (name : String) : Option Field :=
  entity.fields.find? (·.name == name)

/-- The field that a request's name refers to. -/
def findField? (entity : Entity) (name : String) : Option Field :=
  (entity.field? name).or (entity.fields.find? (·.answersTo name))

def identityField? (entity : Entity) : Option Field := entity.field? entity.identity

def permits (entity : Entity) (operation : Operation) : Bool :=
  operation.isPermitted entity.denied

end Entity

/-- The entities of an application, by name. -/
structure Schema where
  version : UInt64 := 0
  entities : Dictionary Entity := Dictionary.empty
  deriving DecidableEq

/-- A name that no entity of a schema has. -/
structure UnknownEntity where
  name : String
  deriving DecidableEq, Repr

def UnknownEntity.message (unknown : UnknownEntity) : String :=
  s!"unknown entity '{unknown.name}'"

namespace Schema

/-- The schema with an entity put at its name. -/
def withEntity (entity : Entity) (schema : Schema) : Schema :=
  { schema with entities := schema.entities.put entity.name entity }

/-- The schema with a record type and, before it, the types it embeds. -/
def register (embedded : List Entity) (entity : Entity) (schema : Schema) : Schema :=
  (embedded.foldl (fun schema entity => schema.withEntity entity) schema).withEntity entity

/-- The schema of some entities, each put at its own name. -/
def ofEntities (version : UInt64) (entities : List Entity) : Schema :=
  entities.foldl (fun schema entity => schema.withEntity entity) { version }

def names (schema : Schema) : List String := schema.entities.keys

def entity? (schema : Schema) (name : String) : Option Entity :=
  (schema.entities.get? name).or
    (schema.entities.values.find? fun entity => Text.sameName entity.name name)

/-- The entity of a name, or why there is none. -/
def entity (schema : Schema) (name : String) : Except UnknownEntity Entity :=
  match schema.entity? name with
  | some entity => .ok entity
  | none => .error ⟨name⟩

/-- Does the entity of a name permit the operation? An unknown one permits nothing. -/
def permits (schema : Schema) (name : String) (operation : Operation) : Bool :=
  (schema.entity? name).any (·.permits operation)

/-- The entity whose fields a field's references continue with. -/
def embeddedEntity? (schema : Schema) (field : Field) : Option Entity :=
  field.type.embedded?.bind schema.entity?

end Schema

end RecordQuery
