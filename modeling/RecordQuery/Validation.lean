import RecordQuery.Request.Query
import RecordQuery.Settings
import RecordQuery.Text.Alphanumeric
import RecordQuery.Violation

/-!
# Acceptable requests

A request is checked against the schema, the policies of its fields and the settings before
anything is made of it. The checks have a fixed order and the first violation is the answer: fields
to return, condition, order, page.
-/

namespace RecordQuery

/-- What requests are checked against. -/
structure Validator where
  schema : Schema
  settings : Settings

namespace Validator

def resolver (validator : Validator) : Resolver :=
  ⟨validator.schema, validator.settings.delimiter⟩

/-- Checks each element in turn. -/
def each {α : Type} (check : α → Except Violation Unit) : List α → Except Violation Unit
  | [] => .ok ()
  | first :: rest => do
    check first
    each check rest

def entity (validator : Validator) (name : String) : Except Violation Entity :=
  match validator.schema.entity? name with
  | some entity => .ok entity
  | none => .error (.unknownEntity name)

def resolve (validator : Validator) (entity : Entity) (location : Location) (field : String) :
    Except Violation Path :=
  match validator.resolver.resolve entity field with
  | .error fault => .error (.invalidPath fault)
  | .ok none => .error (.unknownField location field)
  | .ok (some path) => .ok path

def checkField (validator : Validator) (entity : Entity) (location : Location)
    (field : String) : Except Violation Unit := do
  let _ ← validator.resolve entity location field
  pure ()

/-! ### Conditions -/

/-- Does the field at the end of some declared names refuse a comparison? The names are followed by
declared name alone. -/
def refusesAt (schema : Schema) (comparison : Comparison) : Entity → List String → Bool
  | _, [] => false
  | entity, [name] => (entity.field? name).any (·.disallows comparison)
  | entity, name :: next :: more =>
    match (entity.field? name).bind schema.embeddedEntity? with
    | none => false
    | some child => refusesAt schema comparison child (next :: more)

/-- Checks that neither the settings nor the field refuse a comparison. -/
def checkPermitted (validator : Validator) (entity : Entity) (field : String) (path : Path)
    (comparison : Comparison) : Except Violation Unit :=
  if validator.settings.disables comparison then .error (.refused field comparison .settings)
  else if refusesAt validator.schema comparison entity path.names then
    .error (.refused field comparison .field)
  else .ok ()

/-- Checks that the value of a pattern comparison holds letters and digits only. -/
def checkPattern (field : String) (comparison : Comparison) (value : Option Literal) :
    Except Violation Unit :=
  match value with
  | some literal =>
    if comparison.isPattern && !Text.lettersAndDigits literal.text.toList then
      .error (.patternValue field comparison)
    else .ok ()
  | none => .ok ()

def comparison (field : String) (operator : Option String) : Except Violation Comparison :=
  match operator with
  | none => .error (.shape (.noOperator field))
  | some spelling =>
    match Comparison.ofSpelling? spelling with
    | some comparison => .ok comparison
    | none => .error (.unknownOperator .comparison spelling)

def checkComparison (validator : Validator) (entity : Entity) (field : String)
    (operator : Option String) (value : Option Literal) : Except Violation Unit := do
  let path ← validator.resolve entity .condition field
  let comparison ← comparison field operator
  validator.checkPermitted entity field path comparison
  checkPattern field comparison value

/-- Checks that a condition at some depth, the root having depth 1, is not too deep. -/
def checkDepth (validator : Validator) (depth : Nat) : Except Violation Unit :=
  match validator.settings.maxDepth with
  | some limit => if limit < depth then .error (.shape (.tooDeep limit)) else .ok ()
  | none => .ok ()

def checkConnective (operator : Option String) : Except Violation Unit :=
  match operator with
  | some spelling =>
    if (Connective.ofSpelling? spelling).isSome then .ok ()
    else .error (.unknownOperator .logical spelling)
  | none => .ok ()

mutual

def checkCondition (validator : Validator) (entity : Entity) (depth : Nat) :
    Condition → Except Violation Unit
  | ⟨field, operator, value, _, groups⟩ => do
    validator.checkDepth depth
    match field, groups with
    | none, none => .error (.shape .neitherFieldNorGroups)
    | some _, some _ => .error (.shape .bothFieldAndGroups)
    | some field, none => validator.checkComparison entity field operator value
    | none, some groups =>
      if operator.isSome then .error (.shape .operatorOnGroups)
      else if groups.isEmpty then .error (.shape .noGroups)
      else checkGroups validator entity (depth + 1) groups

/-- Checks groups whose conditions are at some depth. -/
def checkGroups (validator : Validator) (entity : Entity) (depth : Nat) :
    List (Option Group) → Except Violation Unit
  | [] => .ok ()
  | none :: _ => .error (.shape .nullGroup)
  | some ⟨operator, members⟩ :: rest => do
    checkConnective operator
    if members.isEmpty then .error (.shape .emptyGroup)
    else
      checkMembers validator entity depth members
      checkGroups validator entity depth rest

/-- Checks the conditions of a group, which are at some depth. -/
def checkMembers (validator : Validator) (entity : Entity) (depth : Nat) :
    List (Option Condition) → Except Violation Unit
  | [] => .ok ()
  | none :: _ => .error (.shape .nullCondition)
  | some condition :: rest => do
    checkCondition validator entity depth condition
    checkMembers validator entity depth rest

end

/-! ### Requests -/

def checkOrderKey (validator : Validator) (entity : Entity) (key : OrderKey) :
    Except Violation Unit :=
  match key.field with
  | none => .error (.shape .orderWithoutField)
  | some field => validator.checkField entity .order field

def checkBound (bound : PageBound) (value : Option Int64) : Except Violation Unit :=
  match value with
  | some n => if n.toInt < 0 then .error (.negative bound) else .ok ()
  | none => .ok ()

def checkQuery (validator : Validator) (entity : Entity) (query : Query) :
    Except Violation Unit := do
  if !query.includes.isEmpty && !query.excludes.isEmpty then
    .error (.shape .includesAndExcludes)
  else
    each (validator.checkField entity .includes) query.includes
    each (validator.checkField entity .excludes) query.excludes
    match query.condition with
    | some condition => validator.checkCondition entity 1 condition
    | none => .ok ()
    each (validator.checkOrderKey entity) query.order
    checkBound .limit query.limit
    checkBound .skip query.skip

/-- Is a query for records of the entity of a name acceptable? -/
def validateQuery (validator : Validator) (name : String) (query : Query) :
    Except Violation Unit := do
  let entity ← validator.entity name
  validator.checkQuery entity query

/-- Is a condition on records of the entity of a name acceptable? -/
def validateCondition (validator : Validator) (name : String) (condition : Condition) :
    Except Violation Unit := do
  let entity ← validator.entity name
  validator.checkCondition entity 1 condition

/-- Is a filter acceptable? It must not be empty, since it would hold for every record. -/
def validateFilter (validator : Validator) (name : String) (filter : Filter) :
    Except Violation Unit := do
  let entity ← validator.entity name
  if filter.entries.isEmpty then .error .emptyFilter
  else each (validator.checkField entity .filter) filter.keys

/-- Is a list of properties to update acceptable? -/
def validateUpdate (validator : Validator) (name : String) (properties : List String) :
    Except Violation Unit := do
  let entity ← validator.entity name
  if properties.isEmpty then .error .emptyUpdate
  else each (validator.checkField entity .update) properties

def verdict (validator : Validator) (name : String) (query : Query) : Verdict :=
  match validator.validateQuery name query with
  | .ok () => .valid
  | .error violation => .invalid violation.message

end Validator

end RecordQuery
