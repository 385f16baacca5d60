import RecordQuery.Plan.Backend
import RecordQuery.Request.Query
import RecordQuery.Settings
import RecordQuery.Validation

/-!
# Plans

A plan is what a request becomes for one backend. The planner walks the condition tree once,
resolves every field and converts every literal to the type of its field; what it emits is the
backend's. The first fault in the order condition, sort keys, fields to return, page is the answer.
-/

namespace RecordQuery

/-- A query in the form of a backend. -/
structure Plan (Condition Order Fields : Type) where
  -- The condition, or nothing for every record.
  filter : Option Condition
  order : Order
  -- The fields to return, or nothing for all of them.
  fields : Option Fields
  limit : Option Nat
  skip : Option Nat
  deriving DecidableEq

/-- Why a request that is checked first has no plan. -/
inductive QueryFault where
  | invalid (violation : Violation)
  | plan (fault : PlanFault)
  deriving DecidableEq, Repr

namespace QueryFault

def message : QueryFault → String
  | .invalid violation => violation.message
  | .plan fault => fault.message

/-- Is the fault a defect of the backend and not of the request? -/
def isInternal : QueryFault → Bool
  | .invalid _ => false
  | .plan fault => fault.isInternal

end QueryFault

/-- Makes plans for one backend. -/
structure Planner (Condition Order Fields : Type) where
  schema : Schema
  settings : Settings
  backend : Backend Condition Order Fields

namespace Planner

variable {Emitted Order Fields : Type}

def resolver (planner : Planner Emitted Order Fields) : Resolver :=
  ⟨planner.schema, planner.settings.delimiter⟩

def validator (planner : Planner Emitted Order Fields) : Validator :=
  ⟨planner.schema, planner.settings⟩

def entity (planner : Planner Emitted Order Fields) (name : String) : Except PlanFault Entity :=
  match planner.schema.entity? name with
  | some entity => .ok entity
  | none => .error (.unknownEntity name)

/-- The path of a reference, if the backend can address it. -/
def resolve (planner : Planner Emitted Order Fields) (entity : Entity) (field : String) :
    Except PlanFault Path :=
  match planner.resolver.resolve entity field with
  | .error fault => .error (.invalidPath fault)
  | .ok none => .error (.unknownField field)
  | .ok (some path) => do
    planner.backend.checkPath path
    pure path

/-! ### Conditions -/

/-- A coercion as a step of planning. -/
def coerced {α : Type} : Except CoercionFault α → Except PlanFault α
  | .ok value => .ok value
  | .error fault => .error (.coercion fault)

/-- What a field is compared with. A comparison with a set takes the list of values, or the single
value when the list is empty; equality without a value is with null. -/
def operand (type : FieldType) (field : String) (comparison : Comparison)
    (value : Option Literal) (values : List Literal) : Except PlanFault Operand :=
  if comparison.isMembership then
    match values, value with
    | [], none => .ok (.many [])
    | [], some literal => do
      let value ← coerced (type.coerce field literal)
      pure (.many [value])
    | values, _ => do
      let values ← coerced (type.coerceAll field values)
      pure (.many values)
  else
    match value with
    | none =>
      if comparison = .equal ∨ comparison = .notEqual then .ok .null
      else .error (.coercion (.missingValue field comparison))
    | some literal =>
      if comparison.isPattern then do
        let text ← coerced (type.patternText field comparison literal)
        pure (.pattern text)
      else do
        let value ← coerced (type.coerce field literal)
        pure (.single value)

/-- A comparison in the backend's form, if it implements it. -/
def emit (planner : Planner Emitted Order Fields) (path : Path) (comparison : Comparison)
    (operand : Operand) : Except PlanFault Emitted :=
  if planner.backend.supports comparison then planner.backend.compare path comparison operand
  else .error (.unsupported planner.backend.name comparison)

def comparison (field : String) (operator : Option String) : Except PlanFault Comparison :=
  match operator with
  | none => .error (.malformed (.noOperator field))
  | some spelling =>
    match Comparison.ofSpelling? spelling with
    | some comparison => .ok comparison
    | none => .error (.unknownOperator spelling)

/-- The comparison of a field with a value or a set of values. -/
def planComparison (planner : Planner Emitted Order Fields) (entity : Entity) (field : String)
    (operator : Option String) (value : Option Literal) (values : List Literal) :
    Except PlanFault Emitted := do
  let comparison ← comparison field operator
  let path ← planner.resolve entity field
  let operand ← operand path.type field comparison value values
  planner.emit path comparison operand

def connective (operator : Option String) : Except PlanFault Connective :=
  match operator with
  | none => .ok .conjunction
  | some spelling =>
    match Connective.ofSpelling? spelling with
    | some connective => .ok connective
    | none => .error (.unknownOperator spelling)

mutual

/-- A condition in the backend's form. Several groups are joined by conjunction. -/
def planCondition (planner : Planner Emitted Order Fields) (entity : Entity) :
    Condition → Except PlanFault Emitted
  | ⟨field, operator, value, values, groups⟩ =>
    match field, groups with
    | some field, none => planner.planComparison entity field operator value values
    | none, some groups => do
      let parts ← planGroups planner entity groups
      if parts.isEmpty then .error (.malformed .noGroups)
      else .ok (planner.backend.join .conjunction parts)
    | _, _ => .error (.malformed .neitherFieldNorGroups)

/-- Groups in the backend's form. -/
def planGroups (planner : Planner Emitted Order Fields) (entity : Entity) :
    List (Option Group) → Except PlanFault (List Emitted)
  | [] => .ok []
  | none :: _ => .error (.malformed .nullGroup)
  | some ⟨operator, members⟩ :: rest => do
    let connective ← connective operator
    let parts ← planMembers planner entity members
    if parts.isEmpty then .error (.malformed .emptyGroup)
    else
      let rest ← planGroups planner entity rest
      pure (planner.backend.join connective parts :: rest)

/-- The conditions of a group in the backend's form. -/
def planMembers (planner : Planner Emitted Order Fields) (entity : Entity) :
    List (Option Condition) → Except PlanFault (List Emitted)
  | [] => .ok []
  | none :: _ => .error (.malformed .nullCondition)
  | some condition :: rest => do
    let part ← planCondition planner entity condition
    let rest ← planMembers planner entity rest
    pure (part :: rest)

end

/-! ### Queries -/

/-- A resolved key to order by. -/
def sortKey (planner : Planner Emitted Order Fields) (entity : Entity) (key : OrderKey) :
    Except PlanFault SortKey :=
  match key.field with
  | none => .error (.malformed .orderWithoutField)
  | some field => do
    let path ← planner.resolve entity field
    pure ⟨path, key.isDescending⟩

/-- The fields to return or to leave out. Those to return come first. -/
def projection? (planner : Planner Emitted Order Fields) (entity : Entity) (query : Query) :
    Except PlanFault (Option Projection) :=
  let resolved (kind : ProjectionKind) (fields : List String) := do
    let paths ← fields.mapM (planner.resolve entity)
    pure (some ⟨kind, paths, planner.schema.leafPaths entity⟩)
  if !query.includes.isEmpty then resolved .include query.includes
  else if !query.excludes.isEmpty then resolved .exclude query.excludes
  else .ok none

def pageBound (bound : PageBound) (value : Option Int64) : Except PlanFault (Option Nat) :=
  match value with
  | none => .ok none
  | some n =>
    if n.toInt < 0 then .error (.malformed (.negative bound)) else .ok (some n.toInt.toNat)

def planEntity (planner : Planner Emitted Order Fields) (entity : Entity) (query : Query) :
    Except PlanFault (Plan Emitted Order Fields) := do
  let filter ← match query.condition with
    | some condition => (planner.planCondition entity condition).map some
    | none => .ok none
  let keys ← query.order.mapM (planner.sortKey entity)
  let projection ← planner.projection? entity query
  let limit ← pageBound .limit query.limit
  let skip ← pageBound .skip query.skip
  pure
    { filter
      order := planner.backend.order keys
      fields := projection.map planner.backend.project
      limit
      skip }

def planQuery (planner : Planner Emitted Order Fields) (name : String) (query : Query) :
    Except PlanFault (Plan Emitted Order Fields) := do
  let entity ← planner.entity name
  planner.planEntity entity query

/-- A condition on records of the entity of a name, in the backend's form. -/
def planOnly (planner : Planner Emitted Order Fields) (name : String) (condition : Condition) :
    Except PlanFault Emitted := do
  let entity ← planner.entity name
  planner.planCondition entity condition

/-- The equality of a field with a value or with null. -/
def planEquality (planner : Planner Emitted Order Fields) (entity : Entity) (field : String)
    (value : Option Literal) : Except PlanFault Emitted := do
  let path ← planner.resolve entity field
  let operand ← operand path.type field .equal value []
  planner.emit path .equal operand

/-- A filter in the backend's form, the conjunction of its equalities. -/
def planFilter (planner : Planner Emitted Order Fields) (name : String) (filter : Filter) :
    Except PlanFault Emitted := do
  let entity ← planner.entity name
  let parts ← filter.entries.mapM fun (field, value) => planner.planEquality entity field value
  pure (planner.backend.join .conjunction parts)

/-! ### Checked requests -/

def planChecked (planner : Planner Emitted Order Fields) (name : String) (query : Query) :
    Except QueryFault (Plan Emitted Order Fields) :=
  match planner.validator.validateQuery name query with
  | .error violation => .error (.invalid violation)
  | .ok () =>
    match planner.planQuery name query with
    | .error fault => .error (.plan fault)
    | .ok plan => .ok plan

def planFilterChecked (planner : Planner Emitted Order Fields) (name : String)
    (filter : Filter) : Except QueryFault Emitted :=
  match planner.validator.validateFilter name filter with
  | .error violation => .error (.invalid violation)
  | .ok () =>
    match planner.planFilter name filter with
    | .error fault => .error (.plan fault)
    | .ok emitted => .ok emitted

end Planner

end RecordQuery
