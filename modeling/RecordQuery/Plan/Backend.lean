import RecordQuery.Coercion
import RecordQuery.Path.Leaves
import RecordQuery.Violation

/-!
# Backends

A backend is what a store offers for making a plan: one comparison, the joining of conditions, an
order and a projection, each in the store's own form. It may refuse a path that it cannot address
and a comparison that it does not implement.
-/

namespace RecordQuery

/-- What a comparison compares with. -/
inductive Operand where
  -- No value: the comparison is with null.
  | null
  | single (value : Value)
  | many (values : List Value)
  -- The text that a pattern looks for.
  | pattern (text : String)
  deriving DecidableEq

/-- A resolved key to order by. -/
structure SortKey where
  path : Path
  descending : Bool
  deriving DecidableEq

/-- Which of the fields of an entity to return. -/
inductive ProjectionKind where
  | include
  | exclude
  deriving DecidableEq, Repr

/-- The resolved fields to return or to leave out, with all leaf paths of the entity for backends
that know no embedded entities. -/
structure Projection where
  kind : ProjectionKind
  fields : List Path
  leaves : List Path
  deriving DecidableEq

namespace Projection

/-- The leaves below a field to return. A field without fields of its own stands for itself. -/
def below (leaves : List Path) (field : Path) : List Path :=
  if field.type.isComposite then leaves.filter (·.isUnder field) else [field]

/-- The leaf paths that are returned. -/
def selected (projection : Projection) : List Path :=
  match projection.kind with
  | .include => projection.fields.flatMap (below projection.leaves)
  | .exclude => projection.leaves.filter fun leaf => !projection.fields.any leaf.isUnder

end Projection

/-- What is wrong with the shape of a request that is made into a plan. -/
inductive Malformation where
  | orderWithoutField
  | nullGroup
  | noGroups
  | neitherFieldNorGroups
  | emptyGroup
  | nullCondition
  | noOperator (field : String)
  | negative (bound : PageBound)
  deriving DecidableEq, Repr

def Malformation.message : Malformation → String
  | .orderWithoutField => "sort key has no field"
  | .nullGroup => "null grouped condition"
  | .noGroups => "empty groupedConditions"
  | .neitherFieldNorGroups => "condition must contain either a field or groupedConditions"
  | .emptyGroup => "empty grouped condition"
  | .nullCondition => "null condition"
  | .noOperator field => s!"field '{field}' has no operator"
  | .negative .limit => "limit cannot be less than zero"
  | .negative .skip => "skip cannot be less than zero"

/-- Why there is no plan. -/
inductive PlanFault where
  | coercion (fault : CoercionFault)
  | invalidPath (fault : PathFault)
  | unknownEntity (name : String)
  | unknownField (field : String)
  | unknownOperator (operator : String)
  -- The backend keeps the field outside of the record.
  | collectionPath (backend field : String)
  | malformed (cause : Malformation)
  -- The backend does not implement the comparison.
  | unsupported (backend : String) (comparison : Comparison)
  deriving DecidableEq, Repr

namespace PlanFault

def message : PlanFault → String
  | .coercion fault => fault.message
  | .invalidPath fault => fault.message
  | .unknownEntity name => s!"Unknown entity '{name}'."
  | .unknownField field => s!"Field '{field}' does not exist."
  | .unknownOperator operator => s!"Unknown operator '{operator}'."
  | .collectionPath backend field =>
    s!"Field '{field}' is a collection and cannot be queried on the {backend} backend."
  | .malformed cause => cause.message
  | .unsupported backend comparison =>
    s!"internal error: {backend} backend does not implement the {comparison.name} operator"

/-- Is the fault a defect of the backend and not of the request? -/
def isInternal : PlanFault → Bool
  | .unsupported .. => true
  | _ => false

end PlanFault

/-- How a store expresses conditions, orders and projections. -/
structure Backend (Condition Order Fields : Type) where
  name : String
  supports : Comparison → Bool
  -- Can the store address the path? It is asked for every field that a request names.
  checkPath : Path → Except PlanFault Unit
  compare : Path → Comparison → Operand → Except PlanFault Condition
  join : Connective → List Condition → Condition
  order : List SortKey → Order
  project : Projection → Fields

end RecordQuery
