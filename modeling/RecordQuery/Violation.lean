import RecordQuery.Path.Resolve

/-!
# Violations

Why a request is not acceptable, with the message for its sender.
-/

namespace RecordQuery

/-- Where in a request a field is referred to. -/
inductive Location where
  | includes
  | excludes
  | condition
  | order
  | filter
  | update
  deriving DecidableEq, Repr

def Location.name : Location → String
  | .includes => "Includes"
  | .excludes => "Excludes"
  | .condition => "Condition"
  | .order => "OrderBy"
  | .filter => "Filter"
  | .update => "Update"

/-- The two kinds of operators. -/
inductive OperatorKind where
  | comparison
  | logical
  deriving DecidableEq, Repr

def OperatorKind.name : OperatorKind → String
  | .comparison => "comparison"
  | .logical => "logical"

/-- What refuses a comparison. -/
inductive Refusal where
  | settings
  | field
  deriving DecidableEq, Repr

def Refusal.text : Refusal → String
  | .settings => "is disabled"
  | .field => "is not allowed on this field"

/-- What is wrong with the shape of a request. -/
inductive ShapeFault where
  | includesAndExcludes
  | orderWithoutField
  | tooDeep (limit : Nat)
  | neitherFieldNorGroups
  | bothFieldAndGroups
  | operatorOnGroups
  | noGroups
  | nullGroup
  | emptyGroup
  | nullCondition
  | noOperator (field : String)
  deriving DecidableEq, Repr

def ShapeFault.message : ShapeFault → String
  | .includesAndExcludes => "Invalid query: Includes and Excludes cannot both be populated."
  | .orderWithoutField => "OrderBy entries must specify a field."
  | .tooDeep limit => s!"Condition nesting exceeds the maximum depth of {limit}."
  | .neitherFieldNorGroups => "Condition must contain either a field or groupedConditions."
  | .bothFieldAndGroups => "Condition cannot contain both a field and groupedConditions."
  | .operatorOnGroups => "Condition with groupedConditions cannot specify a comparisonOperator."
  | .noGroups => "GroupedConditions cannot be empty."
  | .nullGroup => "GroupedConditions cannot contain null entries."
  | .emptyGroup => "A grouped condition must contain at least one condition."
  | .nullCondition => "Conditions cannot contain null entries."
  | .noOperator field => s!"Condition on field '{field}' must specify a comparisonOperator."

/-- A bound of the page of records. -/
inductive PageBound where
  | limit
  | skip
  deriving DecidableEq, Repr

def PageBound.message : PageBound → String
  | .limit => "Limit cannot be less than zero."
  | .skip => "Skip cannot be less than zero."

/-- Why a request is not acceptable. -/
inductive Violation where
  | unknownEntity (name : String)
  | shape (fault : ShapeFault)
  | unknownField (location : Location) (field : String)
  | unknownOperator (kind : OperatorKind) (operator : String)
  | refused (field : String) (comparison : Comparison) (origin : Refusal)
  | patternValue (field : String) (comparison : Comparison)
  | negative (bound : PageBound)
  | invalidPath (fault : PathFault)
  | emptyFilter
  | emptyUpdate
  deriving DecidableEq, Repr

def Violation.message : Violation → String
  | .unknownEntity name => s!"Unknown entity '{name}'."
  | .shape fault => fault.message
  | .unknownField location field => s!"{location.name} field '{field}' does not exist."
  | .unknownOperator kind operator => s!"Unknown {kind.name} operator '{operator}'."
  | .refused field comparison origin =>
    s!"The {comparison.name} operator {origin.text} (field '{field}')."
  | .patternValue field comparison =>
    s!"The {comparison.name} value for field '{field}' can only contain letters and numbers."
  | .negative bound => bound.message
  | .invalidPath fault => fault.message
  | .emptyFilter => "Filter cannot be empty."
  | .emptyUpdate => "Properties to update cannot be empty."

/-- The outcome of a check as its caller sees it. -/
structure Verdict where
  isValid : Bool
  message : Option String
  deriving DecidableEq, Repr

namespace Verdict

def valid : Verdict := ⟨true, none⟩

def invalid (reason : String) : Verdict := ⟨false, some reason⟩

end Verdict

end RecordQuery
