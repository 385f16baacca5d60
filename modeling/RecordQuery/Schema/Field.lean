import RecordQuery.Operator
import RecordQuery.Schema.FieldType

/-!
# Fields and their policies

A policy lists the comparisons that a field refuses. A policy that is there but empty refuses every
comparison. A field is referred to by its declared name or its alias, in any case of ASCII letters.
-/

namespace RecordQuery

/-- An entry of a policy. -/
inductive OperatorRule where
  | every
  | only (comparison : Comparison)
  deriving DecidableEq, Repr

/-- A rule that names no comparison. -/
structure UnknownRule where
  name : String
  deriving DecidableEq, Repr

def UnknownRule.message (unknown : UnknownRule) : String :=
  s!"unknown comparison operator '{unknown.name}'"

namespace OperatorRule

/-- The written form. -/
def text : OperatorRule → String
  | .every => "ALL"
  | .only comparison => comparison.name

/-- The rule of a written form: every comparison, or one in any of its spellings. -/
def ofText (text : String) : Except UnknownRule OperatorRule :=
  if Text.sameName text "all" || text == "*" then .ok .every
  else match Comparison.ofSpelling? text with
    | some comparison => .ok (.only comparison)
    | none => .error ⟨text⟩

end OperatorRule

/-- The comparisons that a field refuses. -/
structure FieldPolicy where
  disallowed : List OperatorRule
  deriving DecidableEq, Repr

namespace FieldPolicy

def deny (comparisons : List Comparison) : FieldPolicy := ⟨comparisons.map .only⟩

def denyAll : FieldPolicy := ⟨[.every]⟩

def disallows (policy : FieldPolicy) (comparison : Comparison) : Bool :=
  policy.disallowed.isEmpty || policy.disallowed.contains (.only comparison) ||
    policy.disallowed.contains .every

end FieldPolicy

/-- A declared field of an entity. -/
structure Field where
  name : String
  -- A second name for requests.
  aliasName : Option String := none
  type : FieldType
  required : Bool := true
  policy : Option FieldPolicy := none
  deriving DecidableEq, Repr

namespace Field

/-- A field that need not be given. -/
def optional (name : String) (type : FieldType) : Field := { name, type, required := false }

def withAlias (name : String) (field : Field) : Field := { field with aliasName := some name }

def withPolicy (policy : FieldPolicy) (field : Field) : Field :=
  { field with policy := some policy }

/-- The field with a policy that refuses some comparisons. -/
def denyComparisons (comparisons : List Comparison) (field : Field) : Field :=
  field.withPolicy (FieldPolicy.deny comparisons)

/-- Does a request's name refer to the field? -/
def answersTo (field : Field) (name : String) : Bool :=
  Text.sameName field.name name || field.aliasName.any (Text.sameName · name)

def disallows (field : Field) (comparison : Comparison) : Bool :=
  field.policy.any (·.disallows comparison)

end Field

end RecordQuery
