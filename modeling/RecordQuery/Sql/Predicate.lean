import RecordQuery.Value

/-!
# Predicates over columns

The conditions of SQL as a tree, before anything is written: columns by name, values by
themselves.
-/

namespace RecordQuery.Sql

/-- How a column is compared with a value. -/
inductive CompareOp where
  | equal
  | notEqual
  | greater
  | greaterOrEqual
  | less
  | lessOrEqual
  deriving DecidableEq, Repr

def CompareOp.text : CompareOp → String
  | .equal => "="
  | .notEqual => "<>"
  | .greater => ">"
  | .greaterOrEqual => ">="
  | .less => "<"
  | .lessOrEqual => "<="

/-- Where a text has to stand in the value of a column. -/
inductive PatternKind where
  | anywhere
  | atStart
  | atEnd
  deriving DecidableEq, Repr

/-- A condition on the columns of a row. -/
inductive Predicate where
  | compare (column : String) (op : CompareOp) (value : Value)
  | isNull (column : String)
  | isNotNull (column : String)
  | among (column : String) (values : List Value)
  | notAmong (column : String) (values : List Value)
  -- The text stands in the column's value as it is, in the same case.
  | pattern (column : String) (kind : PatternKind) (text : String)
  | all (parts : List Predicate)
  | any (parts : List Predicate)
  | constant (truth : Bool)

end RecordQuery.Sql
