import RecordQuery.Plan.Basic
import RecordQuery.Sql.Fragment

/-!
# Plans for tables

The backend of stores with tables. An embedded entity is kept in columns of its owner, whose names
join the names of a path by underscores. Collections have no column, so no path may cross one.
Unequal values and values outside of a set include null, as in filter documents.
-/

namespace RecordQuery.Sql

structure OrderTerm where
  column : String
  descending : Bool
  deriving DecidableEq, Repr

/-- A plan for a table. -/
abbrev TablePlan := Plan Predicate (List OrderTerm) (List String)

namespace Relational

def name : String := "relational"

def column (path : Path) : String := path.join "_"

/-- Refuses paths through collections. -/
def checkPath (path : Path) : Except PlanFault Unit :=
  if path.crossesCollection then .error (.collectionPath name path.text) else .ok ()

/-- A comparison of a column, if there is one for the operand. -/
def compare? (column : String) (comparison : Comparison) : Operand → Option Predicate
  | .null =>
    match comparison with
    | .equal => some (.isNull column)
    | .notEqual => some (.isNotNull column)
    | _ => none
  | .single value =>
    match comparison with
    | .equal => some (.compare column .equal value)
    | .notEqual => some (.any [.compare column .notEqual value, .isNull column])
    | .greater => some (.compare column .greater value)
    | .greaterOrEqual => some (.compare column .greaterOrEqual value)
    | .less => some (.compare column .less value)
    | .lessOrEqual => some (.compare column .lessOrEqual value)
    | _ => none
  | .many values =>
    match comparison with
    | .among => some (if values.isEmpty then .constant false else .among column values)
    | .notAmong =>
      some (if values.isEmpty then .constant true
        else .any [.notAmong column values, .isNull column])
    | _ => none
  | .pattern text =>
    match comparison with
    | .contains => some (.pattern column .anywhere text)
    | .startsWith => some (.pattern column .atStart text)
    | .endsWith => some (.pattern column .atEnd text)
    | _ => none

def compare (path : Path) (comparison : Comparison) (operand : Operand) :
    Except PlanFault Predicate :=
  match compare? (column path) comparison operand with
  | some predicate => .ok predicate
  | none => .error (.unsupported name comparison)

def join (connective : Connective) (parts : List Predicate) : Predicate :=
  match connective with
  | .conjunction => .all parts
  | .disjunction => .any parts

/-- The elements in the order of their first occurrence. -/
def withoutRepeats (columns : List String) : List String :=
  columns.foldl (fun kept column => if kept.contains column then kept else kept ++ [column]) []

/-- The columns to return, each once: those of the selected leaves that cross no collection. -/
def project (projection : Projection) : List String :=
  withoutRepeats ((projection.selected.filter (!·.crossesCollection)).map column)

/-- Plans as predicates over columns. -/
def backend : Backend Predicate (List OrderTerm) (List String) where
  name := name
  supports _ := true
  checkPath := checkPath
  compare := compare
  join := join
  order keys := keys.map fun sort => ⟨column sort.path, sort.descending⟩
  project := project

end Relational

/-! ### Statements -/

def writeWhere (dialect : Dialect) : Option Predicate → Writer
  | some predicate => .ofString " WHERE " ++ predicate.write dialect
  | none => .nothing

/-- The columns of a statement, all of them when none is named. -/
def writeColumns (dialect : Dialect) : Option (List String) → Writer
  | some (column :: rest) =>
    .separated ", " ((column :: rest).map (Writer.identifier dialect))
  | some [] => .ofString "*"
  | none => .ofString "*"

def writeOrderTerm (dialect : Dialect) (term : OrderTerm) : Writer :=
  .identifier dialect term.column ++ .ofString (if term.descending then " DESC" else " ASC")

def writeOrder (dialect : Dialect) (terms : List OrderTerm) : Writer :=
  if terms.isEmpty then .nothing
  else .ofString " ORDER BY " ++ .separated ", " (terms.map (writeOrderTerm dialect))

def writeNatural (n : Nat) : Writer := .ofChars (Digits.decimal n)

/-- What stands for "no limit" before an offset. -/
def noLimit : Dialect → String
  | .postgres => ""
  | .sqlite => " LIMIT -1"
  | .mysql => " LIMIT 18446744073709551615"

def writePage (dialect : Dialect) : (limit skip : Option Nat) → Writer
  | some limit, some skip =>
    .ofString " LIMIT " ++ writeNatural limit ++ .ofString " OFFSET " ++ writeNatural skip
  | some limit, none => .ofString " LIMIT " ++ writeNatural limit
  | none, some skip =>
    .ofString (noLimit dialect) ++ .ofString " OFFSET " ++ writeNatural skip
  | none, none => .nothing

/-- The statement that reads the records of a plan from a table. -/
def select (dialect : Dialect) (table : String) (plan : TablePlan) : Fragment :=
  (Writer.ofString "SELECT " ++ writeColumns dialect plan.fields ++ .ofString " FROM " ++
    .identifier dialect table ++ writeWhere dialect plan.filter ++
    writeOrder dialect plan.order ++ writePage dialect plan.limit plan.skip) 0

def count (dialect : Dialect) (table : String) (filter : Option Predicate) : Fragment :=
  (Writer.ofString "SELECT COUNT(*) FROM " ++ .identifier dialect table ++
    writeWhere dialect filter) 0

def delete (dialect : Dialect) (table : String) (filter : Predicate) : Fragment :=
  (Writer.ofString "DELETE FROM " ++ .identifier dialect table ++
    writeWhere dialect (some filter)) 0

end RecordQuery.Sql
