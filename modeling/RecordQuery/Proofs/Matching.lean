import RecordQuery.Proofs.Stores
import RecordQuery.Text.Pieces

/-!
# Records that match a filter document

A record is a tree of objects and lists over typed values. What is missing counts as null. Null is
equal to null alone, no order and no pattern holds of it, and what is not equal is unequal.
-/

namespace RecordQuery

/-- A record of a store of documents. -/
inductive Document where
  | value (value : Value)
  | list (items : List Document)
  | object (entries : List (String × Document))

namespace Document

/-- The part of an object at a key, null if there is none. -/
def child (key : String) : Document → Document
  | .object entries => (entryAt? key entries).getD (.value .null)
  | _ => .value .null

/-- The part of a record at a key whose pieces are parted by points. -/
def look (document : Document) (key : String) : Document :=
  (Text.pieces ['.'] key.toList).foldl (fun part piece => part.child (String.ofList piece)) document

end Document

namespace FilterDocument

/-! ### Tests of a part -/

/-- The order of a part of a record and an operand, null having none. -/
def order (stores : Stores) (actual : Document) (operand : Json) : Option Ordering :=
  match actual with
  | .value value =>
    if value = .null ∨ operand = .null then none else stores.orderWritten value operand
  | _ => none

/-- Is a part of a record equal to an operand? -/
def equals (stores : Stores) (actual : Document) (operand : Json) : Bool :=
  match actual, operand with
  | .value .null, .null => true
  | actual, operand => order stores actual operand == some .eq

/-- Does a part of a record pass the test that an operator makes with an operand? -/
def passes (stores : Stores) (actual : Document) (operator : String) (operand : Json) : Bool :=
  match operator, operand with
  | "$eq", operand => equals stores actual operand
  | "$ne", operand => !equals stores actual operand
  | "$gt", operand => order stores actual operand == some .gt
  | "$gte", operand =>
    order stores actual operand == some .gt || order stores actual operand == some .eq
  | "$lt", operand => order stores actual operand == some .lt
  | "$lte", operand =>
    order stores actual operand == some .lt || order stores actual operand == some .eq
  | "$in", .list operands => operands.any (equals stores actual)
  | "$nin", .list operands => !operands.any (equals stores actual)
  | "$regex", .string regex =>
    match actual with
    | .value (.string text) => stores.finds regex.toList text.toList
    | _ => false
  | _, _ => false

/-! ### Filters -/

mutual

/-- Does a record match a filter? All clauses have to hold. -/
def accepts (stores : Stores) (document : Document) : Json → Bool
  | .object clauses => acceptsClauses stores document clauses
  | _ => false

def acceptsClauses (stores : Stores) (document : Document) : List (String × Json) → Bool
  | [] => true
  | (key, clause) :: rest =>
    acceptsClause stores document key clause && acceptsClauses stores document rest

/-- Does a clause hold? Lists stand at the logical operators, tests at the keys of parts. -/
def acceptsClause (stores : Stores) (document : Document) (key : String) : Json → Bool
  | .list filters =>
    if key = "$and" then acceptsAll stores document filters
    else if key = "$or" then acceptsAny stores document filters
    else false
  | .object tests =>
    if key = "$and" ∨ key = "$or" then false
    else tests.all fun (operator, operand) =>
      passes stores (document.look key) operator operand
  | _ => false

def acceptsAll (stores : Stores) (document : Document) : List Json → Bool
  | [] => true
  | filter :: rest => accepts stores document filter && acceptsAll stores document rest

def acceptsAny (stores : Stores) (document : Document) : List Json → Bool
  | [] => false
  | filter :: rest => accepts stores document filter || acceptsAny stores document rest

end

/-- A filter with a single test matches the records whose part at the key passes it. -/
theorem accepts_test (stores : Stores) (document : Document) {key : String}
    (notJoint : key ≠ "$and" ∧ key ≠ "$or") (operator : String) (operand : Json) :
    accepts stores document (Json.single key (Json.single operator operand)) =
      passes stores (document.look key) operator operand := by
  simp [Json.single, accepts, acceptsClauses, acceptsClause, notJoint]

theorem accepts_conjunction (stores : Stores) (document : Document) (filters : List Json) :
    accepts stores document (Json.single (joinKey .conjunction) (.list filters)) =
      acceptsAll stores document filters := by
  simp [Json.single, accepts, acceptsClauses, acceptsClause, joinKey]

theorem accepts_disjunction (stores : Stores) (document : Document) (filters : List Json) :
    accepts stores document (Json.single (joinKey .disjunction) (.list filters)) =
      acceptsAny stores document filters := by
  simp [Json.single, accepts, acceptsClauses, acceptsClause, joinKey]

/-! ### Written operands -/

theorem order_encode {stores : Stores} (faithful : stores.Faithful) {left right : Value}
    (filled : left ≠ .null) (written : encode right ≠ .null) :
    order stores (.value left) (encode right) = stores.order left right := by
  simp [order, filled, written, faithful.order_encode left right written]

theorem order_null (stores : Stores) (operand : Json) :
    order stores (.value .null) operand = none := by
  simp [order]

theorem equals_eq {stores : Stores} {actual : Document} {operand : Json}
    (filled : actual ≠ .value .null ∨ operand ≠ .null) :
    equals stores actual operand = (order stores actual operand == some .eq) := by
  unfold equals
  split
  · simp at filled
  · rfl

end FilterDocument

end RecordQuery
