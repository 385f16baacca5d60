import RecordQuery.Proofs.Stores
import RecordQuery.Sql.Predicate

/-!
# Truth of predicates

A predicate over the columns of a row is true, false or unknown. Comparing with null is unknown, and
only the tests for null are never so.
-/

namespace RecordQuery.Sql

/-- The truth values of SQL. -/
inductive Truth where
  | false
  | unknown
  | true
  deriving DecidableEq, Repr

namespace Truth

/-- The truth value of a decided question. -/
def ofBool (decided : Bool) : Truth := if decided then .true else .false

/-- Negation, which leaves the unknown unknown. -/
def not : Truth → Truth
  | .false => .true
  | .unknown => .unknown
  | .true => .false

/-- Conjunction, false if a part is false. -/
def and : Truth → Truth → Truth
  | .false, _ => .false
  | _, .false => .false
  | .true, .true => .true
  | _, _ => .unknown

/-- Disjunction, true if a part is true. -/
def or : Truth → Truth → Truth
  | .true, _ => .true
  | _, .true => .true
  | .false, .false => .false
  | _, _ => .unknown

@[simp] theorem ofBool_eq_true {decided : Bool} : ofBool decided = .true ↔ decided = Bool.true := by
  cases decided <;> simp [ofBool]

@[simp] theorem not_ofBool (decided : Bool) : (ofBool decided).not = ofBool !decided := by
  cases decided <;> rfl

@[simp] theorem or_ofBool (left right : Bool) :
    (ofBool left).or (ofBool right) = ofBool (left || right) := by
  cases left <;> cases right <;> rfl

@[simp] theorem and_eq_true {left right : Truth} :
    left.and right = .true ↔ left = .true ∧ right = .true := by
  cases left <;> cases right <;> simp [and]

@[simp] theorem or_eq_true {left right : Truth} :
    left.or right = .true ↔ left = .true ∨ right = .true := by
  cases left <;> cases right <;> simp [or]

end Truth

/-- Does the operator hold of values in this order? Values without an order are not equal. -/
def CompareOp.holds : CompareOp → Option Ordering → Bool
  | .equal, order => order == some .eq
  | .notEqual, order => order != some .eq
  | .greater, order => order == some .gt
  | .greaterOrEqual, order => order == some .gt || order == some .eq
  | .less, order => order == some .lt
  | .lessOrEqual, order => order == some .lt || order == some .eq

/-- Does the text stand in the other one where it has to? -/
def PatternKind.holds : PatternKind → (wanted text : List Char) → Bool
  | .anywhere, wanted, text => decide (wanted <:+: text)
  | .atStart, wanted, text => wanted.isPrefixOf text
  | .atEnd, wanted, text => wanted.isSuffixOf text

/-- The values of a row by column. -/
abbrev Row := String → Value

/-! ### Single tests -/

/-- A comparison of two values. -/
def compareTruth (stores : Stores) (op : CompareOp) (left right : Value) : Truth :=
  if left = .null ∨ right = .null then .unknown else .ofBool (op.holds (stores.order left right))

/-- Membership is equality to the first value, or to the second one, and so on. -/
def amongTruth (stores : Stores) (value : Value) : List Value → Truth
  | [] => .false
  | first :: rest => (compareTruth stores .equal value first).or (amongTruth stores value rest)

/-- The search for a text in a value. Columns that are searched hold text or null. -/
def patternTruth (kind : PatternKind) (wanted : String) : Value → Truth
  | .null => .unknown
  | .string text => .ofBool (kind.holds wanted.toList text.toList)
  | _ => .false

theorem compareTruth_null (stores : Stores) (op : CompareOp) (right : Value) :
    compareTruth stores op .null right = .unknown := by
  simp [compareTruth]

theorem compareTruth_of_ne (stores : Stores) (op : CompareOp) {left right : Value}
    (leftFilled : left ≠ .null) (rightFilled : right ≠ .null) :
    compareTruth stores op left right = .ofBool (op.holds (stores.order left right)) := by
  simp [compareTruth, leftFilled, rightFilled]

theorem amongTruth_null (stores : Stores) {values : List Value} (some_value : values ≠ []) :
    amongTruth stores .null values = .unknown := by
  induction values with
  | nil => exact absurd rfl some_value
  | cons first rest ih =>
    rw [amongTruth, compareTruth_null]
    -- Behind the last value membership is false, which leaves the unknown as it is.
    cases rest with
    | nil => rfl
    | cons second rest => rw [ih (List.cons_ne_nil _ _)]; rfl

theorem amongTruth_of_ne (stores : Stores) {value : Value} {values : List Value}
    (filled : value ≠ .null) (all_filled : ∀ other ∈ values, other ≠ .null) :
    amongTruth stores value values =
      .ofBool (values.any fun other => stores.order value other == some .eq) := by
  induction values with
  | nil => rfl
  | cons first rest ih =>
    have first_filled : first ≠ .null := all_filled first List.mem_cons_self
    have rest_filled : ∀ other ∈ rest, other ≠ .null := fun other member =>
      all_filled other (List.mem_cons_of_mem _ member)
    rw [amongTruth, compareTruth_of_ne stores .equal filled first_filled, ih rest_filled,
      Truth.or_ofBool, List.any_cons]
    rfl

/-! ### Predicates -/

namespace Predicate

mutual

/-- The truth of a predicate on a row. -/
def truth (stores : Stores) (row : Row) : Predicate → Truth
  | .compare column op value => compareTruth stores op (row column) value
  | .isNull column => .ofBool (row column == .null)
  | .isNotNull column => .ofBool (row column != .null)
  | .among column values => amongTruth stores (row column) values
  | .notAmong column values => (amongTruth stores (row column) values).not
  | .pattern column kind wanted => patternTruth kind wanted (row column)
  | .all parts => truthOfAll stores row parts
  | .any parts => truthOfAny stores row parts
  | .constant truth => .ofBool truth

/-- The truth of a conjunction. -/
def truthOfAll (stores : Stores) (row : Row) : List Predicate → Truth
  | [] => .true
  | part :: rest => (part.truth stores row).and (truthOfAll stores row rest)

/-- The truth of a disjunction. -/
def truthOfAny (stores : Stores) (row : Row) : List Predicate → Truth
  | [] => .false
  | part :: rest => (part.truth stores row).or (truthOfAny stores row rest)

end

end Predicate

end RecordQuery.Sql
