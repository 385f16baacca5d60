import RecordQuery.Proofs.Tokens
import RecordQuery.Proofs.Wildcards

/-!
# Expressions

How the tokens of a condition are read as an expression over columns and parameters, and what is
the truth of an expression once its parameters have values. Tests are read first. What joins them is
read with one level for each parenthesis that is open; conjunction binds tighter than disjunction.
-/

namespace RecordQuery.Sql

/-- A condition without parts. Parameters stand in it by number. -/
inductive Test where
  | compare (column : String) (op : CompareOp) (parameter : Nat)
  | isNull (column : String)
  | isNotNull (column : String)
  | among (column : String) (first : Nat) (others : List Nat)
  | notAmong (column : String) (first : Nat) (others : List Nat)
  -- A pattern may be taken as a string of bytes.
  | like (column : String) (parameter : Nat) (binary : Bool) (escape : Char)
  | glob (column : String) (parameter : Nat)
  | numbers (left : Nat) (op : CompareOp) (right : Nat)
  deriving DecidableEq

/-- A part of a condition. -/
inductive Item where
  | test (single : Test)
  | opening
  | closing
  | joint (connective : Connective)
  deriving DecidableEq

/-! ### Tests among tokens -/

/-- A list of parameters that is not yet closed. -/
structure Listing where
  column : String
  negated : Bool
  first : Nat
  others : List Nat := []

def Listing.test (listing : Listing) : Test :=
  if listing.negated then .notAmong listing.column listing.first listing.others
  else .among listing.column listing.first listing.others

/-- The parts of a condition. -/
def items? : Option Listing → List Token → Option (List Item)
  | none, [] => some []
  | none, .opening :: rest => (items? none rest).map (.opening :: ·)
  | none, .closing :: rest => (items? none rest).map (.closing :: ·)
  | none, .keyword .and :: rest => (items? none rest).map (.joint .conjunction :: ·)
  | none, .keyword .or :: rest => (items? none rest).map (.joint .disjunction :: ·)
  | none, .number left :: .operator op :: .number right :: rest =>
    (items? none rest).map (.test (.numbers left op right) :: ·)
  | none, .identifier column :: .operator op :: .parameter n :: rest =>
    (items? none rest).map (.test (.compare column op n) :: ·)
  | none, .identifier column :: .keyword .is :: .keyword .null :: rest =>
    (items? none rest).map (.test (.isNull column) :: ·)
  | none, .identifier column :: .keyword .is :: .keyword .not :: .keyword .null :: rest =>
    (items? none rest).map (.test (.isNotNull column) :: ·)
  | none, .identifier column :: .keyword .among :: .opening :: .parameter n :: rest =>
    items? (some { column, negated := false, first := n }) rest
  | none, .identifier column :: .keyword .not :: .keyword .among :: .opening :: .parameter n ::
      rest =>
    items? (some { column, negated := true, first := n }) rest
  | none, .identifier column :: .keyword .like :: .parameter n :: .keyword .escape ::
      .text [escape] :: rest =>
    (items? none rest).map (.test (.like column n false escape) :: ·)
  | none, .identifier column :: .keyword .like :: .keyword .cast :: .opening :: .parameter n ::
      .keyword .type :: .keyword .binary :: .closing :: .keyword .escape :: .text [escape] ::
      rest =>
    (items? none rest).map (.test (.like column n true escape) :: ·)
  | none, .identifier column :: .keyword .glob :: .parameter n :: rest =>
    (items? none rest).map (.test (.glob column n) :: ·)
  | some listing, .comma :: .parameter n :: rest =>
    items? (some { listing with others := listing.others ++ [n] }) rest
  | some listing, .closing :: rest => (items? none rest).map (.test listing.test :: ·)
  | _, _ => none

namespace Test

/-- A list of parameters behind its parenthesis. -/
def listed (first : Nat) (others : List Nat) : List Token :=
  .parameter first :: (others.flatMap (fun n => [.comma, .parameter n]) ++ [.closing])

/-- The tokens that are read as the test. -/
def tokens : Test → List Token
  | .compare column op n => [.identifier column, .operator op, .parameter n]
  | .isNull column => [.identifier column, .keyword .is, .keyword .null]
  | .isNotNull column => [.identifier column, .keyword .is, .keyword .not, .keyword .null]
  | .among column first others =>
    .identifier column :: .keyword .among :: .opening :: listed first others
  | .notAmong column first others =>
    .identifier column :: .keyword .not :: .keyword .among :: .opening :: listed first others
  | .like column n false escape =>
    [.identifier column, .keyword .like, .parameter n, .keyword .escape, .text [escape]]
  | .like column n true escape =>
    [.identifier column, .keyword .like, .keyword .cast, .opening, .parameter n, .keyword .type,
      .keyword .binary, .closing, .keyword .escape, .text [escape]]
  | .glob column n => [.identifier column, .keyword .glob, .parameter n]
  | .numbers left op right => [.number left, .operator op, .number right]

theorem items?_listed (listing : Listing) (others : List Nat) (rest : List Token) :
    items? (some listing) (others.flatMap (fun n => [.comma, .parameter n]) ++ .closing :: rest) =
      (items? none rest).map
        (.test { listing with others := listing.others ++ others : Listing }.test :: ·) := by
  induction others generalizing listing with
  | nil =>
    rw [List.append_nil]
    rfl
  | cons n others ih =>
    have step := ih { listing with others := listing.others ++ [n] }
    rw [List.append_assoc] at step
    exact step

theorem items?_tokens (test : Test) (rest : List Token) :
    items? none (test.tokens ++ rest) = (items? none rest).map (.test test :: ·) := by
  cases test with
  | compare | isNull | isNotNull | glob | numbers => rfl
  | like column n binary escape => cases binary <;> rfl
  | among column first others =>
    have list := items?_listed ⟨column, false, first, []⟩ others rest
    simp only [tokens, listed, List.cons_append, List.append_assoc, List.nil_append]
    exact list
  | notAmong column first others =>
    have list := items?_listed ⟨column, true, first, []⟩ others rest
    simp only [tokens, listed, List.cons_append, List.append_assoc, List.nil_append]
    exact list

end Test

namespace Item

def tokens : Item → List Token
  | .test single => single.tokens
  | .opening => [.opening]
  | .closing => [.closing]
  | .joint connective => [.keyword (.joint connective)]

theorem items?_tokens (items : List Item) : items? none (items.flatMap tokens) = some items := by
  induction items with
  | nil => rfl
  | cons item rest ih =>
    rw [List.flatMap_cons]
    cases item with
    | test single => rw [tokens, Test.items?_tokens, ih, Option.map_some]
    | opening | closing => simp only [tokens, List.singleton_append, items?, ih, Option.map_some]
    | joint connective =>
      cases connective <;>
        simp only [tokens, Keyword.joint, List.singleton_append, items?, ih, Option.map_some]

end Item

/-! ### Levels of parentheses -/

inductive Expression where
  | test (single : Test)
  | joined (connective : Connective) (left right : Expression)
  deriving DecidableEq

namespace Expression

/-- The expression joined to what stands before it, if anything does. -/
def behind (connective : Connective) : Option Expression → Expression → Expression
  | none, expression => expression
  | some before, expression => .joined connective before expression

/-- What is read between two parentheses, but for the last test or group. -/
structure Level where
  -- What stands before the last disjunction.
  disjuncts : Option Expression := none
  -- What stands behind it and before the last conjunction.
  conjuncts : Option Expression := none

namespace Level

/-- The expression between the parentheses, the last part of it included. -/
def finish (level : Level) (last : Expression) : Expression :=
  behind .disjunction level.disjuncts (behind .conjunction level.conjuncts last)

/-- The level behind one more connective. -/
def join (level : Level) (last : Expression) : Connective → Level
  | .conjunction => { level with conjuncts := behind .conjunction level.conjuncts last }
  | .disjunction => { disjuncts := level.finish last }

/-- A level on which only one connective was read. -/
def only (before : Option Expression) : Connective → Level
  | .conjunction => { conjuncts := before }
  | .disjunction => { disjuncts := before }

theorem finish_only (before : Option Expression) (connective : Connective) (last : Expression) :
    (only before connective).finish last = behind connective before last := by
  cases connective <;> rfl

theorem join_only (before : Option Expression) (connective : Connective) (last : Expression) :
    (only before connective).join last connective =
      only (behind connective before last) connective := by
  cases connective <;> rfl

end Level

/-- The expression that is read behind an open level, its last test or group if it has one, and the
levels outside of it. -/
def read? : List Level → Level → Option Expression → List Item → Option Expression
  | [], level, some last, [] => some (level.finish last)
  | outer, level, none, .test single :: rest => read? outer level (some (.test single)) rest
  | outer, level, none, .opening :: rest => read? (level :: outer) {} none rest
  | outer, level, some last, .joint connective :: rest =>
    read? outer (level.join last connective) none rest
  | outside :: outer, level, some last, .closing :: rest =>
    read? outer outside (some (level.finish last)) rest
  | _, _, _, _ => none

/-- The expression that a text is read as. -/
def ofText? (dialect : Dialect) (text : List Char) : Option Expression := do
  let tokens ← tokens? dialect text
  let items ← items? none tokens
  read? [] {} none items

end Expression

/-- Conjunction binds tighter than disjunction. -/
example :
    Expression.ofText? .postgres "\"a\" = $1 OR \"b\" = $2 AND \"c\" = $3".toList =
      some (.joined .disjunction (.test (.compare "a" .equal 1))
        (.joined .conjunction (.test (.compare "b" .equal 2))
          (.test (.compare "c" .equal 3)))) := by
  decide

/-! ### Groups -/

/-- A condition with a parenthesis around each group. -/
inductive Layout where
  | test (single : Test)
  | group (connective : Connective) (first : Layout) (others : List Layout)

namespace Layout

mutual

def items : Layout → List Item
  | .test single => [.test single]
  | .group connective first others =>
    .opening :: (first.items ++ (itemsBehind connective others ++ [.closing]))

def itemsBehind (connective : Connective) : List Layout → List Item
  | [] => []
  | part :: rest => .joint connective :: (part.items ++ itemsBehind connective rest)

end

mutual

/-- The expression of a condition. The parts of a group are joined from left to right. -/
def expression : Layout → Expression
  | .test single => .test single
  | .group connective first others => expressionBehind connective first.expression others

def expressionBehind (connective : Connective) (before : Expression) : List Layout → Expression
  | [] => before
  | part :: rest => expressionBehind connective (.joined connective before part.expression) rest

end

open Expression (Level behind read?)

-- A group is read on a level of its own, on which its one connective is the only one. The level is
-- stated with what was read before, since that is what the next part is joined to.

mutual

theorem read?_items : ∀ (layout : Layout) (outer : List Level) (level : Level) (rest : List Item),
    read? outer level none (layout.items ++ rest) =
      read? outer level (some layout.expression) rest
  | .test single, outer, level, rest => by cases outer <;> rfl
  | .group connective first others, outer, level, rest => by
    have start := read?_items first (level :: outer) {}
      (itemsBehind connective others ++ .closing :: rest)
    have empty : ({} : Level) = .only none connective := by cases connective <;> rfl
    rw [empty] at start
    rw [items, List.cons_append, read?]
    simp only [List.append_assoc, List.singleton_append]
    rw [empty, start]
    exact read?_itemsBehind connective others outer level none first.expression rest

theorem read?_itemsBehind (connective : Connective) :
    ∀ (parts : List Layout) (outer : List Level) (level : Level) (before : Option Expression)
      (last : Expression) (rest : List Item),
      read? (level :: outer) (.only before connective) (some last)
          (itemsBehind connective parts ++ .closing :: rest) =
        read? outer level
          (some (expressionBehind connective (behind connective before last) parts)) rest
  | [], outer, level, before, last, rest => by
    rw [itemsBehind, List.nil_append, read?, Level.finish_only, expressionBehind]
  | part :: parts, outer, level, before, last, rest => by
    have start := read?_items part (level :: outer)
      (.only (behind connective before last) connective)
      (itemsBehind connective parts ++ .closing :: rest)
    rw [itemsBehind, List.cons_append, read?, Level.join_only, List.append_assoc, start]
    exact read?_itemsBehind connective parts outer level _ part.expression rest

end

theorem read?_expression (layout : Layout) :
    read? [] {} none layout.items = some layout.expression := by
  have whole := read?_items layout [] {} []
  rw [List.append_nil] at whole
  rw [whole]
  rfl

end Layout

/-! ### Truth -/

/-- The value of the parameter with a number. -/
def filled? (parameters : List Value) : Nat → Option Value
  | 0 => none
  | n + 1 => parameters[n]?

/-- Does `LIKE` tell capital letters from small ones? -/
def Dialect.likeKeepsCase : Dialect → (binary : Bool) → Bool
  | .postgres, binary => !binary
  | .sqlite, _ => false
  | .mysql, binary => binary

/-- A pattern is compared with a value. Columns that are searched hold text or null. -/
def matchTruth (wildcards : List Wildcard) : Value → Truth
  | .null => .unknown
  | .string text => .ofBool (Wildcard.accepts wildcards text.toList)
  | _ => .false

/-- A pattern in a parameter is compared with a value. -/
def searchTruth? (reading : List Char → Option (List Wildcard)) (value : Value) :
    Value → Option Truth
  | .string pattern => (reading pattern.toList).map (matchTruth · value)
  | _ => none

namespace Truth

def join : Connective → Truth → Truth → Truth
  | .conjunction => .and
  | .disjunction => .or

theorem join_assoc (connective : Connective) (first second third : Truth) :
    join connective (join connective first second) third =
      join connective first (join connective second third) := by
  cases connective <;> cases first <;> cases second <;> cases third <;> rfl

@[simp] theorem and_true (truth : Truth) : truth.and .true = truth := by cases truth <;> rfl

@[simp] theorem or_false (truth : Truth) : truth.or .false = truth := by cases truth <;> rfl

end Truth

section Evaluation

variable (dialect : Dialect) (stores : Stores) (row : Row) (parameters : List Value)

/-- The truth of a test with its parameters filled in, if there are values for them and the dialect
has the test. -/
def Test.truth? : Test → Option Truth
  | .compare column op n => (filled? parameters n).map (compareTruth stores op (row column))
  | .isNull column => some (.ofBool (row column == .null))
  | .isNotNull column => some (.ofBool (row column != .null))
  | .among column first others =>
    ((first :: others).mapM (filled? parameters)).map (amongTruth stores (row column))
  | .notAmong column first others =>
    ((first :: others).mapM (filled? parameters)).map fun values =>
      (amongTruth stores (row column) values).not
  | .like column n binary escape =>
    if dialect.likeKeepsCase binary then
      (filled? parameters n).bind (searchTruth? (Wildcard.ofLike? escape) (row column))
    else none
  | .glob column n =>
    if dialect = .sqlite then
      (filled? parameters n).bind (searchTruth? Wildcard.ofGlob? (row column))
    else none
  | .numbers left op right => some (.ofBool (op.holds (some (Ord.compare left right))))

/-- The truth of an expression with its parameters filled in. -/
def Expression.truth? : Expression → Option Truth
  | .test single => single.truth? dialect stores row parameters
  | .joined connective left right => do
    let first ← left.truth?
    let second ← right.truth?
    pure (Truth.join connective first second)

/-- The truths of a group are joined from left to right. -/
theorem Layout.truth?_expressionBehind (connective : Connective) {parts : List Layout}
    {truths : List Truth}
    (each : List.Forall₂ (fun part truth =>
      part.expression.truth? dialect stores row parameters = some truth) parts truths)
    {before : Expression} {truth : Truth}
    (known : before.truth? dialect stores row parameters = some truth) :
    (expressionBehind connective before parts).truth? dialect stores row parameters =
      some (truths.foldl (Truth.join connective) truth) := by
  induction each generalizing before truth with
  | nil => exact known
  | @cons part other parts truths first _ ih =>
    have joined : (Expression.joined connective before part.expression).truth? dialect stores row
        parameters = some (Truth.join connective truth other) := by
      rw [Expression.truth?, known, first]
      rfl
    exact ih joined

end Evaluation

end RecordQuery.Sql
