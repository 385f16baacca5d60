import RecordQuery.Proofs.Layout
import RecordQuery.Proofs.Statements

/-!
# Rendering

The text of a predicate is read back as an expression with the same truth on every row, once its
marks are filled with the parameters. The marks are those of the parameters in their order, and
statements have the text and the parameters as their condition.
-/

namespace RecordQuery

namespace Sql

/-! ### Truth -/

namespace Dialect

/-- The pattern of a text finds the text in the same case. -/
theorem truth?_patternTest (dialect : Dialect) (stores : Stores) (row : Row)
    {parameters : List Value} {column : String} {kind : PatternKind} {wanted : String} {n : Nat}
    (given : filled? parameters n = some (.string (dialect.patternText kind wanted))) :
    (dialect.patternTest column n).truth? dialect stores row parameters =
      some (patternTruth kind wanted (row column)) := by
  have found : matchTruth (kind.wildcards wanted.toList) (row column) =
      patternTruth kind wanted (row column) := by
    cases row column <;> simp [matchTruth, patternTruth, PatternKind.accepts_wildcards]
  cases dialect <;>
    simp [patternTest, Test.truth?, likeKeepsCase, given, searchTruth?, patternText,
      PatternKind.ofLike?_wrap, PatternKind.ofGlob?_wrap, found]

end Dialect

namespace Predicate

variable {dialect : Dialect} {stores : Stores} {row : Row} {parameters : List Value}

/-- The parameters behind some others begin with these. -/
theorem filled?_of_prefix {given : Nat} {value : Value} {values : List Value}
    (held : value :: values <+: parameters.drop given) :
    filled? parameters (given + 1) = some value := by
  obtain ⟨more, same⟩ := held
  have first : (parameters.drop given)[0]? = some value := by rw [← same]; rfl
  rwa [List.getElem?_drop, Nat.add_zero] at first

/-- What is behind the first parameters begins with the others. -/
theorem prefix_of_append {given : Nat} {first others : List Value}
    (held : first ++ others <+: parameters.drop given) :
    first <+: parameters.drop given ∧ others <+: parameters.drop (given + first.length) := by
  refine ⟨(List.prefix_append first others).trans held, ?_⟩
  obtain ⟨more, same⟩ := held
  refine ⟨more, ?_⟩
  rw [← List.drop_drop, ← same, List.append_assoc, List.drop_left]

theorem mapM_filled? {given : Nat} {values : List Value}
    (held : values <+: parameters.drop given) :
    (List.range' (given + 1) values.length).mapM (filled? parameters) = some values := by
  induction values generalizing given with
  | nil => rfl
  | cons value values ih =>
    have first := filled?_of_prefix held
    have split : [value] ++ values <+: parameters.drop given := held
    have others := ih (prefix_of_append split).2
    rw [List.length_singleton] at others
    rw [List.length_cons, List.range'_succ, List.mapM_cons, first, Option.bind_eq_bind,
      Option.bind_some, others]
    rfl

theorem mapM_filled?_listed {given : Nat} {value : Value} {values : List Value}
    (held : value :: values <+: parameters.drop given) :
    ((given + 1) :: List.range' (given + 2) values.length).mapM (filled? parameters) =
      some (value :: values) := by
  have all := mapM_filled? held
  rwa [List.length_cons, List.range'_succ] at all

theorem truth?_constant (truth : Bool) :
    (Test.constant truth).truth? dialect stores row parameters = some (.ofBool truth) := by
  cases truth <;> rfl

/-- The truth of predicates that are joined by a connective. -/
def truthOfJoined (stores : Stores) (row : Row) : Connective → List Predicate → Truth
  | .conjunction => truthOfAll stores row
  | .disjunction => truthOfAny stores row

/-- Truths may be joined from left to right. -/
theorem foldl_join (connective : Connective) (truth : Truth) (parts : List Predicate) :
    (parts.map (Predicate.truth stores row)).foldl (Truth.join connective) truth =
      Truth.join connective truth (truthOfJoined stores row connective parts) := by
  induction parts generalizing truth with
  | nil =>
    cases connective with
    | conjunction => exact truth.and_true.symm
    | disjunction => exact truth.or_false.symm
  | cons part rest ih =>
    rw [List.map_cons, List.foldl_cons, ih]
    cases connective with
    | conjunction => exact Truth.join_assoc .conjunction truth (part.truth stores row) _
    | disjunction => exact Truth.join_assoc .disjunction truth (part.truth stores row) _

/-- A group has the truth of its joined parts when each of them has its truth. -/
theorem truth?_group {connective : Connective} {first : Layout} {others : List Layout}
    {part : Predicate} {parts : List Predicate}
    (each : List.Forall₂ (fun layout truth =>
        layout.expression.truth? dialect stores row parameters = some truth)
      (first :: others) ((part :: parts).map (Predicate.truth stores row))) :
    (Layout.group connective first others).expression.truth? dialect stores row parameters =
      some (truthOfJoined stores row connective (part :: parts)) := by
  obtain ⟨known, behind⟩ := List.forall₂_cons.mp each
  rw [Layout.expression, Layout.truth?_expressionBehind _ _ _ _ _ behind known, foldl_join]
  cases connective <;> rfl

mutual

/-- The expression of a predicate has its truth where the parameters of the predicate stand behind
those given before. -/
theorem truth?_layout (dialect : Dialect) (stores : Stores) (row : Row) (parameters : List Value) :
    ∀ (predicate : Predicate) (given : Nat), predicate.ListsFilled →
      (write dialect predicate given).parameters <+: parameters.drop given →
        (layout dialect given predicate).expression.truth? dialect stores row parameters =
          some (predicate.truth stores row)
  | .compare column op value, given, _, held => by
    have first := filled?_of_prefix held
    simp only [layout, Layout.expression, Expression.truth?, Test.truth?, first, Option.map_some,
      truth]
  | .isNull column, given, _, _ => rfl
  | .isNotNull column, given, _, _ => rfl
  | .among column [], given, filled, _ => absurd rfl filled
  | .among column (value :: values), given, _, held => by
    have list : value :: values <+: parameters.drop given :=
      parameters_writeList dialect given (value :: values) ▸ held
    have all := mapM_filled?_listed list
    simp only [layout, Layout.expression, Expression.truth?, Test.truth?, List.tail_cons, all,
      Option.map_some, truth]
  | .notAmong column [], given, filled, _ => absurd rfl filled
  | .notAmong column (value :: values), given, _, held => by
    have list : value :: values <+: parameters.drop given :=
      parameters_writeList dialect given (value :: values) ▸ held
    have all := mapM_filled?_listed list
    simp only [layout, Layout.expression, Expression.truth?, Test.truth?, List.tail_cons, all,
      Option.map_some, truth]
  | .pattern column kind wanted, given, _, held => by
    have first : filled? parameters (given + 1) =
      some (.string (dialect.patternText kind wanted)) := filled?_of_prefix held
    exact dialect.truth?_patternTest stores row first
  | .all [], given, _, _ => truth?_constant true
  | .any [], given, _, _ => truth?_constant false
  | .constant truth, given, _, _ => truth?_constant truth
  | .all (first :: others), given, filled, held => by
    have inside : (Writer.separated " AND " (writeParts dialect (first :: others)) given).parameters
        <+: parameters.drop given := by
      rw [← parameters_group]
      exact held
    have each := truths_layouts dialect stores row parameters " AND " (first :: others) given filled
      inside
    exact truth?_group each
  | .any (first :: others), given, filled, held => by
    have inside : (Writer.separated " OR " (writeParts dialect (first :: others)) given).parameters
        <+: parameters.drop given := by
      rw [← parameters_group]
      exact held
    have each := truths_layouts dialect stores row parameters " OR " (first :: others) given filled
      inside
    exact truth?_group each

theorem truths_layouts (dialect : Dialect) (stores : Stores) (row : Row) (parameters : List Value)
    (separator : String) :
    ∀ (parts : List Predicate) (given : Nat), AllFilled parts →
      (Writer.separated separator (writeParts dialect parts) given).parameters <+:
          parameters.drop given →
        List.Forall₂ (fun part truth =>
            part.expression.truth? dialect stores row parameters = some truth)
          (layouts dialect given parts) (parts.map (Predicate.truth stores row))
  | [], given, _, _ => .nil
  | part :: rest, given, filled, held => by
    rw [writeParts, Writer.parameters_separated_cons] at held
    obtain ⟨here, behind⟩ := prefix_of_append held
    exact .cons (truth?_layout dialect stores row parameters part given filled.1 here)
      (truths_layouts dialect stores row parameters separator rest _ filled.2 behind)

end

end Predicate

/-! ### Main result -/

/-- In every dialect the text of a predicate is read back, and once its marks are filled with the
parameters it has the truth of the predicate on every row. -/
theorem rendered_means_predicate (dialect : Dialect) (predicate : Predicate)
    (filled : predicate.ListsFilled) :
    (∃ expression, Expression.ofText? dialect (predicate.render dialect).text = some expression ∧
      ∀ stores row, expression.truth? dialect stores row (predicate.render dialect).parameters =
        some (predicate.truth stores row)) ∧
    (∃ tokens, tokens? dialect (predicate.render dialect).text = some tokens ∧
      Token.parameters tokens =
        List.range' 1 (predicate.render dialect).parameters.length) ∧
    ∀ table, predicate.Embedded dialect table := by
  have read := predicate.readAs_write dialect 0 filled
  have tokens : tokens? dialect (predicate.render dialect).text =
      some ((predicate.layout dialect 0).items.flatMap Item.tokens) := by
    have whole := read.scan [] delimited_nil
    rw [List.append_nil] at whole
    exact whole.trans (congrArg some (List.append_nil _))
  have expression : Expression.ofText? dialect (predicate.render dialect).text =
      some (predicate.layout dialect 0).expression := by
    simp only [Expression.ofText?, tokens, Item.items?_tokens, Layout.read?_expression,
      Option.bind_eq_bind, Option.bind_some]
  refine ⟨⟨_, expression, fun stores row => ?_⟩, ⟨_, tokens, read.marks⟩,
    predicate.embedded dialect⟩
  exact predicate.truth?_layout dialect stores row _ 0 filled (List.prefix_refl _)

end Sql

namespace Sample

open Sql (Predicate Expression)

/-- A predicate on columns whose names look like quotes and marks. -/
def hostile : Predicate :=
  .any
    [.all [.compare "a\"b" .greater (.int32 17), .among "who? " [.string "x", .string "?"]],
     .pattern "$1" .anywhere "50%", .all []]

theorem hostile_means_itself :
    (hostile.render .postgres).sql =
        "((\"a\"\"b\" > $1 AND \"who? \" IN ($2, $3)) OR \"$1\" LIKE $4 ESCAPE '\\' OR 1 = 1)" ∧
      hostile.ListsFilled ∧
      ∃ expression, Expression.ofText? .postgres (hostile.render .postgres).text =
          some expression ∧
        ∀ stores row, expression.truth? .postgres stores row (hostile.render .postgres).parameters =
          some (hostile.truth stores row) := by
  have filled : hostile.ListsFilled := by
    simp [hostile, Predicate.ListsFilled, Predicate.AllFilled]
  exact ⟨by decide, filled, (Sql.rendered_means_predicate .postgres hostile filled).1⟩

end Sample

end RecordQuery
