import RecordQuery.Proofs.Agreement

/-!
# Negated comparisons

What is not equal is unequal, and what is not a member is outside, also where there is no value to
compare. In SQL the comparisons by themselves do not say so, since with null both are unknown, so
the negated ones stand beside a test for null. The operands are never null: a literal has a value,
and where none is given the predicate tests for null instead.
-/

namespace RecordQuery

open FilterDocument (passes accepts)
open Sql (Predicate Truth compareTruth amongTruth)

/-- The comparison that holds where another one does not. -/
def Comparison.negation? : Comparison → Option Comparison
  | .equal => some .notEqual
  | .notEqual => some .equal
  | .among => some .notAmong
  | .notAmong => some .among
  | _ => none

/-! ### Predicates -/

namespace Sql

/-- One predicate is true of the rows of which the other one is not, be it false or unknown of
them. -/
def Predicate.Complements (predicate opposite : Predicate) : Prop :=
  ∀ stores row, opposite.truth stores row = .true ↔ predicate.truth stores row ≠ .true

theorem Predicate.Complements.symm {predicate opposite : Predicate}
    (complements : predicate.Complements opposite) : opposite.Complements predicate := by
  intro stores row
  exact iff_not_comm.mp (complements stores row)

theorem isNull_complements (column : String) :
    (Predicate.isNull column).Complements (.isNotNull column) := by
  intro stores row
  simp [Predicate.truth]

/-- Where a column is null, both comparisons are unknown and the test for null decides. -/
theorem equal_complements (column : String) {value : Value} (given : value ≠ .null) :
    (Predicate.compare column .equal value).Complements
      (.any [.compare column .notEqual value, .isNull column]) := by
  intro stores row
  simp only [Predicate.truth, Predicate.truthOfAny, Truth.or_eq_true, Truth.ofBool_eq_true,
    beq_iff_eq, reduceCtorEq, or_false]
  by_cases empty : row column = .null
  · rw [empty, compareTruth_null, compareTruth_null]
    simp
  · rw [compareTruth_of_ne stores _ empty given, compareTruth_of_ne stores _ empty given]
    simp [CompareOp.holds, empty]

/-- Membership of null is unknown as well, unless the set is empty. -/
theorem among_complements (column : String) {values : List Value} (some_value : values ≠ [])
    (given : ∀ other ∈ values, other ≠ .null) :
    (Predicate.among column values).Complements
      (.any [.notAmong column values, .isNull column]) := by
  intro stores row
  simp only [Predicate.truth, Predicate.truthOfAny, Truth.or_eq_true, Truth.ofBool_eq_true,
    beq_iff_eq, reduceCtorEq, or_false]
  by_cases empty : row column = .null
  · rw [empty, amongTruth_null stores some_value]
    simp
  · rw [amongTruth_of_ne stores empty given]
    simp [empty]

theorem constant_complements : (Predicate.constant false).Complements (.constant true) := by
  intro stores row
  simp [Predicate.truth]

namespace Relational

variable {column : String} {comparison other : Comparison} {operand : Operand}
  {predicate : Predicate}

/-- A predicate for a comparison comes with its complement for the negated one. -/
theorem complements_of_compare? (negated : comparison.negation? = some other)
    (given : ∀ value ∈ operand.values, value ≠ .null)
    (planned : compare? column comparison operand = some predicate) :
    ∃ opposite, compare? column other operand = some opposite ∧
      predicate.Complements opposite := by
  -- Equality is with null or with one value, membership is in a set of them.
  match comparison, operand, negated, planned with
  | .equal, .null, rfl, rfl => exact ⟨_, rfl, isNull_complements column⟩
  | .notEqual, .null, rfl, rfl => exact ⟨_, rfl, (isNull_complements column).symm⟩
  | .equal, .single value, rfl, rfl =>
    have filled : value ≠ .null := given value List.mem_cons_self
    exact ⟨_, rfl, equal_complements column filled⟩
  | .notEqual, .single value, rfl, rfl =>
    have filled : value ≠ .null := given value List.mem_cons_self
    exact ⟨_, rfl, (equal_complements column filled).symm⟩
  | .among, .many [], rfl, rfl => exact ⟨_, rfl, constant_complements⟩
  | .notAmong, .many [], rfl, rfl => exact ⟨_, rfl, constant_complements.symm⟩
  | .among, .many (_ :: _), rfl, rfl =>
    exact ⟨_, rfl, among_complements column (List.cons_ne_nil _ _) given⟩
  | .notAmong, .many (_ :: _), rfl, rfl =>
    exact ⟨_, rfl, (among_complements column (List.cons_ne_nil _ _) given).symm⟩

end Relational

end Sql

/-! ### Filters -/

namespace FilterDocument

/-- Is it an operator with an operand of its form? -/
def isTest (operator : String) (operand : Json) : Bool :=
  match operator, operand with
  | "$eq", _ => true
  | "$ne", _ => true
  | "$gt", _ => true
  | "$gte", _ => true
  | "$lt", _ => true
  | "$lte", _ => true
  | "$in", .list _ => true
  | "$nin", .list _ => true
  | "$regex", .string _ => true
  | _, _ => false

mutual

/-- Is the document a filter? The rules decide on no other one. -/
def isFilter : Json → Bool
  | .object clauses => areClauses clauses
  | _ => false

def areClauses : List (String × Json) → Bool
  | [] => true
  | (key, clause) :: rest => isClause key clause && areClauses rest

/-- A list of filters stands at the logical operators, tests at every other key. -/
def isClause (key : String) : Json → Bool
  | .list filters => (key == "$and" || key == "$or") && areFilters filters
  | .object tests =>
    key != "$and" && key != "$or" && tests.all fun (operator, operand) => isTest operator operand
  | _ => false

def areFilters : List Json → Bool
  | [] => true
  | filter :: rest => isFilter filter && areFilters rest

end

/-- What the rules say of a record and a filter, nothing if the document is no filter. -/
def verdict (stores : Stores) (record : Document) (filter : Json) : Option Bool :=
  if isFilter filter then some (accepts stores record filter) else none

/-- A document with one test is a filter unless it stands at a logical operator. -/
theorem isFilter_single {key operator : String} {operand : Json}
    (test : isTest operator operand = true) :
    isFilter (Json.single key (Json.single operator operand)) = true ↔
      key ≠ "$and" ∧ key ≠ "$or" := by
  simp [isFilter, areClauses, isClause, Json.single, test]

theorem isFilter_or_joint {key operator : String} {operand : Json}
    (test : isTest operator operand = true) :
    isFilter (Json.single key (Json.single operator operand)) = true ∨
      ∃ connective test,
        Json.single key (Json.single operator operand) = Json.single (joinKey connective) test := by
  by_cases conjunction : key = "$and"
  · subst conjunction
    exact .inr ⟨.conjunction, _, rfl⟩
  · by_cases disjunction : key = "$or"
    · subst disjunction
      exact .inr ⟨.disjunction, _, rfl⟩
    · exact .inl ((isFilter_single test).mpr ⟨conjunction, disjunction⟩)

/-- One filter matches the records that the other one does not match. Documents at a logical
operator are no filters, one as little as the other. -/
def Complements (filter opposite : Json) : Prop :=
  ∀ stores record,
    verdict stores record opposite = (verdict stores record filter).map fun matched => !matched

/-- The tests are of the same operand and of opposite outcome. -/
structure Denies (operator opposite : String) (operand : Json) : Prop where
  test : isTest operator operand = true
  opposite_test : isTest opposite operand = true
  passes : ∀ stores actual,
    passes stores actual opposite operand = !FilterDocument.passes stores actual operator operand

theorem Denies.symm {operator opposite : String} {operand : Json}
    (denies : Denies operator opposite operand) : Denies opposite operator operand where
  test := denies.opposite_test
  opposite_test := denies.test
  passes stores actual := by rw [denies.passes, Bool.not_not]

theorem Denies.complements {operator opposite : String} {operand : Json}
    (denies : Denies operator opposite operand) (key : String) :
    Complements (Json.single key (Json.single operator operand))
      (Json.single key (Json.single opposite operand)) := by
  intro stores record
  unfold verdict
  by_cases apart : key ≠ "$and" ∧ key ≠ "$or"
  · rw [if_pos ((isFilter_single denies.test).mpr apart),
      if_pos ((isFilter_single denies.opposite_test).mpr apart), accepts_test stores record apart,
      accepts_test stores record apart, denies.passes, Option.map_some]
  · rw [if_neg (mt (isFilter_single denies.test).mp apart),
      if_neg (mt (isFilter_single denies.opposite_test).mp apart), Option.map_none]

theorem equal_denies (operand : Json) : Denies "$eq" "$ne" operand :=
  ⟨rfl, rfl, fun _ _ => rfl⟩

theorem among_denies (operands : List Json) : Denies "$in" "$nin" (.list operands) :=
  ⟨rfl, rfl, fun _ _ => rfl⟩

/-- A test for a comparison comes with the opposite one for the negated comparison. -/
theorem denies_of_test? {comparison other : Comparison} {operand : Operand} {test : Json}
    (negated : comparison.negation? = some other) (tested : test? comparison operand = some test) :
    ∃ operator opposite written, test = Json.single operator written ∧
      test? other operand = some (Json.single opposite written) ∧
      Denies operator opposite written := by
  match comparison, operand, negated, tested with
  | .equal, .null, rfl, rfl | .equal, .single _, rfl, rfl =>
    exact ⟨_, _, _, rfl, rfl, equal_denies _⟩
  | .notEqual, .null, rfl, rfl | .notEqual, .single _, rfl, rfl =>
    exact ⟨_, _, _, rfl, rfl, (equal_denies _).symm⟩
  | .among, .many _, rfl, rfl => exact ⟨_, _, _, rfl, rfl, among_denies _⟩
  | .notAmong, .many _, rfl, rfl => exact ⟨_, _, _, rfl, rfl, (among_denies _).symm⟩

end FilterDocument

/-! ### Planned comparisons -/

namespace Planner

variable {Emitted Order Fields : Type} {planner : Planner Emitted Order Fields} {entity : Entity}

/-- A comparison and the negated one are with the same operand. -/
theorem operand_negation {comparison other : Comparison}
    (negated : comparison.negation? = some other) (type : FieldType) (field : String)
    (value : Option Literal) (values : List Literal) :
    operand type field other value values = operand type field comparison value values := by
  cases comparison <;> cases negated <;> cases value <;> rfl

/-- A comparison is read as the negated one when the negated operator stands in it. -/
theorem Reads.negated {raw : RawComparison} {leaf : Leaf} (reads : planner.Reads entity raw leaf)
    {other : Comparison} (negated : leaf.comparison.negation? = some other) {spelling : String}
    (spelled : Comparison.ofSpelling? spelling = some other) :
    planner.Reads entity { raw with operator := some spelling }
      { leaf with comparison := other } where
  comparison := comparison_eq_ok.mpr spelled
  path := reads.path
  operand := (operand_negation negated _ _ _ _).trans reads.operand

/-- The operand of a comparison that was read has no nulls. -/
theorem Reads.ne_null {raw : RawComparison} {leaf : Leaf} (reads : planner.Reads entity raw leaf) :
    ∀ value ∈ leaf.operand.values, value ≠ .null := by
  intro value member null
  obtain ⟨literal, converted⟩ := (typed_of_operand reads.operand).values value member
  exact FieldType.encode_ne_null_of_coerce converted (null ▸ rfl)

/-- What is emitted for a comparison and for the negated one is related as soon as it is so for
leaves that differ in the comparison alone. -/
theorem planOnly_negation {comparison other : Comparison} {spelling negation : String}
    (negated : comparison.negation? = some other)
    (spelled : Comparison.ofSpelling? spelling = some comparison)
    (spelled' : Comparison.ofSpelling? negation = some other) {related : Emitted → Emitted → Prop}
    (emits : ∀ (entity : Entity) (raw : RawComparison) (leaf : Leaf) (emitted : Emitted),
      planner.Reads entity raw leaf → leaf.comparison.negation? = some other →
        planner.emitLeaf leaf = .ok emitted →
          ∃ opposite, planner.emitLeaf { leaf with comparison := other } = .ok opposite ∧
            related emitted opposite)
    {name field : String} {value : Option Literal} {values : List Literal} {emitted : Emitted}
    (planned : planner.planOnly name ⟨some field, some spelling, value, values, none⟩ =
      .ok emitted) :
    ∃ opposite,
      planner.planOnly name ⟨some field, some negation, value, values, none⟩ = .ok opposite ∧
      related emitted opposite := by
  simp only [planOnly, bind_eq_ok, entity_eq_ok] at planned ⊢
  let raw : RawComparison := ⟨field, some spelling, value, values⟩
  let denied : RawComparison := ⟨field, some negation, value, values⟩
  obtain ⟨entity, known, planned⟩ := planned
  obtain ⟨leaf, reads, emission⟩ := (planner.planCondition_field_eq_ok entity raw).mp planned
  cases (comparison_eq_ok.mp reads.comparison).symm.trans spelled
  obtain ⟨opposite, emission', relates⟩ := emits entity raw leaf emitted reads negated emission
  have planned' := (planner.planCondition_field_eq_ok entity denied).mpr
    ⟨_, reads.negated negated spelled', emission'⟩
  exact ⟨opposite, ⟨entity, known, planned'⟩, relates⟩

end Planner

section Leaves

variable {schema : Schema} {settings : Settings} {leaf : Leaf} {other : Comparison}

theorem complements_of_emitLeaf (negated : leaf.comparison.negation? = some other)
    (given : ∀ value ∈ leaf.operand.values, value ≠ .null) {predicate : Predicate}
    (planned : (Planner.forTables schema settings).emitLeaf leaf = .ok predicate) :
    ∃ opposite,
      (Planner.forTables schema settings).emitLeaf { leaf with comparison := other } =
        .ok opposite ∧
      predicate.Complements opposite := by
  obtain ⟨bare, compared⟩ := Planner.forTables_emitLeaf_eq_ok.mp planned
  obtain ⟨opposite, compared', complements⟩ :=
    Sql.Relational.complements_of_compare? negated given compared
  exact ⟨opposite, Planner.forTables_emitLeaf_eq_ok.mpr ⟨bare, compared'⟩, complements⟩

theorem filter_complements_of_emitLeaf (negated : leaf.comparison.negation? = some other)
    {filter : Json}
    (planned : (Planner.forDocuments schema settings).emitLeaf leaf = .ok filter) :
    ∃ opposite,
      (Planner.forDocuments schema settings).emitLeaf { leaf with comparison := other } =
        .ok opposite ∧
      FilterDocument.Complements filter opposite ∧
      (FilterDocument.isFilter filter = true ∨
        ∃ connective test, filter = Json.single (FilterDocument.joinKey connective) test) := by
  obtain ⟨test, tested, rfl⟩ := Planner.forDocuments_emitLeaf_eq_ok.mp planned
  obtain ⟨operator, opposite, written, rfl, tested', denies⟩ :=
    FilterDocument.denies_of_test? negated tested
  exact ⟨_, Planner.forDocuments_emitLeaf_eq_ok.mpr ⟨_, tested', rfl⟩, denies.complements _,
    FilterDocument.isFilter_or_joint denies.test⟩

end Leaves

/-! ### Main result -/

/-- A comparison and its negation are planned alike, and where the one is planned, the other is its
complement: of each row exactly one of the predicates is true, and each record matches exactly one
of the filters. The rules decide on the filters unless the path is written like a logical
operator, when neither of the documents is a filter. -/
theorem negations_complement {schema : Schema} {settings : Settings} {comparison other : Comparison}
    {spelling negation : String} (negated : comparison.negation? = some other)
    (spelled : Comparison.ofSpelling? spelling = some comparison)
    (spelled' : Comparison.ofSpelling? negation = some other) (name field : String)
    (value : Option Literal) (values : List Literal) :
    (∀ predicate,
      (Planner.forTables schema settings).planOnly name
        ⟨some field, some spelling, value, values, none⟩ = .ok predicate →
      ∃ opposite,
        (Planner.forTables schema settings).planOnly name
          ⟨some field, some negation, value, values, none⟩ = .ok opposite ∧
        ∀ stores row, opposite.truth stores row = .true ↔ predicate.truth stores row ≠ .true) ∧
    ∀ filter,
      (Planner.forDocuments schema settings).planOnly name
        ⟨some field, some spelling, value, values, none⟩ = .ok filter →
      ∃ opposite,
        (Planner.forDocuments schema settings).planOnly name
          ⟨some field, some negation, value, values, none⟩ = .ok opposite ∧
        (∀ stores record, FilterDocument.verdict stores record opposite =
          (FilterDocument.verdict stores record filter).map fun matched => !matched) ∧
        (FilterDocument.isFilter filter = true ∨
          ∃ connective test, filter = Json.single (FilterDocument.joinKey connective) test) := by
  constructor
  · intro predicate planned
    apply Planner.planOnly_negation negated spelled spelled' _ planned
    intro entity raw leaf predicate reads here emission
    exact complements_of_emitLeaf here reads.ne_null emission
  · intro filter planned
    apply Planner.planOnly_negation negated spelled spelled' _ planned
    intro entity raw leaf filter _ here emission
    exact filter_complements_of_emitLeaf here emission

namespace Sample

/-- Persons with one of two ages, or those with neither. -/
def ages (operator : String) : Condition :=
  .amongst "age" operator [.integer 17, .integer 52]

/-- The persons with one of the ages in a store of documents. -/
def agesFilter : Json :=
  .single "Age" (.single "$in" (.list [.integer 17, .integer 52]))

/-- A person of unknown age is none of those with one of the ages, so the person is one of those
with neither. -/
theorem unknown_age_outside :
    ∃ opposite filter,
      (Planner.forTables schema {}).planOnly "person" (ages "in") =
        .ok (.among "Age" [.int32 17, .int32 52]) ∧
      (Planner.forTables schema {}).planOnly "person" (ages "NIN") = .ok opposite ∧
      opposite.truth .plain row = .true ∧
      (Planner.forDocuments schema {}).planOnly "person" (ages "in") = .ok agesFilter ∧
      (Planner.forDocuments schema {}).planOnly "person" (ages "NIN") = .ok filter ∧
      FilterDocument.verdict .plain record filter = some true := by
  have negated : Comparison.negation? .among = some .notAmong := rfl
  have spelled : Comparison.ofSpelling? "in" = some .among := rfl
  have spelled' : Comparison.ofSpelling? "NIN" = some .notAmong := rfl
  obtain ⟨tables, documents⟩ := @negations_complement schema {} _ _ _ _ negated spelled spelled'
    "person" "age" none [.integer 17, .integer 52]
  obtain ⟨opposite, planned, complements⟩ := tables (.among "Age" [.int32 17, .int32 52]) rfl
  obtain ⟨filter, filtered, verdicts, _⟩ := documents agesFilter rfl
  refine ⟨opposite, filter, rfl, planned, ?_, rfl, filtered, ?_⟩
  · apply (complements .plain row).mpr
    decide
  · rw [verdicts .plain record]
    decide

end Sample

end RecordQuery
