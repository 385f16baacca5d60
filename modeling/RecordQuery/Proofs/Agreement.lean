import RecordQuery.Proofs.Declared
import RecordQuery.Proofs.FlatNames
import RecordQuery.Proofs.Matching
import RecordQuery.Proofs.Operands
import RecordQuery.Proofs.Tree
import RecordQuery.Proofs.Truth

/-!
# Agreement of the backends

A table and a store of documents that hold the same record select it by the same conditions. The
predicate that is planned for the one is true of the record exactly when the filter that is planned
for the other matches it.
-/

namespace RecordQuery

open FilterDocument (encode escape key passes accepts)
open Sql (Row Predicate)

/-! ### Single comparisons -/

section Comparisons

variable {stores : Stores} (row : Row) (column : String) {comparison : Comparison}

/-- The test and the predicate of a comparison say the same of the value in the column. -/
def SameOutcome (stores : Stores) (row : Row) (column : String) (predicate : Predicate)
    (test : Json) : Prop :=
  ∃ operator operand, test = Json.single operator operand ∧
    (predicate.truth stores row = .true ↔
      passes stores (.value (row column)) operator operand = true)

theorem null_agrees {predicate : Predicate} {test : Json}
    (planned : Sql.Relational.compare? column comparison .null = some predicate)
    (tested : FilterDocument.test? comparison .null = some test) :
    SameOutcome stores row column predicate test := by
  cases comparison <;> cases planned <;> cases tested
  case equal =>
    refine ⟨"$eq", .null, rfl, ?_⟩
    by_cases empty : row column = .null
    · simp [Predicate.truth, passes, FilterDocument.equals, empty]
    · simp [Predicate.truth, passes, FilterDocument.equals, FilterDocument.order, empty]
  case notEqual =>
    refine ⟨"$ne", .null, rfl, ?_⟩
    by_cases empty : row column = .null
    · simp [Predicate.truth, passes, FilterDocument.equals, empty]
    · simp [Predicate.truth, passes, FilterDocument.equals, FilterDocument.order, empty]

/-- An operator that needs an order holds of the same values in both stores. -/
theorem compare_agrees (faithful : stores.Faithful) {value : Value}
    (written : encode value ≠ .null) (held : Value) (op : Sql.CompareOp)
    (needsOrder : op.holds none = false) :
    Sql.compareTruth stores op held value = .true ↔
      op.holds (FilterDocument.order stores (.value held) (encode value)) = true := by
  have given : value ≠ .null := fun same => written (same ▸ rfl)
  by_cases empty : held = .null
  · rw [empty, Sql.compareTruth_null, FilterDocument.order_null, needsOrder]
    decide
  · rw [Sql.compareTruth_of_ne stores op empty given, Sql.Truth.ofBool_eq_true,
      FilterDocument.order_encode faithful empty written]

/-- Null is unequal to every value, so `<>` stands beside a test for null. -/
theorem unequal_agrees (faithful : stores.Faithful) {value : Value}
    (written : encode value ≠ .null) (held : Value) :
    Sql.compareTruth stores .notEqual held value = .true ∨ held = .null ↔
      FilterDocument.equals stores (.value held) (encode value) = false := by
  have given : value ≠ .null := fun same => written (same ▸ rfl)
  rw [FilterDocument.equals_eq (.inr written)]
  by_cases empty : held = .null
  · rw [empty, FilterDocument.order_null]
    simp
  · rw [Sql.compareTruth_of_ne stores _ empty given, Sql.Truth.ofBool_eq_true,
      FilterDocument.order_encode faithful empty written]
    simp [Sql.CompareOp.holds, empty]

theorem single_agrees (faithful : stores.Faithful) {value : Value} (written : encode value ≠ .null)
    {predicate : Predicate} {test : Json}
    (planned : Sql.Relational.compare? column comparison (.single value) = some predicate)
    (tested : FilterDocument.test? comparison (.single value) = some test) :
    SameOutcome stores row column predicate test := by
  cases comparison <;> cases planned <;> cases tested
  case equal =>
    have compared := compare_agrees faithful written (row column) .equal rfl
    refine ⟨"$eq", _, rfl, compared.trans ?_⟩
    rw [passes, FilterDocument.equals_eq (.inr written)]
    rfl
  case notEqual =>
    have unequal := unequal_agrees faithful written (row column)
    refine ⟨"$ne", _, rfl, ?_⟩
    simpa [Predicate.truth, Predicate.truthOfAny, passes] using unequal
  case greater | greaterOrEqual | less | lessOrEqual =>
    exact ⟨_, _, rfl, compare_agrees faithful written (row column) _ rfl⟩

/-- Equality to one of the written operands is that to one of the values. -/
theorem any_equals_encode (faithful : stores.Faithful) {value : Value} (filled : value ≠ .null)
    {values : List Value} (written : ∀ other ∈ values, encode other ≠ .null) :
    (values.map encode).any (FilterDocument.equals stores (.value value)) =
      values.any fun other => stores.order value other == some .eq := by
  induction values with
  | nil => rfl
  | cons first rest ih =>
    have first_written := written first List.mem_cons_self
    have rest_written : ∀ other ∈ rest, encode other ≠ .null := fun other member =>
      written other (List.mem_cons_of_mem _ member)
    rw [List.map_cons, List.any_cons, List.any_cons, ih rest_written,
      FilterDocument.equals_eq (.inr first_written),
      FilterDocument.order_encode faithful filled first_written]

theorem any_equals_null (stores : Stores) {values : List Value}
    (written : ∀ other ∈ values, encode other ≠ .null) :
    (values.map encode).any (FilterDocument.equals stores (.value .null)) = false := by
  rw [List.any_map, List.any_eq_false]
  intro other member
  rw [Function.comp_apply, FilterDocument.equals_eq (.inr (written other member)),
    FilterDocument.order_null]
  decide

/-- Membership in a set that is not empty is the same in both stores. -/
theorem among_agrees (faithful : stores.Faithful) {values : List Value}
    (written : ∀ other ∈ values, encode other ≠ .null) (some_value : values ≠ []) (held : Value) :
    Sql.amongTruth stores held values = .true ↔
      (values.map encode).any (FilterDocument.equals stores (.value held)) = true := by
  have given : ∀ other ∈ values, other ≠ .null := fun other member same =>
    written other member (same ▸ rfl)
  by_cases empty : held = .null
  · rw [empty, Sql.amongTruth_null stores some_value, any_equals_null stores written]
    decide
  · rw [Sql.amongTruth_of_ne stores empty given, Sql.Truth.ofBool_eq_true,
      any_equals_encode faithful empty written]

/-- Null is outside of every set, so `NOT IN` stands beside a test for null. -/
theorem notAmong_agrees (faithful : stores.Faithful) {values : List Value}
    (written : ∀ other ∈ values, encode other ≠ .null) (held : Value) :
    (Sql.amongTruth stores held values).not = .true ∨ held = .null ↔
      (values.map encode).any (FilterDocument.equals stores (.value held)) = false := by
  have given : ∀ other ∈ values, other ≠ .null := fun other member same =>
    written other member (same ▸ rfl)
  by_cases empty : held = .null
  · rw [empty, any_equals_null stores written]
    simp
  · rw [Sql.amongTruth_of_ne stores empty given, Sql.Truth.not_ofBool, Sql.Truth.ofBool_eq_true,
      any_equals_encode faithful empty written]
    simp [empty]

theorem many_agrees (faithful : stores.Faithful) {values : List Value}
    (written : ∀ other ∈ values, encode other ≠ .null) {predicate : Predicate} {test : Json}
    (planned : Sql.Relational.compare? column comparison (.many values) = some predicate)
    (tested : FilterDocument.test? comparison (.many values) = some test) :
    SameOutcome stores row column predicate test := by
  cases comparison <;> cases planned <;> cases tested
  case among =>
    refine ⟨"$in", _, rfl, ?_⟩
    by_cases none_given : values = []
    · -- Nothing is a member of the empty set.
      simp [none_given, Predicate.truth, passes]
    · have inside := among_agrees faithful written none_given (row column)
      simpa [none_given, Predicate.truth, passes] using inside
  case notAmong =>
    refine ⟨"$nin", _, rfl, ?_⟩
    by_cases none_given : values = []
    · -- Everything is outside of the empty set, null included.
      simp [none_given, Predicate.truth, passes]
    · have outside := notAmong_agrees faithful written (row column)
      simpa [none_given, Predicate.truth, Predicate.truthOfAny, passes] using outside

/-- A text is searched for where the regular expression looks for it. -/
theorem pattern_agrees (faithful : stores.Faithful) {wanted : String} {predicate : Predicate}
    {test : Json}
    (planned : Sql.Relational.compare? column comparison (.pattern wanted) = some predicate)
    (tested : FilterDocument.test? comparison (.pattern wanted) = some test) :
    SameOutcome stores row column predicate test := by
  cases comparison <;> cases planned <;> cases tested <;> refine ⟨_, _, rfl, ?_⟩
  case contains | startsWith | endsWith =>
    cases held : row column <;>
      simp [Predicate.truth, Sql.patternTruth, passes, Sql.PatternKind.holds, held,
        faithful.finds_escape, faithful.finds_escape_start, faithful.finds_escape_end]

/-- Whatever is compared with, the test and the predicate have the same outcome. -/
theorem operand_agrees (faithful : stores.Faithful) {operand : Operand}
    (written : ∀ value ∈ operand.values, encode value ≠ .null) {predicate : Predicate}
    {test : Json} (planned : Sql.Relational.compare? column comparison operand = some predicate)
    (tested : FilterDocument.test? comparison operand = some test) :
    SameOutcome stores row column predicate test := by
  cases operand with
  | null => exact null_agrees row column planned tested
  | single value =>
    have form : encode value ≠ .null := written value (by simp [Operand.values])
    exact single_agrees row column faithful form planned tested
  | many values => exact many_agrees row column faithful written planned tested
  | pattern wanted => exact pattern_agrees row column faithful planned tested

end Comparisons

/-! ### Keys of records -/

/-- The key of a path whose names do not begin with a dollar sign is no logical operator. -/
theorem key_ne_joinKey {path : Path}
    (undollared : ∀ name ∈ path.names, name.toList.head? ≠ some '$') (connective : Connective) :
    key path ≠ FilterDocument.joinKey connective := by
  intro same
  have dollar : (key path).toList.head? = some '$' := by
    rw [same]
    cases connective <;> decide
  -- The first character is that of the first name, or a point behind an empty one.
  obtain ⟨first, rest, names⟩ := List.exists_cons_of_ne_nil path.names_ne_nil
  have undollared : first.toList.head? ≠ some '$' :=
    undollared first (names ▸ List.mem_cons_self)
  unfold key Path.join at dollar
  rw [names, String.toList_intercalate] at dollar
  cases rest with
  | nil => exact undollared (by simpa using dollar)
  | cons second rest =>
    cases named : first.toList.head? <;> simp_all

/-! ### Trees -/

/-- The row holds what the record holds at the path. -/
def Holds (row : Row) (record : Document) (path : Path) : Prop :=
  record.look (key path) = .value (row (Sql.Relational.column path))

/-- The predicate and the filter select the record alike. -/
def Alike (stores : Stores) (row : Row) (record : Document) (predicate : Predicate)
    (filter : Json) : Prop :=
  predicate.truth stores row = .true ↔ accepts stores record filter = true

section Trees

variable {stores : Stores} {row : Row} {record : Document} {schema : Schema} {settings : Settings}

theorem leaf_agrees (faithful : stores.Faithful) {leaf : Leaf}
    (written : ∀ value ∈ leaf.operand.values, encode value ≠ .null)
    (undollared : ∀ name ∈ leaf.path.names, name.toList.head? ≠ some '$')
    (held : Holds row record leaf.path) {predicate : Predicate} {filter : Json}
    (planned : (Planner.forTables schema settings).emitLeaf leaf = .ok predicate)
    (filtered : (Planner.forDocuments schema settings).emitLeaf leaf = .ok filter) :
    Alike stores row record predicate filter := by
  obtain ⟨_, compared⟩ := Planner.forTables_emitLeaf_eq_ok.mp planned
  obtain ⟨test, tested, rfl⟩ := Planner.forDocuments_emitLeaf_eq_ok.mp filtered
  obtain ⟨operator, operand, rfl, outcome⟩ :=
    operand_agrees row (Sql.Relational.column leaf.path) faithful written compared tested
  have notJoint := And.intro (key_ne_joinKey undollared .conjunction)
    (key_ne_joinKey undollared .disjunction)
  rw [Alike, FilterDocument.accepts_test stores record notJoint, held]
  exact outcome

/-- Every comparison of the tree is emitted alike. -/
def LeavesAgree (stores : Stores) (row : Row) (record : Document) (schema : Schema)
    (settings : Settings) (leaves : List Leaf) : Prop :=
  ∀ leaf ∈ leaves, ∀ {predicate : Predicate} {filter : Json},
    (Planner.forTables schema settings).emitLeaf leaf = .ok predicate →
      (Planner.forDocuments schema settings).emitLeaf leaf = .ok filter →
        Alike stores row record predicate filter

-- Lists of parts are read as conjunctions and as disjunctions at once, since their connective is
-- only known one level above.

mutual

/-- Trees are emitted alike when their comparisons are. -/
theorem tree_agrees : ∀ (tree : Tree) {predicate : Predicate} {filter : Json},
    LeavesAgree stores row record schema settings tree.leaves →
      (Planner.forTables schema settings).emitTree tree = .ok predicate →
        (Planner.forDocuments schema settings).emitTree tree = .ok filter →
          Alike stores row record predicate filter
  | .comparison leaf, predicate, filter, leaves, planned, filtered =>
    leaves leaf List.mem_cons_self planned filtered
  | .joined connective parts, predicate, filter, leaves, planned, filtered => by
    obtain ⟨predicates, plannedParts, rfl⟩ :=
      (Planner.forTables schema settings).emitTree_joined_eq_ok.mp planned
    obtain ⟨filters, filteredParts, rfl⟩ :=
      (Planner.forDocuments schema settings).emitTree_joined_eq_ok.mp filtered
    obtain ⟨all, any⟩ := trees_agree parts leaves plannedParts filteredParts
    cases connective with
    | conjunction => exact all.trans (by rw [← FilterDocument.accepts_conjunction]; rfl)
    | disjunction => exact any.trans (by rw [← FilterDocument.accepts_disjunction]; rfl)

theorem trees_agree : ∀ (trees : List Tree) {predicates : List Predicate} {filters : List Json},
    LeavesAgree stores row record schema settings (Tree.leavesOf trees) →
      (Planner.forTables schema settings).emitTrees trees = .ok predicates →
        (Planner.forDocuments schema settings).emitTrees trees = .ok filters →
          (Predicate.truthOfAll stores row predicates = .true ↔
            FilterDocument.acceptsAll stores record filters = true) ∧
          (Predicate.truthOfAny stores row predicates = .true ↔
            FilterDocument.acceptsAny stores record filters = true)
  | [], predicates, filters, leaves, planned, filtered => by
    cases planned
    cases filtered
    simp [Predicate.truthOfAll, Predicate.truthOfAny, FilterDocument.acceptsAll,
      FilterDocument.acceptsAny]
  | tree :: rest, predicates, filters, leaves, planned, filtered => by
    obtain ⟨predicate, predicates, plannedFirst, plannedRest, rfl⟩ :=
      (Planner.forTables schema settings).emitTrees_cons_eq_ok.mp planned
    obtain ⟨filter, filters, filteredFirst, filteredRest, rfl⟩ :=
      (Planner.forDocuments schema settings).emitTrees_cons_eq_ok.mp filtered
    have first : Alike stores row record predicate filter :=
      tree_agrees tree (fun leaf member => leaves leaf (List.mem_append_left _ member))
        plannedFirst filteredFirst
    have others := trees_agree rest
      (fun leaf member => leaves leaf (List.mem_append_right _ member)) plannedRest filteredRest
    rw [Alike] at first
    simp [Predicate.truthOfAll, Predicate.truthOfAny, FilterDocument.acceptsAll,
      FilterDocument.acceptsAny, first, others.1, others.2]

end

end Trees

/-! ### Main result -/

/-- The comparisons of a resolved condition are emitted alike when the row holds what the record
holds at every path that the condition names. -/
theorem leavesAgree_of_resolved {schema : Schema} {settings : Settings} {stores : Stores}
    {row : Row} {record : Document} {entity : Entity} {condition : Condition} {tree : Tree}
    (faithful : stores.Faithful) (member : entity ∈ schema.entities.values)
    (undollared : schema.EveryName fun name => name.toList.head? ≠ some '$')
    (held : ∀ raw ∈ condition.comparisons, ∀ path,
      (Resolver.mk schema settings.delimiter).resolve entity raw.field = .ok (some path) →
        Holds row record path)
    (resolves : (Planner.forTables schema settings).resolved.planCondition entity condition =
      .ok tree) :
    LeavesAgree stores row record schema settings tree.leaves := by
  have read := (Planner.forTables schema settings).leaves_of_planCondition entity condition tree
    resolves
  intro leaf place predicate filter planned filtered
  obtain ⟨raw, named, reads⟩ := exists_related read place
  have declared : schema.Declares entity leaf.path := Resolver.declares_of_resolve _ reads.path
  have written (value : Value) (given : value ∈ leaf.operand.values) : encode value ≠ .null :=
    (Planner.forTables schema settings).encode_ne_null_of_planCondition entity resolves place given
  exact leaf_agrees faithful written (declared.names undollared member)
    (held raw named leaf.path reads.path) planned filtered

/-- What is planned for a table and for a store of documents selects the same records: the
predicate is true of a row exactly when the filter matches the document with the same values. -/
theorem backends_agree {schema : Schema} {settings : Settings} {name : String} {entity : Entity}
    {condition : Condition} {predicate : Predicate} {filter : Json} {stores : Stores} {row : Row}
    {record : Document} (known : schema.entity? name = some entity)
    (undollared : schema.EveryName fun name => name.toList.head? ≠ some '$')
    (faithful : stores.Faithful)
    (held : ∀ raw ∈ condition.comparisons, ∀ path,
      (Resolver.mk schema settings.delimiter).resolve entity raw.field = .ok (some path) →
        Holds row record path)
    (planned : (Planner.forTables schema settings).planOnly name condition = .ok predicate)
    (filtered : (Planner.forDocuments schema settings).planOnly name condition = .ok filter) :
    predicate.truth stores row = .true ↔ accepts stores record filter = true := by
  simp only [Planner.planOnly, bind_eq_ok, Planner.entity_eq_ok] at planned filtered
  obtain ⟨_, found, planned⟩ := planned
  obtain ⟨_, found', filtered⟩ := filtered
  cases known.symm.trans found
  cases known.symm.trans found'
  obtain ⟨tree, resolves, emitted⟩ := (Planner.planCondition_eq_ok _ entity condition _).mp planned
  obtain ⟨tree', resolves', emitted'⟩ :=
    (Planner.planCondition_eq_ok _ entity condition _).mp filtered
  -- Both backends emit the one tree that the condition resolves to.
  cases Except.ok.inj (resolves.symm.trans resolves')
  exact tree_agrees tree
    (leavesAgree_of_resolved faithful (Schema.mem_of_entity? known) undollared held resolves)
    emitted emitted'

/-! ### A record of both stores -/

namespace Sample

/-- Persons have a name, perhaps an age, and an address. -/
def person : Entity where
  name := "Person"
  identity := "Name"
  fields :=
    [{ name := "Name", type := .scalar .string }, .optional "Age" (.optionalScalar .int32),
     { name := "Home", type := .embedded "Address" }]

/-- An address may have a city. -/
def address : Entity where
  name := "Address"
  identity := "City"
  fields := [.optional "City" (.optionalScalar .string)]

/-- Persons with their addresses. -/
def schema : Schema := .ofEntities 1 [person, address]

/-- A person of unknown age. -/
def row : Row
  | "Name" => .string "Ada"
  | "Home_City" => .string "Berlin"
  | _ => .null

/-- The same person. -/
def record : Document :=
  .object [("Name", .value (.string "Ada")),
    ("Home", .object [("City", .value (.string "Berlin"))])]

/-- A condition with nested fields, a set, a pattern and comparisons with null. -/
def condition : Condition :=
  .grouped
    [.any [.compared "age" "gt" (.integer 17), .amongst "home.city" "nin" [.string "Oslo"]],
     .all [.compared "Home.City" "contains" (.string "erl"), .compared "name" "ne" (.string "Bob"),
       .valueless "Age" "eq"]]

/-- The condition over the columns of a table. -/
def predicate : Predicate :=
  .all
    [.any
       [.compare "Age" .greater (.int32 17),
        .any [.notAmong "Home_City" [.string "Oslo"], .isNull "Home_City"]],
     .all
       [.pattern "Home_City" .anywhere "erl",
        .any [.compare "Name" .notEqual (.string "Bob"), .isNull "Name"], .isNull "Age"]]

/-- The condition as a filter of documents. -/
def filter : Json :=
  .single "$and" (.list
    [.single "$or" (.list
       [.single "Age" (.single "$gt" (.integer 17)),
        .single "Home.City" (.single "$nin" (.list [.string "Oslo"]))]),
     .single "$and" (.list
       [.single "Home.City" (.single "$regex" (.string "erl")),
        .single "Name" (.single "$ne" (.string "Bob")), .single "Age" (.single "$eq" .null)])])

theorem undollared : schema.EveryName fun name => name.toList.head? ≠ some '$' := by
  unfold Schema.EveryName
  decide

theorem holds_of_resolve {field : String} {path : Path}
    (named : (Resolver.mk schema ".").resolve person field = .ok (some path))
    (here : Holds row record path) (other : Path)
    (resolved : (Resolver.mk schema ".").resolve person field = .ok (some other)) :
    Holds row record other := by
  cases named.symm.trans resolved
  exact here

theorem held : ∀ raw ∈ condition.comparisons, ∀ path,
    (Resolver.mk schema ".").resolve person raw.field = .ok (some path) →
      Holds row record path := by
  intro raw member
  have all_named : condition.comparisons = [_, _, _, _, _] := rfl
  rw [all_named] at member
  simp only [List.mem_cons, List.not_mem_nil, or_false] at member
  rcases member with rfl | rfl | rfl | rfl | rfl <;> exact holds_of_resolve rfl rfl

/-- The person is selected from both stores. -/
theorem person_selected_alike :
    (Planner.forTables schema {}).planOnly "person" condition = .ok predicate ∧
      (Planner.forDocuments schema {}).planOnly "person" condition = .ok filter ∧
      predicate.truth .plain row = .true ∧ accepts .plain record filter = true := by
  have planned : (Planner.forTables schema {}).planOnly "person" condition = .ok predicate := rfl
  have filtered : (Planner.forDocuments schema {}).planOnly "person" condition = .ok filter := rfl
  have agreement := backends_agree rfl undollared Stores.plain_faithful held planned filtered
  have accepted : accepts .plain record filter = true := by decide
  exact ⟨planned, filtered, agreement.mpr accepted, accepted⟩

end Sample

end RecordQuery
