import RecordQuery.Proofs.Permission

/-!
# Filters and the policies of fields

A filter abbreviates a condition, one group of equalities. The check of a filter only looks whether
its references resolve, the check of the condition also asks the policies of the fields. So a filter
that is planned abbreviates an acceptable condition exactly when no field that it names refuses
equality.
-/

namespace RecordQuery

/-! ### The condition of a filter -/

/-- The equality that an entry of a filter stands for. A null entry has no value. -/
def Filter.equality : String × Option Literal → Condition
  | (field, some literal) => .compared field "EQ" literal
  | (field, none) => .valueless field "EQ"

/-- The condition that a filter abbreviates. -/
def Filter.condition (filter : Filter) : Condition :=
  .grouped [.all (filter.entries.map Filter.equality)]

namespace Validator

variable (validator : Validator) (entity : Entity)

/-- The reference leads to a field whose policy refuses equality. -/
def RefusesEquality (field : String) : Prop :=
  ∃ path, validator.resolver.resolve entity field = .ok (some path) ∧
    refusesAt validator.schema .equal entity path.names = true

/-! ### Checks one by one -/

/-- Without null entries the members of a group are checked one by one. -/
theorem checkMembers_map {α : Type} (depth : Nat) (condition : α → Condition) (values : List α) :
    validator.checkMembers entity depth (values.map fun value => some (condition value)) =
      each (fun value => validator.checkCondition entity depth (condition value)) values := by
  induction values with
  | nil => rfl
  | cons first rest ih => rw [List.map_cons, checkMembers, each, ih]

/-! ### Checks of equalities -/

/-- An equality whose reference resolves is refused by the policy of its field or not at all. -/
theorem checkComparison_equal {field : String} (value : Option Literal) {path : Path}
    (resolved : validator.resolver.resolve entity field = .ok (some path)) :
    validator.checkComparison entity field (some "EQ") value =
      if refusesAt validator.schema .equal entity path.names then
        .error (.refused field .equal .field)
      else .ok () := by
  have found : validator.resolve entity .condition field = .ok path :=
    (validator.resolve_eq_ok entity).mpr resolved
  have spelled : comparison field (some "EQ") = .ok .equal := rfl
  -- Settings only disable patterns, and only the values of patterns are looked at.
  have enabled : validator.settings.disables .equal = false := rfl
  have plain : checkPattern field .equal value = .ok () := by cases value <;> rfl
  rw [checkComparison, found, ok_bind, spelled, ok_bind, plain, checkPermitted, enabled]
  cases refusesAt validator.schema .equal entity path.names <;> rfl

/-- A resolved equality is accepted unless its field refuses it, and then that is the violation. -/
theorem checkComparison_equal_iff {field : String} (value : Option Literal)
    (resolves : ∃ path, validator.resolver.resolve entity field = .ok (some path)) :
    (validator.checkComparison entity field (some "EQ") value = .ok () ↔
        ¬ validator.RefusesEquality entity field) ∧
      ∀ violation,
        validator.checkComparison entity field (some "EQ") value = .error violation →
          validator.RefusesEquality entity field ∧ violation = .refused field .equal .field := by
  obtain ⟨path, resolved⟩ := resolves
  have refuses_iff : validator.RefusesEquality entity field ↔
      refusesAt validator.schema .equal entity path.names = true := by
    constructor
    · rintro ⟨other, found, refused⟩
      cases resolved.symm.trans found
      exact refused
    · exact fun refused => ⟨path, resolved, refused⟩
  rw [validator.checkComparison_equal entity value resolved, refuses_iff]
  cases refusesAt validator.schema .equal entity path.names with
  | true => exact ⟨by simp, fun violation same => ⟨rfl, (Except.error.inj same).symm⟩⟩
  | false => exact ⟨by simp, fun violation same => by cases same⟩

theorem checkCondition_equality {depth : Nat}
    (shallow : ∀ limit, validator.settings.maxDepth = some limit → depth ≤ limit)
    (entry : String × Option Literal) :
    validator.checkCondition entity depth (Filter.equality entry) =
      validator.checkComparison entity entry.1 (some "EQ") entry.2 := by
  obtain ⟨field, _ | literal⟩ := entry
  all_goals
    simp only [Filter.equality, Condition.compared, Condition.valueless, checkCondition]
    rw [validator.checkDepth_eq_ok.mpr shallow, ok_bind]

/-- The condition of a filter with entries is checked entry by entry. -/
theorem checkCondition_condition {filter : Filter}
    (deep : ∀ limit, validator.settings.maxDepth = some limit → 2 ≤ limit)
    (filled : filter.entries ≠ []) :
    validator.checkCondition entity 1 filter.condition =
      each (fun entry => validator.checkComparison entity entry.1 (some "EQ") entry.2)
        filter.entries := by
  have shallow : ∀ limit, validator.settings.maxDepth = some limit → 1 ≤ limit :=
    fun limit limited => Nat.le_of_succ_le (deep limit limited)
  have members : (filter.entries.map Filter.equality).map some =
      filter.entries.map fun entry => some (Filter.equality entry) := List.map_map
  have some_member : (filter.entries.map fun entry => some (Filter.equality entry)).isEmpty =
      false := by simpa using filled
  have spelled : checkConnective (some "AND") = .ok () := rfl
  have checks : (fun entry => validator.checkCondition entity 2 (Filter.equality entry)) =
      fun entry => validator.checkComparison entity entry.1 (some "EQ") entry.2 :=
    funext (validator.checkCondition_equality entity deep)
  -- The root and its one group have nothing else that could be refused.
  unfold Filter.condition Condition.grouped GroupOf.all GroupOf.joined
  simp only [checkCondition, checkGroups, List.map_cons, List.map_nil, members, some_member,
    validator.checkDepth_eq_ok.mpr shallow, spelled, ok_bind, Option.isSome_none, List.isEmpty_cons,
    Bool.false_eq_true, if_false, checkMembers_map, checks]
  exact bind_ok_unit

/-- An accepted filter has entries, and each of its references resolves. -/
theorem resolved_of_validateFilter {name : String} {filter : Filter}
    (known : validator.schema.entity? name = some entity)
    (passed : validator.validateFilter name filter = .ok ()) :
    filter.entries ≠ [] ∧ ∀ entry ∈ filter.entries, ∃ path,
      validator.resolver.resolve entity entry.1 = .ok (some path) := by
  simp only [validateFilter, Validator.entity, known, ok_bind] at passed
  split at passed
  next => cases passed
  next filled =>
    refine ⟨by simpa using filled, fun entry member => ?_⟩
    have named : entry.1 ∈ filter.keys := List.mem_map_of_mem member
    obtain ⟨path, found, _⟩ := bind_eq_ok.mp (each_eq_ok.mp passed entry.1 named)
    exact ⟨path, (validator.resolve_eq_ok entity).mp found⟩

/-- Where names are distinct, the policy that refuses is that of the field that the reference
selects. -/
theorem refusesEquality_iff (distinct : validator.schema.DistinctNames)
    (member : entity ∈ validator.schema.entities.values) {field : String} :
    validator.RefusesEquality entity field ↔
      ∃ fields, validator.resolver.fields entity field = .ok (some fields) ∧
        fields.last.disallows .equal = true := by
  constructor
  · rintro ⟨path, resolved, refused⟩
    obtain ⟨fields, selected, rfl⟩ := validator.resolver.resolve_eq_some.mp resolved
    have policy := validator.resolver.refusesAt_of_fields distinct member selected .equal
    exact ⟨fields, selected, policy.symm.trans refused⟩
  · rintro ⟨fields, selected, refused⟩
    have policy := validator.resolver.refusesAt_of_fields distinct member selected .equal
    refine ⟨fields.map Field.segment, ?_, policy.trans refused⟩
    exact validator.resolver.resolve_eq_some.mpr ⟨fields, selected, rfl⟩

end Validator

namespace Planner

variable {Emitted Order Fields : Type} (planner : Planner Emitted Order Fields)

theorem planFilterChecked_eq_ok {name : String} {filter : Filter} {emitted : Emitted} :
    planner.planFilterChecked name filter = .ok emitted ↔
      planner.validator.validateFilter name filter = .ok () ∧
        planner.planFilter name filter = .ok emitted := by
  unfold planFilterChecked
  rcases planner.validator.validateFilter name filter with violation | _
  · simp
  · rcases planner.planFilter name filter with fault | found <;> simp

/-- A filter that is planned abbreviates an acceptable condition exactly when no field that it names
refuses equality, and refused equality is the only thing that the check of the condition finds. -/
theorem filter_condition_accepted_iff {name : String} {filter : Filter} {emitted : Emitted}
    (deep : ∀ limit, planner.settings.maxDepth = some limit → 2 ≤ limit)
    (planned : planner.planFilterChecked name filter = .ok emitted) :
    ∃ entity, planner.schema.entity? name = some entity ∧
      (planner.validator.validateCondition name filter.condition = .ok () ↔
        ∀ field ∈ filter.keys, ¬ planner.validator.RefusesEquality entity field) ∧
      (∀ violation,
        planner.validator.validateCondition name filter.condition = .error violation →
          ∃ field ∈ filter.keys, planner.validator.RefusesEquality entity field ∧
            violation = .refused field .equal .field) ∧
      (planner.schema.DistinctNames → ∀ field ∈ filter.keys,
        (planner.validator.RefusesEquality entity field ↔
          ∃ fields, planner.resolver.fields entity field = .ok (some fields) ∧
            fields.last.disallows .equal = true)) := by
  obtain ⟨passed, planned⟩ := planner.planFilterChecked_eq_ok.mp planned
  simp only [planFilter, bind_eq_ok, entity_eq_ok] at planned
  obtain ⟨entity, known, _⟩ := planned
  obtain ⟨filled, resolves⟩ := planner.validator.resolved_of_validateFilter entity known passed
  have checked : planner.validator.validateCondition name filter.condition =
      Validator.each
        (fun entry => planner.validator.checkComparison entity entry.1 (some "EQ") entry.2)
        filter.entries := by
    rw [← planner.validator.checkCondition_condition entity deep filled]
    simp only [Validator.validateCondition, Validator.entity, validator, known, ok_bind]
  rw [checked]
  refine ⟨entity, known, ⟨fun accepted field named => ?_, fun allowed => ?_⟩,
    fun violation failed => ?_, fun distinct field _ => ?_⟩
  · obtain ⟨entry, member, rfl⟩ := List.mem_map.mp named
    have equality := planner.validator.checkComparison_equal_iff entity entry.2
      (resolves entry member)
    exact equality.1.mp (Validator.each_eq_ok.mp accepted entry member)
  · refine Validator.each_eq_ok.mpr fun entry member => ?_
    have equality := planner.validator.checkComparison_equal_iff entity entry.2
      (resolves entry member)
    exact equality.1.mpr (allowed entry.1 (List.mem_map_of_mem member))
  · obtain ⟨entry, member, refused⟩ := Validator.exists_of_each_eq_error failed
    have equality := planner.validator.checkComparison_equal_iff entity entry.2
      (resolves entry member)
    exact ⟨entry.1, List.mem_map_of_mem member, equality.2 violation refused⟩
  · exact planner.validator.refusesEquality_iff entity distinct (Schema.mem_of_entity? known)

end Planner

/-! ### Filters on a sealed field -/

namespace Sample

/-- Accounts whose secret refuses equality. -/
def vault : Schema :=
  .ofEntities 1
    [{ name := "User", identity := "Id",
       fields :=
         [{ name := "Id", type := .scalar .int64 },
          .denyComparisons [.equal] { name := "Secret", type := .scalar .string }] }]

/-- The account of a number. -/
def numbered : Filter := .ofList [("id", some (.integer 7))]

/-- The accounts with a secret. -/
def guessed : Filter := .ofList [("Secret", some (.string "x"))]

theorem numbered_accepted_iff :
    ∃ predicate, (Planner.forTables vault {}).planFilterChecked "user" numbered = .ok predicate ∧
      ∃ entity, vault.entity? "user" = some entity ∧
        ((Validator.mk vault {}).validateCondition "user" numbered.condition = .ok () ↔
          ∀ field ∈ numbered.keys, ¬ (Validator.mk vault {}).RefusesEquality entity field) := by
  have deep : ∀ limit, (Planner.forTables vault {}).settings.maxDepth = some limit → 2 ≤ limit := by
    rintro _ ⟨⟩
    decide
  have planned : (Planner.forTables vault {}).planFilterChecked "user" numbered =
      .ok (.all [.compare "Id" .equal (.int64 7)]) := rfl
  obtain ⟨entity, known, accepted, _⟩ :=
    (Planner.forTables vault {}).filter_condition_accepted_iff deep planned
  exact ⟨_, planned, entity, known, accepted⟩

/-- A secret is compared although its policy refuses equality, and the condition that the filter
abbreviates is refused. -/
theorem guessed_planned_unchecked :
    (Planner.forDocuments vault {}).planFilterChecked "User" guessed =
        .ok (.single "$and" (.list [.single "Secret" (.single "$eq" (.string "x"))])) ∧
      (Validator.mk vault {}).validateCondition "User" guessed.condition =
        .error (.refused "Secret" .equal .field) :=
  ⟨rfl, rfl⟩

end Sample

end RecordQuery
