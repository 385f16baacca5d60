import RecordQuery.Proofs.Nodes
import RecordQuery.Proofs.Planning

/-!
# Steps of the check

When each step of the check of a request passes. The parts of a request are checked one by one, so
that their order has no part in whether they pass.
-/

namespace RecordQuery.Validator

variable (validator : Validator) (entity : Entity)

theorem each_eq_ok {α : Type} {check : α → Except Violation Unit} {values : List α} :
    each check values = .ok () ↔ ∀ value ∈ values, check value = .ok () := by
  induction values with
  | nil => simp [each]
  | cons first rest ih =>
    rw [each, bind_eq_ok, List.forall_mem_cons]
    constructor
    · rintro ⟨_, here, later⟩
      exact ⟨here, ih.mp later⟩
    · rintro ⟨here, later⟩
      exact ⟨(), here, ih.mpr later⟩

theorem exists_of_each_eq_error {α : Type} {check : α → Except Violation Unit} {values : List α}
    {violation : Violation} (failed : each check values = .error violation) :
    ∃ value ∈ values, check value = .error violation := by
  induction values with
  | nil => cases failed
  | cons first rest ih =>
    rcases bind_eq_error.mp failed with here | ⟨_, _, later⟩
    · exact ⟨first, List.mem_cons_self, here⟩
    · obtain ⟨value, member, there⟩ := ih later
      exact ⟨value, List.mem_cons_of_mem _ member, there⟩

/-! ### Names -/

theorem entity_eq_ok {name : String} {found : Entity} :
    validator.entity name = .ok found ↔ validator.schema.entity? name = some found := by
  unfold Validator.entity
  cases validator.schema.entity? name <;> simp

theorem resolve_eq_ok {location : Location} {field : String} {path : Path} :
    validator.resolve entity location field = .ok path ↔
      validator.resolver.resolve entity field = .ok (some path) := by
  unfold resolve
  rcases validator.resolver.resolve entity field with fault | _ | found <;> simp

theorem checkField_eq_ok {location : Location} {field : String} :
    validator.checkField entity location field = .ok () ↔
      ∃ path, validator.resolver.resolve entity field = .ok (some path) := by
  simp only [checkField, bind_eq_ok, resolve_eq_ok, pure_eq_ok, and_true]

/-! ### Comparisons -/

theorem comparison_eq_ok {field : String} {operator : Option String} {found : Comparison} :
    comparison field operator = .ok found ↔
      operator.bind Comparison.ofSpelling? = some found := by
  unfold comparison
  cases operator with
  | none => simp
  | some spelling => cases known : Comparison.ofSpelling? spelling <;> simp [known]

theorem checkPermitted_eq_ok {field : String} {path : Path} {comparison : Comparison} :
    validator.checkPermitted entity field path comparison = .ok () ↔
      validator.settings.disables comparison = false ∧
        refusesAt validator.schema comparison entity path.names = false := by
  unfold checkPermitted
  split
  next disabled => simp [disabled]
  next enabled => split <;> simp_all

theorem checkPattern_eq_ok {field : String} {comparison : Comparison} {value : Option Literal} :
    checkPattern field comparison value = .ok () ↔
      (comparison.isPattern = true → ∀ literal, value = some literal →
        Text.lettersAndDigits literal.text.toList = true) := by
  unfold checkPattern
  cases value with
  | none => simp
  | some literal =>
    cases comparison.isPattern <;> cases Text.lettersAndDigits literal.text.toList <;> simp

theorem checkComparison_eq_ok {field : String} {operator : Option String}
    {value : Option Literal} :
    validator.checkComparison entity field operator value = .ok () ↔
      ∃ path comparison, validator.resolver.resolve entity field = .ok (some path) ∧
        operator.bind Comparison.ofSpelling? = some comparison ∧
        (validator.settings.disables comparison = false ∧
          refusesAt validator.schema comparison entity path.names = false) ∧
        (comparison.isPattern = true → ∀ literal, value = some literal →
          Text.lettersAndDigits literal.text.toList = true) := by
  simp only [checkComparison, bind_eq_ok, resolve_eq_ok, comparison_eq_ok]
  constructor
  · rintro ⟨path, resolved, comparison, spelled, _, permitted, plain⟩
    have permitted := (validator.checkPermitted_eq_ok entity).mp permitted
    exact ⟨path, comparison, resolved, spelled, permitted, checkPattern_eq_ok.mp plain⟩
  · rintro ⟨path, comparison, resolved, spelled, permitted, plain⟩
    have permitted : validator.checkPermitted entity field path comparison = .ok () :=
      (validator.checkPermitted_eq_ok entity).mpr permitted
    exact ⟨path, resolved, comparison, spelled, (), permitted, checkPattern_eq_ok.mpr plain⟩

/-! ### Conditions -/

theorem checkDepth_eq_ok {depth : Nat} :
    validator.checkDepth depth = .ok () ↔
      ∀ limit, validator.settings.maxDepth = some limit → depth ≤ limit := by
  unfold checkDepth
  cases validator.settings.maxDepth with
  | none => simp
  | some limit =>
    by_cases deep : limit < depth
    · simp [deep]
    · simp [deep, Nat.not_lt.mp deep]

theorem checkConnective_eq_ok {operator : Option String} :
    checkConnective operator = .ok () ↔
      ∀ spelling, operator = some spelling → (Connective.ofSpelling? spelling).isSome := by
  unfold checkConnective
  cases operator with
  | none => simp
  | some spelling => simp [Option.isSome_iff_ne_none]

theorem checkMembers_eq_ok {depth : Nat} {members : List (Option Condition)} :
    validator.checkMembers entity depth members = .ok () ↔
      none ∉ members ∧ ∀ member, some member ∈ members →
        validator.checkCondition entity depth member = .ok () := by
  induction members with
  | nil => simp [checkMembers]
  | cons member rest ih =>
    cases member with
    | none => simp [checkMembers]
    | some condition =>
      rw [checkMembers, check_bind_eq_ok, ih]
      simp only [List.mem_cons, reduceCtorEq, false_or, Option.some.injEq, forall_eq_or_imp]
      exact and_left_comm

/-- The group, whose members are at some depth, passes. -/
def PassesGroup (depth : Nat) (group : Group) : Prop :=
  group.WellFormed ∧ ∀ member, some member ∈ group.members →
    validator.checkCondition entity depth member = .ok ()

theorem checkGroups_eq_ok {depth : Nat} {groups : List (Option Group)} :
    validator.checkGroups entity depth groups = .ok () ↔
      none ∉ groups ∧ ∀ group, some group ∈ groups →
        validator.PassesGroup entity depth group := by
  induction groups with
  | nil => simp [checkGroups]
  | cons entry rest ih =>
    rcases entry with _ | ⟨operator, members⟩
    · simp [checkGroups]
    · simp only [List.mem_cons, reduceCtorEq, false_or, Option.some.injEq, forall_eq_or_imp]
      rw [and_left_comm, ← ih, checkGroups, check_bind_eq_ok, checkConnective_eq_ok]
      -- A group without members is refused before the groups behind it are checked.
      cases members with
      | nil =>
        constructor
        · rintro ⟨_, passed⟩
          cases passed
        · rintro ⟨⟨form, _⟩, _⟩
          exact absurd rfl form.filled
      | cons first more =>
        simp only [List.isEmpty_cons, Bool.false_eq_true, if_false, check_bind_eq_ok]
        rw [checkMembers_eq_ok]
        constructor
        · rintro ⟨known, ⟨whole, members⟩, later⟩
          exact ⟨⟨⟨known, List.cons_ne_nil _ _, whole⟩, members⟩, later⟩
        · rintro ⟨⟨form, members⟩, later⟩
          exact ⟨form.known, ⟨form.whole, members⟩, later⟩

theorem checkCondition_field_eq_ok {field : String} {operator : Option String}
    {value : Option Literal} {values : List Literal} {depth : Nat} :
    validator.checkCondition entity depth ⟨some field, operator, value, values, none⟩ = .ok () ↔
      validator.checkDepth depth = .ok () ∧
        validator.checkComparison entity field operator value = .ok () := by
  rw [checkCondition, check_bind_eq_ok]

theorem checkCondition_groups_eq_ok {operator : Option String} {value : Option Literal}
    {values : List Literal} {groups : List (Option Group)} {depth : Nat} :
    validator.checkCondition entity depth ⟨none, operator, value, values, some groups⟩ = .ok () ↔
      validator.checkDepth depth = .ok () ∧ operator = none ∧ groups ≠ [] ∧
        validator.checkGroups entity (depth + 1) groups = .ok () := by
  rw [checkCondition, check_bind_eq_ok]
  cases operator <;> cases groups <;> simp

/-! ### Queries -/

theorem checkOrderKey_eq_ok {key : OrderKey} :
    validator.checkOrderKey entity key = .ok () ↔
      ∃ field, key.field = some field ∧
        ∃ path, validator.resolver.resolve entity field = .ok (some path) := by
  unfold checkOrderKey
  cases key.field with
  | none => simp
  | some field => simp [checkField_eq_ok]

theorem checkBound_eq_ok {bound : PageBound} {value : Option Int64} :
    checkBound bound value = .ok () ↔ ∀ n, value = some n → 0 ≤ n.toInt := by
  unfold checkBound
  cases value with
  | none => simp
  | some n =>
    by_cases negative : n.toInt < 0
    · simp [negative]
    · simp [negative, Int.not_lt.mp negative]

theorem checkQuery_eq_ok {query : Query} :
    validator.checkQuery entity query = .ok () ↔
      (query.includes = [] ∨ query.excludes = []) ∧ validator.Accepts entity query := by
  constructor
  · intro passed
    refine ⟨?_, validator.accepts_of_checkQuery entity passed⟩
    rw [checkQuery_eq] at passed
    split at passed
    next => cases passed
    next one_list => simpa [Decidable.or_iff_not_imp_left] using one_list
  · rintro ⟨one_empty, accepted⟩
    have one_list : (!query.includes.isEmpty && !query.excludes.isEmpty) = false := by
      rcases one_empty with empty | empty <;> simp [empty]
    simp only [checkQuery_eq, one_list, Bool.false_eq_true, if_false, accepted.includes,
      accepted.excludes, accepted.condition, accepted.order, accepted.limit, accepted.skip,
      ok_bind]

theorem validateQuery_eq_ok {name : String} {query : Query} :
    validator.validateQuery name query = .ok () ↔
      ∃ entity, validator.schema.entity? name = some entity ∧
        validator.checkQuery entity query = .ok () := by
  simp only [validateQuery, bind_eq_ok, entity_eq_ok]

end RecordQuery.Validator
