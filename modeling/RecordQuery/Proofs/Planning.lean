import RecordQuery.Plan.Basic
import RecordQuery.Proofs.Outcome

/-!
# Steps of the planner

What has to hold for each step of the planner to succeed, and what it then gives, and what holds of
a query that is accepted. Later proofs use these facts in place of the definitions.
-/

namespace RecordQuery

/-- A comparison as a request gives it. -/
structure RawComparison where
  field : String
  operator : Option String
  value : Option Literal
  values : List Literal
  deriving DecidableEq

/-- A comparison as it is handed to a backend. -/
structure Leaf where
  path : Path
  comparison : Comparison
  operand : Operand
  deriving DecidableEq

namespace Planner

variable {Emitted Order Fields : Type} (planner : Planner Emitted Order Fields) (entity : Entity)

/-- The request's comparison, with its reference resolved, its operator known and its literals
typed, is the leaf. -/
structure Reads (raw : RawComparison) (leaf : Leaf) : Prop where
  comparison : Planner.comparison raw.field raw.operator = .ok leaf.comparison
  path : planner.resolver.resolve entity raw.field = .ok (some leaf.path)
  operand : operand leaf.path.type raw.field leaf.comparison raw.value raw.values =
    .ok leaf.operand

theorem Reads.unique {planner : Planner Emitted Order Fields} {entity : Entity}
    {raw : RawComparison} {leaf leaf' : Leaf} (reads : planner.Reads entity raw leaf)
    (reads' : planner.Reads entity raw leaf') : leaf = leaf' := by
  obtain ⟨path, comparison, operand⟩ := leaf
  obtain ⟨path', comparison', operand'⟩ := leaf'
  cases reads.comparison.symm.trans reads'.comparison
  cases reads.path.symm.trans reads'.path
  cases reads.operand.symm.trans reads'.operand
  rfl

/-- What the backend emits for a comparison. -/
def emitLeaf (leaf : Leaf) : Except PlanFault Emitted := do
  planner.backend.checkPath leaf.path
  planner.emit leaf.path leaf.comparison leaf.operand

theorem entity_eq_ok {name : String} {found : Entity} :
    planner.entity name = .ok found ↔ planner.schema.entity? name = some found := by
  unfold Planner.entity
  cases planner.schema.entity? name <;> simp

theorem resolve_eq_ok {field : String} {path : Path} :
    planner.resolve entity field = .ok path ↔
      planner.resolver.resolve entity field = .ok (some path) ∧
        planner.backend.checkPath path = .ok () := by
  unfold resolve
  rcases planner.resolver.resolve entity field with fault | _ | found
  · simp
  · simp
  · constructor
    · intro planned
      simp only [bind_eq_ok, pure_eq_ok] at planned
      obtain ⟨_, checked, rfl⟩ := planned
      exact ⟨rfl, checked⟩
    · rintro ⟨same, checked⟩
      cases same
      simp [checked]

theorem comparison_eq_ok {field : String} {operator : Option String} {found : Comparison} :
    comparison field operator = .ok found ↔
      operator.bind Comparison.ofSpelling? = some found := by
  unfold comparison
  cases operator with
  | none => simp
  | some spelling => cases known : Comparison.ofSpelling? spelling <;> simp [known]

/-- A comparison is planned by reading it and emitting what was read. -/
theorem planComparison_eq_ok {raw : RawComparison} {emitted : Emitted} :
    planner.planComparison entity raw.field raw.operator raw.value raw.values = .ok emitted ↔
      ∃ leaf, planner.Reads entity raw leaf ∧ planner.emitLeaf leaf = .ok emitted := by
  simp only [planComparison, bind_eq_ok, resolve_eq_ok, emitLeaf]
  -- The planner asks the backend for the path before it types the operand; a leaf is asked for
  -- both when it is emitted. The steps are the same.
  constructor
  · rintro ⟨comparison, spelled, path, ⟨resolved, checked⟩, operand, typed, emission⟩
    exact ⟨⟨path, comparison, operand⟩, ⟨spelled, resolved, typed⟩, (), checked, emission⟩
  · rintro ⟨leaf, reads, _, checked, emission⟩
    exact ⟨leaf.comparison, reads.comparison, leaf.path, ⟨reads.path, checked⟩, leaf.operand,
      reads.operand, emission⟩

theorem planCondition_field_eq_ok (raw : RawComparison) {emitted : Emitted} :
    planner.planCondition entity ⟨some raw.field, raw.operator, raw.value, raw.values, none⟩ =
        .ok emitted ↔
      ∃ leaf, planner.Reads entity raw leaf ∧ planner.emitLeaf leaf = .ok emitted := by
  rw [← planComparison_eq_ok]
  simp only [planCondition]

theorem planCondition_groups_eq_ok {operator : Option String} {value : Option Literal}
    {values : List Literal} {groups : List (Option Group)} {emitted : Emitted} :
    planner.planCondition entity ⟨none, operator, value, values, some groups⟩ = .ok emitted ↔
      ∃ parts, planner.planGroups entity groups = .ok parts ∧ parts ≠ [] ∧
        planner.backend.join .conjunction parts = emitted := by
  simp only [planCondition, bind_eq_ok]
  refine exists_congr fun parts => and_congr_right fun _ => ?_
  cases parts <;> simp

theorem planGroups_cons_eq_ok {operator : Option String} {members : List (Option Condition)}
    {rest : List (Option Group)} {emitted : List Emitted} :
    planner.planGroups entity (some ⟨operator, members⟩ :: rest) = .ok emitted ↔
      ∃ joint parts others, connective operator = .ok joint ∧
        planner.planMembers entity members = .ok parts ∧ parts ≠ [] ∧
          planner.planGroups entity rest = .ok others ∧
            planner.backend.join joint parts :: others = emitted := by
  simp only [planGroups, bind_eq_ok]
  constructor
  · rintro ⟨joint, spelled, parts, planned, joins⟩
    -- A group without members is refused before the groups behind it are planned.
    cases parts with
    | nil => simp at joins
    | cons part more =>
      simp only [List.isEmpty_cons, Bool.false_eq_true, if_false, bind_eq_ok, pure_eq_ok] at joins
      obtain ⟨others, later, rfl⟩ := joins
      exact ⟨joint, _, others, spelled, planned, List.cons_ne_nil _ _, later, rfl⟩
  · rintro ⟨joint, parts, others, spelled, planned, filled, later, rfl⟩
    exact ⟨joint, spelled, parts, planned, by simp [filled, later]⟩

theorem planMembers_cons_eq_ok {condition : Condition} {rest : List (Option Condition)}
    {emitted : List Emitted} :
    planner.planMembers entity (some condition :: rest) = .ok emitted ↔
      ∃ part others, planner.planCondition entity condition = .ok part ∧
        planner.planMembers entity rest = .ok others ∧ part :: others = emitted := by
  simp only [planMembers, bind_eq_ok, pure_eq_ok]
  constructor
  · rintro ⟨part, first, others, later, joins⟩
    exact ⟨part, others, first, later, joins⟩
  · rintro ⟨part, others, first, later, joins⟩
    exact ⟨part, first, others, later, joins⟩

theorem nil_iff_of_planGroups {groups : List (Option Group)} {parts : List Emitted}
    (planned : planner.planGroups entity groups = .ok parts) : parts = [] ↔ groups = [] := by
  rcases groups with _ | ⟨_ | ⟨operator, members⟩, rest⟩
  · cases planned
    exact iff_of_true rfl rfl
  · cases planned
  · obtain ⟨_, _, _, _, _, _, _, rfl⟩ := (planner.planGroups_cons_eq_ok entity).mp planned
    exact iff_of_false (List.cons_ne_nil _ _) (List.cons_ne_nil _ _)

theorem nil_iff_of_planMembers {members : List (Option Condition)} {parts : List Emitted}
    (planned : planner.planMembers entity members = .ok parts) : parts = [] ↔ members = [] := by
  rcases members with _ | ⟨_ | condition, rest⟩
  · cases planned
    exact iff_of_true rfl rfl
  · cases planned
  · obtain ⟨_, _, _, _, rfl⟩ := (planner.planMembers_cons_eq_ok entity).mp planned
    exact iff_of_false (List.cons_ne_nil _ _) (List.cons_ne_nil _ _)

/-! ### Queries -/

theorem planChecked_eq_ok {name : String} {query : Query} {plan : Plan Emitted Order Fields} :
    planner.planChecked name query = .ok plan ↔
      planner.validator.validateQuery name query = .ok () ∧
        planner.planQuery name query = .ok plan := by
  unfold planChecked
  rcases planner.validator.validateQuery name query with violation | _
  · simp
  · rcases planner.planQuery name query with fault | found <;> simp

theorem sortKey_eq_ok {key : OrderKey} {sort : SortKey} :
    planner.sortKey entity key = .ok sort ↔
      ∃ field, key.field = some field ∧ planner.resolve entity field = .ok sort.path ∧
        key.isDescending = sort.descending := by
  unfold sortKey
  obtain ⟨path, descending⟩ := sort
  cases key.field with
  | none => simp
  | some field => simp

/-- The condition of a query in the backend's form, if it has one. -/
def planOptional : Option Condition → Except PlanFault (Option Emitted)
  | some condition => (planner.planCondition entity condition).map some
  | none => .ok none

/-- A query is planned part by part. -/
theorem planEntity_eq (query : Query) :
    planner.planEntity entity query =
      (do
        let filter ← planner.planOptional entity query.condition
        let keys ← query.order.mapM (planner.sortKey entity)
        let projection ← planner.projection? entity query
        let limit ← pageBound .limit query.limit
        let skip ← pageBound .skip query.skip
        pure ⟨filter, planner.backend.order keys, projection.map planner.backend.project, limit,
          skip⟩) := by
  -- In the planner the later parts stand inside the choice between a condition and none.
  obtain ⟨includes, excludes, condition, order, limit, skip⟩ := query
  cases condition <;> rfl

end Planner

namespace Validator

variable (validator : Validator) (entity : Entity)

/-- The check of the condition of a query, if it has one. -/
def checkOptional (condition : Option Condition) : Except Violation Unit :=
  match condition with
  | some condition => validator.checkCondition entity 1 condition
  | none => .ok ()

/-- A query that does not both name fields to return and fields to leave out is checked part by
part. -/
theorem checkQuery_eq (query : Query) :
    validator.checkQuery entity query =
      if !query.includes.isEmpty && !query.excludes.isEmpty then
        .error (.shape .includesAndExcludes)
      else (do
        each (validator.checkField entity .includes) query.includes
        each (validator.checkField entity .excludes) query.excludes
        validator.checkOptional entity query.condition
        each (validator.checkOrderKey entity) query.order
        checkBound .limit query.limit
        checkBound .skip query.skip) := by
  obtain ⟨includes, excludes, condition, order, limit, skip⟩ := query
  cases condition <;> rfl

/-- All parts of the query are accepted. -/
structure Accepts (query : Query) : Prop where
  includes : each (validator.checkField entity .includes) query.includes = .ok ()
  excludes : each (validator.checkField entity .excludes) query.excludes = .ok ()
  condition : validator.checkOptional entity query.condition = .ok ()
  order : each (validator.checkOrderKey entity) query.order = .ok ()
  limit : checkBound .limit query.limit = .ok ()
  skip : checkBound .skip query.skip = .ok ()

theorem accepts_of_checkQuery {query : Query}
    (passed : validator.checkQuery entity query = .ok ()) : validator.Accepts entity query := by
  rw [checkQuery_eq] at passed
  split at passed
  · cases passed
  · simp only [bind_eq_ok] at passed
    obtain ⟨_, includes, _, excludes, _, condition, _, order, _, limit, skip⟩ := passed
    exact ⟨includes, excludes, condition, order, limit, skip⟩

end Validator

end RecordQuery
