import RecordQuery.Proofs.Operands
import RecordQuery.Proofs.Tree

/-!
# Requests without their literals

Literals only fill in values. Requests that are equal once each literal is replaced by a blank are
resolved to trees that differ in their operands alone, and their plans differ in their conditions
alone.
-/

namespace RecordQuery

/-! ### Blank requests -/

def Literal.blank : Literal := .bool false

namespace Condition

mutual

/-- The condition with a blank for each literal. -/
def blanked : Condition → Condition
  | ⟨field, operator, value, values, none⟩ =>
    ⟨field, operator, value.map fun _ => .blank, values.map fun _ => .blank, none⟩
  | ⟨field, operator, value, values, some groups⟩ =>
    ⟨field, operator, value.map fun _ => .blank, values.map fun _ => .blank,
      some (blankedGroups groups)⟩

def blankedGroups : List (Option Group) → List (Option Group)
  | [] => []
  | none :: rest => none :: blankedGroups rest
  | some ⟨operator, members⟩ :: rest =>
    some ⟨operator, blankedMembers members⟩ :: blankedGroups rest

def blankedMembers : List (Option Condition) → List (Option Condition)
  | [] => []
  | none :: rest => none :: blankedMembers rest
  | some condition :: rest => some condition.blanked :: blankedMembers rest

end

theorem blanked_mk (field operator : Option String) (value : Option Literal)
    (values : List Literal) (groups : Option (List (Option Group))) :
    blanked ⟨field, operator, value, values, groups⟩ =
      ⟨field, operator, value.map fun _ => .blank, values.map fun _ => .blank,
        groups.map blankedGroups⟩ := by
  cases groups <;> rw [blanked] <;> rfl

/-- What equal blank conditions have in common at their roots. -/
theorem eq_of_blanked {field field' operator operator' : Option String}
    {value value' : Option Literal} {values values' : List Literal}
    {groups groups' : Option (List (Option Group))}
    (same : blanked ⟨field, operator, value, values, groups⟩ =
      blanked ⟨field', operator', value', values', groups'⟩) :
    field = field' ∧ operator = operator' ∧ value.isSome = value'.isSome ∧
      values.length = values'.length ∧ groups.map blankedGroups = groups'.map blankedGroups := by
  simp only [blanked_mk, Condition.mk.injEq] at same
  obtain ⟨sameField, sameOperator, sameValue, sameValues, sameGroups⟩ := same
  have given := congrArg Option.isSome sameValue
  have count := congrArg List.length sameValues
  rw [Option.isSome_map, Option.isSome_map] at given
  rw [List.length_map, List.length_map] at count
  exact ⟨sameField, sameOperator, given, count, sameGroups⟩

end Condition

/-- The query with a blank for each literal. -/
def Query.blanked (query : Query) : Query :=
  { query with condition := query.condition.map Condition.blanked }

/-! ### Blank trees -/

def Value.blank : Value := .bool false

namespace Operand

/-- The operand with a blank for each value and no text in a pattern. -/
def blanked : Operand → Operand
  | .null => .null
  | .single _ => .single .blank
  | .many values => .many (values.map fun _ => .blank)
  | .pattern _ => .pattern ""

/-- The blank operand of a comparison with or without a value and with some number of values. -/
def outline (comparison : Comparison) (given : Bool) (count : Nat) : Operand :=
  if comparison.isMembership then
    .many (List.replicate (if count = 0 then given.toNat else count) .blank)
  else if given then
    if comparison.isPattern then .pattern "" else .single .blank
  else .null

end Operand

def Leaf.blanked (leaf : Leaf) : Leaf := { leaf with operand := leaf.operand.blanked }

namespace Tree

mutual

/-- The tree with blank operands. -/
def blanked : Tree → Tree
  | .comparison leaf => .comparison leaf.blanked
  | .joined connective parts => .joined connective (blankedParts parts)

def blankedParts : List Tree → List Tree
  | [] => []
  | part :: rest => part.blanked :: blankedParts rest

end

end Tree

namespace Planner

/-- The literals of a comparison decide nothing but the values of its operand. -/
theorem blanked_of_operand {type : FieldType} {field : String} {comparison : Comparison}
    {value : Option Literal} {values : List Literal} {typed : Operand}
    (found : operand type field comparison value values = .ok typed) :
    typed.blanked = .outline comparison value.isSome values.length := by
  unfold operand at found
  unfold Operand.outline
  split at found
  next membership =>
    rw [if_pos membership]
    -- A set is the list of values, or the single value where the list is empty.
    split at found
    next =>
      cases found
      rfl
    next literal =>
      simp only [bind_eq_ok, pure_eq_ok] at found
      obtain ⟨single, _, rfl⟩ := found
      rfl
    next given_values _ not_missing not_single =>
      simp only [bind_eq_ok, coerced_eq_ok, pure_eq_ok] at found
      obtain ⟨singles, converted, rfl⟩ := found
      have counted := (mapM_eq_ok.mp converted).length_eq
      have filled : values.length ≠ 0 := by
        intro empty
        cases List.length_eq_zero_iff.mp empty
        cases value with
        | none => exact not_missing rfl rfl
        | some literal => exact not_single literal rfl rfl
      rw [if_neg filled, Operand.blanked, List.map_const', counted]
  next single =>
    rw [if_neg single]
    split at found
    next =>
      split at found
      next => cases found; rfl
      next => cases found
    next literal =>
      simp only [Option.isSome_some, if_true]
      split at found
      next pattern =>
        simp only [bind_eq_ok, pure_eq_ok] at found
        obtain ⟨text, _, rfl⟩ := found
        rw [if_pos pattern]
        rfl
      next pattern =>
        simp only [bind_eq_ok, pure_eq_ok] at found
        obtain ⟨value, _, rfl⟩ := found
        rw [if_neg pattern]
        rfl

/-- Comparisons that differ in literals alone are read as leaves that differ in operands alone. -/
theorem blanked_of_reads {Emitted Order Fields : Type} {planner : Planner Emitted Order Fields}
    {entity : Entity} {raw other : RawComparison} {leaf leaf' : Leaf}
    (reads : planner.Reads entity raw leaf) (reads' : planner.Reads entity other leaf')
    (field : raw.field = other.field) (operator : raw.operator = other.operator)
    (given : raw.value.isSome = other.value.isSome)
    (count : raw.values.length = other.values.length) : leaf.blanked = leaf'.blanked := by
  obtain ⟨comparison, path, operand⟩ := reads
  obtain ⟨comparison', path', operand'⟩ := reads'
  rw [field, operator] at comparison
  rw [field] at path
  have sameComparison := Except.ok.inj (comparison.symm.trans comparison')
  have samePath := Option.some.inj (Except.ok.inj (path.symm.trans path'))
  have outlined := blanked_of_operand operand
  have outlined' := blanked_of_operand operand'
  rw [given, count, sameComparison] at outlined
  unfold Leaf.blanked
  rw [outlined, outlined', samePath, sameComparison]

-- The recursion is over the first condition. Equal blanks give the second one the same form, so
-- that both take the same steps.

mutual

/-- Conditions that differ in literals alone become trees that differ in operands alone. -/
theorem blanked_of_planCondition {Emitted Order Fields : Type}
    (planner : Planner Emitted Order Fields) (entity : Entity) :
    ∀ (first second : Condition) {tree tree' : Tree}, first.blanked = second.blanked →
      planner.resolved.planCondition entity first = .ok tree →
        planner.resolved.planCondition entity second = .ok tree' → tree.blanked = tree'.blanked
  | ⟨some field, operator, value, values, none⟩,
      ⟨field', operator', value', values', groups'⟩, tree, tree', same, planned, planned' => by
    obtain ⟨rfl, sameOperator, given, count, sameGroups⟩ := Condition.eq_of_blanked same
    cases groups' with
    | some _ => cases sameGroups
    | none =>
      obtain ⟨leaf, reads, emitted⟩ := (planner.resolved.planCondition_field_eq_ok entity
        ⟨field, operator, value, values⟩).mp planned
      obtain ⟨leaf', reads', emitted'⟩ := (planner.resolved.planCondition_field_eq_ok entity
        ⟨field, operator', value', values'⟩).mp planned'
      cases emitted
      cases emitted'
      have leaves := blanked_of_reads reads reads' rfl sameOperator given count
      rw [Tree.blanked, Tree.blanked, leaves]
  | ⟨none, operator, value, values, some groups⟩,
      ⟨field', operator', value', values', groups'⟩, tree, tree', same, planned, planned' => by
    obtain ⟨rfl, _, _, _, sameGroups⟩ := Condition.eq_of_blanked same
    cases groups' with
    | none => cases sameGroups
    | some groups' =>
      obtain ⟨trees, resolves, _, rfl⟩ :=
        (planner.resolved.planCondition_groups_eq_ok entity).mp planned
      obtain ⟨trees', resolves', _, rfl⟩ :=
        (planner.resolved.planCondition_groups_eq_ok entity).mp planned'
      have parts := blanked_of_planGroups planner entity groups groups'
        (Option.some.inj sameGroups) resolves resolves'
      exact congrArg (Tree.joined .conjunction) parts
  | ⟨none, operator, value, values, none⟩, second, tree, tree', same, planned, planned' => by
    simp [planCondition] at planned
  | ⟨some field, operator, value, values, some groups⟩, second, tree, tree', same, planned,
      planned' => by
    simp [planCondition] at planned

theorem blanked_of_planGroups {Emitted Order Fields : Type}
    (planner : Planner Emitted Order Fields) (entity : Entity) :
    ∀ (first second : List (Option Group)) {trees trees' : List Tree},
      Condition.blankedGroups first = Condition.blankedGroups second →
        planner.resolved.planGroups entity first = .ok trees →
          planner.resolved.planGroups entity second = .ok trees' →
            Tree.blankedParts trees = Tree.blankedParts trees'
  | [], [], trees, trees', same, planned, planned' => by
    cases planned
    cases planned'
    rfl
  | [], none :: _, trees, trees', same, planned, planned' => by
    simp [Condition.blankedGroups] at same
  | [], some ⟨_, _⟩ :: _, trees, trees', same, planned, planned' => by
    simp [Condition.blankedGroups] at same
  | none :: rest, second, trees, trees', same, planned, planned' => by
    simp [planGroups] at planned
  | some ⟨operator, members⟩ :: rest, [], trees, trees', same, planned, planned' => by
    simp [Condition.blankedGroups] at same
  | some ⟨operator, members⟩ :: rest, none :: _, trees, trees', same, planned, planned' => by
    simp [planGroups] at planned'
  | some ⟨operator, members⟩ :: rest, some ⟨operator', members'⟩ :: rest', trees, trees', same,
      planned, planned' => by
    simp only [Condition.blankedGroups, List.cons.injEq, Option.some.injEq,
      GroupOf.mk.injEq] at same
    obtain ⟨⟨rfl, sameMembers⟩, sameRest⟩ := same
    obtain ⟨joint, first, later, spelled, resolves, _, resolvesLater, rfl⟩ :=
      (planner.resolved.planGroups_cons_eq_ok entity).mp planned
    obtain ⟨joint', first', later', spelled', resolves', _, resolvesLater', rfl⟩ :=
      (planner.resolved.planGroups_cons_eq_ok entity).mp planned'
    -- The connective is read from the operator alone.
    cases spelled.symm.trans spelled'
    have parts := blanked_of_planMembers planner entity members members' sameMembers resolves
      resolves'
    have others := blanked_of_planGroups planner entity rest rest' sameRest resolvesLater
      resolvesLater'
    exact congrArg₂ List.cons (congrArg (Tree.joined joint) parts) others

theorem blanked_of_planMembers {Emitted Order Fields : Type}
    (planner : Planner Emitted Order Fields) (entity : Entity) :
    ∀ (first second : List (Option Condition)) {trees trees' : List Tree},
      Condition.blankedMembers first = Condition.blankedMembers second →
        planner.resolved.planMembers entity first = .ok trees →
          planner.resolved.planMembers entity second = .ok trees' →
            Tree.blankedParts trees = Tree.blankedParts trees'
  | [], [], trees, trees', same, planned, planned' => by
    cases planned
    cases planned'
    rfl
  | [], none :: _, trees, trees', same, planned, planned' => by
    simp [Condition.blankedMembers] at same
  | [], some _ :: _, trees, trees', same, planned, planned' => by
    simp [Condition.blankedMembers] at same
  | none :: rest, second, trees, trees', same, planned, planned' => by
    simp [planMembers] at planned
  | some condition :: rest, [], trees, trees', same, planned, planned' => by
    simp [Condition.blankedMembers] at same
  | some condition :: rest, none :: _, trees, trees', same, planned, planned' => by
    simp [planMembers] at planned'
  | some condition :: rest, some condition' :: rest', trees, trees', same, planned, planned' => by
    simp only [Condition.blankedMembers, List.cons.injEq, Option.some.injEq] at same
    obtain ⟨tree, later, resolves, resolvesLater, rfl⟩ :=
      (planner.resolved.planMembers_cons_eq_ok entity).mp planned
    obtain ⟨tree', later', resolves', resolvesLater', rfl⟩ :=
      (planner.resolved.planMembers_cons_eq_ok entity).mp planned'
    have part := blanked_of_planCondition planner entity condition condition' same.1 resolves
      resolves'
    have others := blanked_of_planMembers planner entity rest rest' same.2 resolvesLater
      resolvesLater'
    exact congrArg₂ List.cons part others

end

/-! ### Plans -/

end Planner

/-- Plans that differ at most in what a reading of their conditions leaves out. -/
structure Plan.Alike {Emitted Order Fields Reading : Type} (reading : Emitted → Reading)
    (first second : Plan Emitted Order Fields) : Prop where
  filter : Option.Rel (fun emitted emitted' => reading emitted = reading emitted') first.filter
    second.filter
  order : first.order = second.order
  fields : first.fields = second.fields
  limit : first.limit = second.limit
  skip : first.skip = second.skip

namespace Planner

variable {Emitted Order Fields Reading : Type} (planner : Planner Emitted Order Fields)

/-- A reading of conditions that literals do not change. -/
def Ignores (planner : Planner Emitted Order Fields) (reading : Emitted → Reading) : Prop :=
  ∀ {entity : Entity} {first second : Condition} {emitted emitted' : Emitted},
    first.blanked = second.blanked → planner.planCondition entity first = .ok emitted →
      planner.planCondition entity second = .ok emitted' → reading emitted = reading emitted'

theorem filter_of_planOptional {reading : Emitted → Reading} (ignores : planner.Ignores reading)
    {entity : Entity} {first second : Option Condition} {filter filter' : Option Emitted}
    (same : first.map Condition.blanked = second.map Condition.blanked)
    (planned : planner.planOptional entity first = .ok filter)
    (planned' : planner.planOptional entity second = .ok filter') :
    Option.Rel (fun emitted emitted' => reading emitted = reading emitted') filter filter' := by
  cases first with
  | none =>
    cases second with
    | none =>
      cases planned
      cases planned'
      exact .none
    | some _ => cases same
  | some condition =>
    cases second with
    | none => cases same
    | some condition' =>
      simp only [planOptional, map_eq_ok] at planned planned'
      obtain ⟨emitted, planned, rfl⟩ := planned
      obtain ⟨emitted', planned', rfl⟩ := planned'
      exact .some (ignores (Option.some.inj same) planned planned')

/-- Queries that differ in literals alone have plans that differ in their conditions alone. -/
theorem alike_of_planQuery {reading : Emitted → Reading} (ignores : planner.Ignores reading)
    {name : String} {first second : Query} {plan plan' : Plan Emitted Order Fields}
    (same : first.blanked = second.blanked) (planned : planner.planQuery name first = .ok plan)
    (planned' : planner.planQuery name second = .ok plan') : plan.Alike reading plan' := by
  obtain ⟨includes, excludes, condition, order, limit, skip⟩ := first
  obtain ⟨includes', excludes', condition', order', limit', skip'⟩ := second
  simp only [Query.blanked, Query.mk.injEq] at same
  obtain ⟨rfl, rfl, sameCondition, rfl, rfl, rfl⟩ := same
  simp only [planQuery, planEntity_eq, bind_eq_ok, pure_eq_ok] at planned planned'
  obtain ⟨entity, known, filter, filtered, keys, ordered, projection, projected, top, limited,
    start, skipped, rfl⟩ := planned
  obtain ⟨entity', known', filter', filtered', keys', ordered', projection', projected', top',
    limited', start', skipped', rfl⟩ := planned'
  -- All but the condition is planned by the same steps in both runs.
  cases known.symm.trans known'
  cases ordered.symm.trans ordered'
  cases projected.symm.trans projected'
  cases limited.symm.trans limited'
  cases skipped.symm.trans skipped'
  exact ⟨planner.filter_of_planOptional ignores sameCondition filtered filtered', rfl, rfl, rfl,
    rfl⟩

end Planner

end RecordQuery
