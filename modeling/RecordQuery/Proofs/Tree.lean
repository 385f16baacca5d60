import RecordQuery.Proofs.Operands

/-!
# Resolved condition trees

What the planner makes of a condition before a backend gives it a form: every reference is a path,
every operator is known and every literal has a type. A plan's condition is what a backend emits
for such a tree, and the tree does not depend on the backend.
-/

namespace RecordQuery

/-- A condition that is resolved and typed. -/
inductive Tree where
  | comparison (leaf : Leaf)
  | joined (connective : Connective) (parts : List Tree)

namespace Tree

/-- The backend that leaves everything as it is given. -/
def backend : Backend Tree (List SortKey) Projection where
  name := "tree"
  supports _ := true
  checkPath _ := .ok ()
  compare path comparison operand := .ok (.comparison ⟨path, comparison, operand⟩)
  join := .joined
  order := id
  project := id

mutual

/-- The comparisons of a tree in their order. -/
def leaves : Tree → List Leaf
  | .comparison leaf => [leaf]
  | .joined _ parts => leavesOf parts

def leavesOf : List Tree → List Leaf
  | [] => []
  | part :: rest => part.leaves ++ leavesOf rest

end

end Tree

namespace Condition

mutual

/-- The comparisons of a condition in their order. -/
def comparisons : Condition → List RawComparison
  | ⟨field, operator, value, values, groups⟩ =>
    match field, groups with
    | some field, _ => [⟨field, operator, value, values⟩]
    | none, some groups => comparisonsOfGroups groups
    | none, none => []

def comparisonsOfGroups : List (Option Group) → List RawComparison
  | [] => []
  | none :: rest => comparisonsOfGroups rest
  | some ⟨_, members⟩ :: rest => comparisonsOfMembers members ++ comparisonsOfGroups rest

def comparisonsOfMembers : List (Option Condition) → List RawComparison
  | [] => []
  | none :: rest => comparisonsOfMembers rest
  | some condition :: rest => condition.comparisons ++ comparisonsOfMembers rest

end

end Condition

namespace Planner

variable {Emitted Order Fields : Type} (planner : Planner Emitted Order Fields) (entity : Entity)

/-- The planner of the same requests that makes trees. -/
def resolved : Planner Tree (List SortKey) Projection :=
  ⟨planner.schema, planner.settings, Tree.backend⟩

mutual

/-- What the backend emits for a tree. -/
def emitTree (planner : Planner Emitted Order Fields) : Tree → Except PlanFault Emitted
  | .comparison leaf => planner.emitLeaf leaf
  | .joined connective parts => do
    let parts ← emitTrees planner parts
    pure (planner.backend.join connective parts)

def emitTrees (planner : Planner Emitted Order Fields) :
    List Tree → Except PlanFault (List Emitted)
  | [] => .ok []
  | part :: rest => do
    let part ← emitTree planner part
    let rest ← emitTrees planner rest
    pure (part :: rest)

end

theorem emitTree_joined_eq_ok {connective : Connective} {trees : List Tree} {emitted : Emitted} :
    planner.emitTree (.joined connective trees) = .ok emitted ↔
      ∃ parts, planner.emitTrees trees = .ok parts ∧
        planner.backend.join connective parts = emitted := by
  simp only [emitTree, bind_eq_ok, pure_eq_ok]

theorem emitTrees_cons_eq_ok {tree : Tree} {rest : List Tree} {emitted : List Emitted} :
    planner.emitTrees (tree :: rest) = .ok emitted ↔
      ∃ part others, planner.emitTree tree = .ok part ∧ planner.emitTrees rest = .ok others ∧
        part :: others = emitted := by
  simp only [emitTrees, bind_eq_ok, pure_eq_ok]
  constructor
  · rintro ⟨part, first, others, later, joins⟩
    exact ⟨part, others, first, later, joins⟩
  · rintro ⟨part, others, first, later, joins⟩
    exact ⟨part, first, others, later, joins⟩

theorem nil_iff_of_emitTrees {trees : List Tree} {parts : List Emitted}
    (emission : planner.emitTrees trees = .ok parts) : parts = [] ↔ trees = [] := by
  cases trees with
  | nil => cases emission; simp
  | cons tree rest =>
    obtain ⟨part, others, _, _, rfl⟩ := planner.emitTrees_cons_eq_ok.mp emission
    simp

/-- Reading a comparison does not depend on the backend. -/
theorem resolved_reads {raw : RawComparison} {leaf : Leaf} :
    planner.resolved.Reads entity raw leaf ↔ planner.Reads entity raw leaf :=
  ⟨fun ⟨comparison, path, operand⟩ => ⟨comparison, path, operand⟩,
    fun ⟨comparison, path, operand⟩ => ⟨comparison, path, operand⟩⟩

mutual

/-- A condition is planned by resolving it to a tree and emitting the tree. -/
theorem planCondition_eq_ok (planner : Planner Emitted Order Fields) (entity : Entity) :
    ∀ (condition : Condition) (emitted : Emitted),
      planner.planCondition entity condition = .ok emitted ↔
        ∃ tree, planner.resolved.planCondition entity condition = .ok tree ∧
          planner.emitTree tree = .ok emitted
  | ⟨some field, operator, value, values, none⟩, emitted => by
    let raw : RawComparison := ⟨field, operator, value, values⟩
    rw [planner.planCondition_field_eq_ok entity raw]
    constructor
    · rintro ⟨leaf, reads, emission⟩
      refine ⟨.comparison leaf, ?_, emission⟩
      exact (planner.resolved.planCondition_field_eq_ok entity raw).mpr
        ⟨leaf, (planner.resolved_reads entity).mpr reads, rfl⟩
    · rintro ⟨tree, resolves, emission⟩
      obtain ⟨leaf, reads, same⟩ :=
        (planner.resolved.planCondition_field_eq_ok entity raw).mp resolves
      cases same
      exact ⟨leaf, (planner.resolved_reads entity).mp reads, emission⟩
  | ⟨none, operator, value, values, some groups⟩, emitted => by
    simp only [planCondition_groups_eq_ok, planGroups_eq_ok planner entity groups]
    -- Trees and what is emitted for them run out together, so both walks refuse empty lists.
    constructor
    · rintro ⟨parts, ⟨trees, resolves, emission⟩, filled, rfl⟩
      have some_tree := mt (planner.nil_iff_of_emitTrees emission).mpr filled
      exact ⟨.joined .conjunction trees, ⟨trees, resolves, some_tree, rfl⟩,
        planner.emitTree_joined_eq_ok.mpr ⟨parts, emission, rfl⟩⟩
    · rintro ⟨_, ⟨trees, resolves, filled, rfl⟩, emitted⟩
      obtain ⟨parts, emission, rfl⟩ := planner.emitTree_joined_eq_ok.mp emitted
      have some_part := mt (planner.nil_iff_of_emitTrees emission).mp filled
      exact ⟨parts, ⟨trees, resolves, emission⟩, some_part, rfl⟩
  | ⟨none, operator, value, values, none⟩, emitted => by simp [planCondition]
  | ⟨some field, operator, value, values, some groups⟩, emitted => by simp [planCondition]

theorem planGroups_eq_ok (planner : Planner Emitted Order Fields) (entity : Entity) :
    ∀ (groups : List (Option Group)) (parts : List Emitted),
      planner.planGroups entity groups = .ok parts ↔
        ∃ trees, planner.resolved.planGroups entity groups = .ok trees ∧
          planner.emitTrees trees = .ok parts
  | [], parts => by simp [planGroups, emitTrees]
  | none :: _, parts => by simp [planGroups]
  | some ⟨operator, members⟩ :: rest, parts => by
    -- The members of the first group make one tree, the groups behind it the others.
    simp only [planGroups_cons_eq_ok, planMembers_eq_ok planner entity members,
      planGroups_eq_ok planner entity rest]
    constructor
    · rintro ⟨joint, first, others, spelled, ⟨trees, resolves, emission⟩, filled,
        ⟨later, resolvesLater, emissionLater⟩, rfl⟩
      have some_tree := mt (planner.nil_iff_of_emitTrees emission).mpr filled
      refine ⟨.joined joint trees :: later,
        ⟨joint, trees, later, spelled, resolves, some_tree, resolvesLater, rfl⟩, ?_⟩
      exact planner.emitTrees_cons_eq_ok.mpr ⟨_, others,
        planner.emitTree_joined_eq_ok.mpr ⟨first, emission, rfl⟩, emissionLater, rfl⟩
    · rintro ⟨_, ⟨joint, trees, later, spelled, resolves, filled, resolvesLater, rfl⟩, emitted⟩
      obtain ⟨_, others, emissionFirst, emissionLater, rfl⟩ :=
        planner.emitTrees_cons_eq_ok.mp emitted
      obtain ⟨first, emission, rfl⟩ := planner.emitTree_joined_eq_ok.mp emissionFirst
      have some_part := mt (planner.nil_iff_of_emitTrees emission).mp filled
      exact ⟨joint, first, others, spelled, ⟨trees, resolves, emission⟩, some_part,
        ⟨later, resolvesLater, emissionLater⟩, rfl⟩

theorem planMembers_eq_ok (planner : Planner Emitted Order Fields) (entity : Entity) :
    ∀ (members : List (Option Condition)) (parts : List Emitted),
      planner.planMembers entity members = .ok parts ↔
        ∃ trees, planner.resolved.planMembers entity members = .ok trees ∧
          planner.emitTrees trees = .ok parts
  | [], parts => by simp [planMembers, emitTrees]
  | none :: _, parts => by simp [planMembers]
  | some condition :: rest, parts => by
    simp only [planMembers_cons_eq_ok, planCondition_eq_ok planner entity condition,
      planMembers_eq_ok planner entity rest]
    constructor
    · rintro ⟨part, others, ⟨tree, resolves, emission⟩,
        ⟨later, resolvesLater, emissionLater⟩, rfl⟩
      exact ⟨tree :: later, ⟨tree, later, resolves, resolvesLater, rfl⟩,
        planner.emitTrees_cons_eq_ok.mpr ⟨part, others, emission, emissionLater, rfl⟩⟩
    · rintro ⟨_, ⟨tree, later, resolves, resolvesLater, rfl⟩, emitted⟩
      obtain ⟨part, others, emission, emissionLater, rfl⟩ :=
        planner.emitTrees_cons_eq_ok.mp emitted
      exact ⟨part, others, ⟨tree, resolves, emission⟩, ⟨later, resolvesLater, emissionLater⟩, rfl⟩

end

mutual

/-- The comparisons of a tree are those of the condition, each one read. -/
theorem leaves_of_planCondition (planner : Planner Emitted Order Fields) (entity : Entity) :
    ∀ (condition : Condition) (tree : Tree),
      planner.resolved.planCondition entity condition = .ok tree →
        List.Forall₂ (planner.Reads entity) condition.comparisons tree.leaves
  | ⟨some field, operator, value, values, none⟩, tree, planned => by
    obtain ⟨leaf, reads, same⟩ := (planner.resolved.planCondition_field_eq_ok entity
      ⟨field, operator, value, values⟩).mp planned
    cases same
    -- A comparison is the one leaf of its tree.
    exact .cons ((planner.resolved_reads entity).mp reads) .nil
  | ⟨none, operator, value, values, some groups⟩, tree, planned => by
    obtain ⟨trees, resolves, _, rfl⟩ :=
      (planner.resolved.planCondition_groups_eq_ok entity).mp planned
    exact leaves_of_planGroups planner entity groups trees resolves
  | ⟨none, operator, value, values, none⟩, tree, planned => by simp [planCondition] at planned
  | ⟨some field, operator, value, values, some groups⟩, tree, planned => by
    simp [planCondition] at planned

theorem leaves_of_planGroups (planner : Planner Emitted Order Fields) (entity : Entity) :
    ∀ (groups : List (Option Group)) (trees : List Tree),
      planner.resolved.planGroups entity groups = .ok trees →
        List.Forall₂ (planner.Reads entity) (Condition.comparisonsOfGroups groups)
          (Tree.leavesOf trees)
  | [], trees, planned => by
    simp only [planGroups, Except.ok.injEq] at planned
    subst planned
    exact .nil
  | none :: _, trees, planned => by simp [planGroups] at planned
  | some ⟨operator, members⟩ :: rest, trees, planned => by
    -- The comparisons of the groups follow one another, and so do the leaves of their trees.
    obtain ⟨joint, first, later, _, resolves, _, resolvesLater, rfl⟩ :=
      (planner.resolved.planGroups_cons_eq_ok entity).mp planned
    exact List.rel_append (leaves_of_planMembers planner entity members first resolves)
      (leaves_of_planGroups planner entity rest later resolvesLater)

theorem leaves_of_planMembers (planner : Planner Emitted Order Fields) (entity : Entity) :
    ∀ (members : List (Option Condition)) (trees : List Tree),
      planner.resolved.planMembers entity members = .ok trees →
        List.Forall₂ (planner.Reads entity) (Condition.comparisonsOfMembers members)
          (Tree.leavesOf trees)
  | [], trees, planned => by
    simp only [planMembers, Except.ok.injEq] at planned
    subst planned
    exact .nil
  | none :: _, trees, planned => by simp [planMembers] at planned
  | some condition :: rest, trees, planned => by
    obtain ⟨tree, later, resolves, resolvesLater, rfl⟩ :=
      (planner.resolved.planMembers_cons_eq_ok entity).mp planned
    exact List.rel_append (leaves_of_planCondition planner entity condition tree resolves)
      (leaves_of_planMembers planner entity rest later resolvesLater)

end

/-- Documents have a form for the values of a resolved condition. -/
theorem encode_ne_null_of_planCondition {condition : Condition} {tree : Tree}
    (planned : planner.resolved.planCondition entity condition = .ok tree) {leaf : Leaf}
    (place : leaf ∈ tree.leaves) {value : Value} (given : value ∈ leaf.operand.values) :
    FilterDocument.encode value ≠ .null := by
  have read := leaves_of_planCondition planner entity condition tree planned
  obtain ⟨raw, _, reads⟩ := exists_related read place
  obtain ⟨literal, converted⟩ := (typed_of_operand reads.operand).values value given
  exact FieldType.encode_ne_null_of_coerce converted

end Planner

end RecordQuery
