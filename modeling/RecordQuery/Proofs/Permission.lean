import RecordQuery.Proofs.Checking
import RecordQuery.Proofs.Declared
import RecordQuery.Proofs.Operands
import RecordQuery.Proofs.Tree

/-!
# Permitted comparisons

What an accepted query hands to a backend is permitted: neither the settings nor the field that the
reference selects refuse the comparison, and a pattern holds letters and digits only.
-/

namespace RecordQuery

/-! ### Recording what a backend is handed -/

/-- The backend that also keeps the comparisons that it is handed, in their order. -/
def Backend.recording {Emitted Order Fields : Type} (backend : Backend Emitted Order Fields) :
    Backend (Emitted × List Leaf) Order Fields where
  name := backend.name
  supports := backend.supports
  checkPath := backend.checkPath
  compare path comparison operand :=
    (backend.compare path comparison operand).map (·, [⟨path, comparison, operand⟩])
  join connective parts := (backend.join connective (parts.map (·.1)), parts.flatMap (·.2))
  order := backend.order
  project := backend.project

namespace Plan

variable {Emitted Order Fields : Type}

/-- The plan without the record. -/
def unrecorded (plan : Plan (Emitted × List Leaf) Order Fields) : Plan Emitted Order Fields :=
  { plan with filter := plan.filter.map (·.1) }

/-- The comparisons that the backend was handed. -/
def handed (plan : Plan (Emitted × List Leaf) Order Fields) : List Leaf :=
  (plan.filter.map (·.2)).getD []

end Plan

/-- The comparisons of a query in their order. -/
def Query.comparisons (query : Query) : List RawComparison :=
  (query.condition.map Condition.comparisons).getD []

namespace Planner

variable {Emitted Order Fields : Type} (planner : Planner Emitted Order Fields)

/-- The planner that keeps what it hands to the backend. -/
def recording : Planner (Emitted × List Leaf) Order Fields :=
  ⟨planner.schema, planner.settings, planner.backend.recording⟩

theorem recording_emitLeaf {leaf : Leaf} {emitted : Emitted}
    (emission : planner.emitLeaf leaf = .ok emitted) :
    planner.recording.emitLeaf leaf = .ok (emitted, [leaf]) := by
  simp only [emitLeaf, emit, bind_eq_ok] at emission ⊢
  obtain ⟨_, addressed, emission⟩ := emission
  refine ⟨(), addressed, ?_⟩
  split at emission
  next supported =>
    have supported : planner.recording.backend.supports leaf.comparison = true := supported
    rw [if_pos supported]
    exact map_eq_ok.mpr ⟨emitted, emission, rfl⟩
  next => cases emission

mutual

/-- What is kept of a tree is its comparisons. -/
theorem recording_emitTree (planner : Planner Emitted Order Fields) :
    ∀ (tree : Tree) {emitted : Emitted}, planner.emitTree tree = .ok emitted →
      planner.recording.emitTree tree = .ok (emitted, tree.leaves)
  | .comparison leaf, emitted, emission => planner.recording_emitLeaf emission
  | .joined connective trees, emitted, emission => by
    -- Joining joins what was kept of the parts too.
    obtain ⟨parts, emissions, rfl⟩ := planner.emitTree_joined_eq_ok.mp emission
    obtain ⟨recorded, recordings, rfl, leaves⟩ := recording_emitTrees planner trees emissions
    refine planner.recording.emitTree_joined_eq_ok.mpr ⟨recorded, recordings, ?_⟩
    exact Prod.ext rfl leaves

theorem recording_emitTrees (planner : Planner Emitted Order Fields) :
    ∀ (trees : List Tree) {parts : List Emitted}, planner.emitTrees trees = .ok parts →
      ∃ recorded, planner.recording.emitTrees trees = .ok recorded ∧
        recorded.map (·.1) = parts ∧ recorded.flatMap (·.2) = Tree.leavesOf trees
  | [], parts, emission => by
    cases emission
    exact ⟨[], rfl, rfl, rfl⟩
  | tree :: rest, parts, emission => by
    obtain ⟨part, others, first, later, rfl⟩ := planner.emitTrees_cons_eq_ok.mp emission
    have first := recording_emitTree planner tree first
    obtain ⟨recorded, recordings, rfl, leaves⟩ := recording_emitTrees planner rest later
    refine ⟨(part, tree.leaves) :: recorded, ?_, rfl, ?_⟩
    · exact planner.recording.emitTrees_cons_eq_ok.mpr ⟨_, _, first, recordings, rfl⟩
    · rw [List.flatMap_cons, leaves, Tree.leavesOf]

end

/-- Planning a condition hands each of its comparisons over once, as it was read. -/
theorem recording_planCondition {entity : Entity} {condition : Condition} {emitted : Emitted}
    (planned : planner.planCondition entity condition = .ok emitted) :
    ∃ leaves, planner.recording.planCondition entity condition = .ok (emitted, leaves) ∧
      List.Forall₂ (planner.Reads entity) condition.comparisons leaves := by
  obtain ⟨tree, resolves, emission⟩ :=
    (planner.planCondition_eq_ok entity condition emitted).mp planned
  refine ⟨tree.leaves, ?_, planner.leaves_of_planCondition entity condition tree resolves⟩
  exact (planner.recording.planCondition_eq_ok entity condition _).mpr
    ⟨tree, resolves, planner.recording_emitTree tree emission⟩

theorem recording_planOptional {entity : Entity} {condition : Option Condition}
    {filter : Option Emitted} (planned : planner.planOptional entity condition = .ok filter) :
    ∃ recorded, planner.recording.planOptional entity condition = .ok recorded ∧
      recorded.map (·.1) = filter ∧
        List.Forall₂ (planner.Reads entity) ((condition.map Condition.comparisons).getD [])
          ((recorded.map (·.2)).getD []) := by
  cases condition with
  | none =>
    cases planned
    exact ⟨none, rfl, rfl, .nil⟩
  | some condition =>
    obtain ⟨emitted, emission, rfl⟩ := map_eq_ok.mp planned
    obtain ⟨leaves, recorded, read⟩ := planner.recording_planCondition emission
    exact ⟨some (emitted, leaves), map_eq_ok.mpr ⟨_, recorded, rfl⟩, rfl, read⟩

theorem recording_planEntity {entity : Entity} {query : Query} {plan : Plan Emitted Order Fields}
    (planned : planner.planEntity entity query = .ok plan) :
    ∃ recorded, planner.recording.planEntity entity query = .ok recorded ∧
      recorded.unrecorded = plan ∧
        List.Forall₂ (planner.Reads entity) query.comparisons recorded.handed := by
  simp only [planEntity_eq, bind_eq_ok, pure_eq_ok] at planned
  obtain ⟨filter, conditional, keys, sorted, projection, projected, limit, limited, skip, skipped,
    rfl⟩ := planned
  obtain ⟨recorded, recording, rfl, read⟩ := planner.recording_planOptional conditional
  refine ⟨⟨recorded, _, _, limit, skip⟩, ?_, rfl, read⟩
  simp only [planEntity_eq, bind_eq_ok, pure_eq_ok]
  exact ⟨recorded, recording, keys, sorted, projection, projected, limit, limited, skip, skipped,
    rfl⟩

end Planner

/-! ### Accepted comparisons -/

namespace Validator

variable (validator : Validator) (entity : Entity)

/-- The comparison is accepted. -/
def AcceptsComparison (raw : RawComparison) : Prop :=
  validator.checkComparison entity raw.field raw.operator raw.value = .ok ()

mutual

/-- An accepted condition has accepted comparisons. -/
theorem comparisons_of_checkCondition (validator : Validator) (entity : Entity) :
    ∀ (condition : Condition) (depth : Nat),
      validator.checkCondition entity depth condition = .ok () →
        ∀ raw ∈ condition.comparisons, validator.AcceptsComparison entity raw
  | ⟨some field, operator, value, values, none⟩, depth, passed => by
    obtain ⟨_, allowed⟩ := (validator.checkCondition_field_eq_ok entity).mp passed
    intro raw member
    simp only [Condition.comparisons, List.mem_singleton] at member
    exact member ▸ allowed
  | ⟨none, operator, value, values, some groups⟩, depth, passed => by
    obtain ⟨_, _, _, inside⟩ := (validator.checkCondition_groups_eq_ok entity).mp passed
    exact comparisons_of_checkGroups validator entity groups (depth + 1) inside
  | ⟨none, operator, value, values, none⟩, depth, passed => by
    intro raw member
    cases member
  | ⟨some field, operator, value, values, some groups⟩, depth, passed => by
    simp [checkCondition] at passed

theorem comparisons_of_checkGroups (validator : Validator) (entity : Entity) :
    ∀ (groups : List (Option Group)) (depth : Nat),
      validator.checkGroups entity depth groups = .ok () →
        ∀ raw ∈ Condition.comparisonsOfGroups groups, validator.AcceptsComparison entity raw
  | [], depth, passed => by
    intro raw member
    cases member
  | none :: rest, depth, passed => by cases passed
  | some ⟨operator, members⟩ :: rest, depth, passed => by
    simp only [checkGroups, bind_eq_ok] at passed
    obtain ⟨_, _, passed⟩ := passed
    split at passed
    · cases passed
    · obtain ⟨_, passed, further⟩ := bind_eq_ok.mp passed
      intro raw member
      rcases List.mem_append.mp member with here | later
      · exact comparisons_of_checkMembers validator entity members depth passed raw here
      · exact comparisons_of_checkGroups validator entity rest depth further raw later

theorem comparisons_of_checkMembers (validator : Validator) (entity : Entity) :
    ∀ (members : List (Option Condition)) (depth : Nat),
      validator.checkMembers entity depth members = .ok () →
        ∀ raw ∈ Condition.comparisonsOfMembers members, validator.AcceptsComparison entity raw
  | [], depth, passed => by
    intro raw member
    cases member
  | none :: rest, depth, passed => by cases passed
  | some condition :: rest, depth, passed => by
    simp only [checkMembers, bind_eq_ok] at passed
    obtain ⟨_, passed, further⟩ := passed
    intro raw member
    rcases List.mem_append.mp member with here | later
    · exact comparisons_of_checkCondition validator entity condition depth passed raw here
    · exact comparisons_of_checkMembers validator entity rest depth further raw later

end

theorem comparisons_of_validateQuery {name : String} {query : Query}
    (known : validator.schema.entity? name = some entity)
    (passed : validator.validateQuery name query = .ok ()) :
    ∀ raw ∈ query.comparisons, validator.AcceptsComparison entity raw := by
  simp only [validateQuery, Validator.entity, known, bind_eq_ok, Except.ok.injEq] at passed
  obtain ⟨_, rfl, passed⟩ := passed
  have conditional := (validator.accepts_of_checkQuery _ passed).condition
  unfold Query.comparisons
  cases given : query.condition with
  | none => simp
  | some condition =>
    rw [given] at conditional
    exact comparisons_of_checkCondition validator _ condition 1 conditional

end Validator

/-! ### Policies of selected fields -/

/-- No entity declares two fields of one name. -/
def Schema.DistinctNames (schema : Schema) : Prop :=
  ∀ entity ∈ schema.entities.values, (entity.fields.map Field.name).Nodup

/-- Where names are distinct, a declared field is the one of its name. -/
theorem Entity.field?_of_mem {entity : Entity} (distinct : (entity.fields.map Field.name).Nodup)
    {field : Field} (member : field ∈ entity.fields) : entity.field? field.name = some field := by
  obtain ⟨name, identity, fields, denied⟩ := entity
  unfold Entity.field?
  induction fields with
  | nil => cases member
  | cons first rest ih =>
    obtain ⟨new, others⟩ := List.nodup_cons.mp distinct
    rcases List.mem_cons.mp member with rfl | later
    · exact List.find?_cons_of_pos (by simp)
    · -- The first field has another name, so the search passes it.
      have different : first.name ≠ field.name := fun same =>
        new (same ▸ List.mem_map_of_mem later)
      rw [List.find?_cons_of_neg (by simpa using different)]
      exact ih others later

/-- Where names are distinct, declared fields of one name are one field. -/
theorem Entity.eq_of_name_eq {entity : Entity} (distinct : (entity.fields.map Field.name).Nodup)
    {field field' : Field} (member : field ∈ entity.fields) (member' : field' ∈ entity.fields)
    (same : field.name = field'.name) : field = field' := by
  have found := field?_of_mem distinct member
  rw [same, field?_of_mem distinct member'] at found
  exact (Option.some.inj found).symm

/-- The field at the end of some declared names. -/
def Schema.fieldAt? (schema : Schema) : Entity → List String → Option Field
  | _, [] => none
  | entity, [name] => entity.field? name
  | entity, name :: next :: more =>
    match (entity.field? name).bind schema.embeddedEntity? with
    | none => none
    | some child => schema.fieldAt? child (next :: more)

/-- The comparisons that are refused at some declared names are those that the field at their end
disallows. -/
theorem refusesAt_eq_any (schema : Schema) (comparison : Comparison) (entity : Entity)
    (names : List String) :
    Validator.refusesAt schema comparison entity names =
      (schema.fieldAt? entity names).any (·.disallows comparison) := by
  fun_induction Validator.refusesAt schema comparison entity names with
  | case1 => rfl
  | case2 => rfl
  | case3 entity name next more ends => simp [Schema.fieldAt?, ends]
  | case4 entity name next more child embedded ih => simp [Schema.fieldAt?, embedded, ih]

/-- The walk by declared names ends at the field that the reference selects. -/
theorem fieldAt?_of_leadsTo {schema : Schema} (distinct : schema.DistinctNames) {entity : Entity}
    (member : entity ∈ schema.entities.values) {before : List Field} {last : Field}
    (walk : schema.LeadsTo entity before last) :
    schema.fieldAt? entity ((before ++ [last]).map Field.name) = some last := by
  -- At each entity the declared name finds the field that the reference selected.
  induction before generalizing entity with
  | nil => exact Entity.field?_of_mem (distinct entity member) walk
  | cons first rest ih =>
    obtain ⟨declared, child, embedded, further⟩ := walk
    have found := Entity.field?_of_mem (distinct entity member) declared
    have below := ih (Schema.mem_of_embeddedEntity? embedded) further
    obtain ⟨next, more, names⟩ : ∃ next more, (rest ++ [last]).map Field.name = next :: more :=
      List.exists_cons_of_ne_nil (by simp)
    rw [names] at below
    rw [List.cons_append, List.map_cons, names, Schema.fieldAt?, found, Option.bind_some,
      embedded]
    exact below

/-- The declared names of a reference lead to the field that it selects. -/
theorem Resolver.fieldAt?_of_fields (resolver : Resolver)
    (distinct : resolver.schema.DistinctNames) {entity : Entity}
    (member : entity ∈ resolver.schema.entities.values) {field : String} {fields : Chain Field}
    (selected : resolver.fields entity field = .ok (some fields)) :
    resolver.schema.fieldAt? entity (Path.names (fields.map Field.segment)) =
      some fields.last := by
  rw [Path.names_segments]
  exact fieldAt?_of_leadsTo distinct member (resolver.leadsTo_of_search selected)

/-- The policy of the declared names of a reference is that of the field that it selects. -/
theorem Resolver.refusesAt_of_fields (resolver : Resolver)
    (distinct : resolver.schema.DistinctNames) {entity : Entity}
    (member : entity ∈ resolver.schema.entities.values) {field : String} {fields : Chain Field}
    (selected : resolver.fields entity field = .ok (some fields)) (comparison : Comparison) :
    Validator.refusesAt resolver.schema comparison entity
        (Path.names (fields.map Field.segment)) =
      fields.last.disallows comparison := by
  rw [refusesAt_eq_any, resolver.fieldAt?_of_fields distinct member selected, Option.any_some]

namespace Planner

variable {Emitted Order Fields : Type} (planner : Planner Emitted Order Fields)

/-- The settings do not refuse the comparison, the field that its reference selects does not refuse
it, and its pattern, if it has one, holds letters and digits only. -/
structure Permits (entity : Entity) (raw : RawComparison) (leaf : Leaf) : Prop where
  enabled : planner.settings.disables leaf.comparison = false
  allowed : ∃ fields, planner.resolver.fields entity raw.field = .ok (some fields) ∧
    leaf.path = fields.map Field.segment ∧ fields.last.disallows leaf.comparison = false
  plain : ∀ text, leaf.operand = .pattern text → Text.lettersAndDigits text.toList = true

theorem permits_of_reads (distinct : planner.schema.DistinctNames) {entity : Entity}
    (member : entity ∈ planner.schema.entities.values) {raw : RawComparison} {leaf : Leaf}
    (accepted : planner.validator.AcceptsComparison entity raw)
    (reads : planner.Reads entity raw leaf) : planner.Permits entity raw leaf := by
  obtain ⟨path, comparison, resolved, spelled, ⟨enabled, allowed⟩, letters⟩ :=
    (planner.validator.checkComparison_eq_ok entity).mp accepted
  -- The check and the planner read the reference and the operator alike.
  have spelled : Planner.comparison raw.field raw.operator = .ok comparison :=
    Planner.comparison_eq_ok.mpr spelled
  cases Except.ok.inj (spelled.symm.trans reads.comparison)
  cases Except.ok.inj (resolved.symm.trans reads.path)
  obtain ⟨fields, selected, same⟩ := planner.resolver.resolve_eq_some.mp reads.path
  have policy := planner.resolver.refusesAt_of_fields distinct member selected leaf.comparison
  refine ⟨enabled, ⟨fields, selected, same, ?_⟩, fun text pattern => ?_⟩
  · rw [same] at allowed
    exact policy.symm.trans allowed
  · have typed := typed_of_operand reads.operand
    obtain ⟨literal, given, rfl⟩ := typed.pattern text pattern
    have isPattern : leaf.comparison.isPattern = true := by
      simpa [pattern, Operand.fits] using typed.fits
    exact letters isPattern literal given

/-- If a checked query has a plan, the backend was handed nothing but the comparisons of the query,
and each of them is permitted. -/
theorem handed_comparisons_permitted {name : String} {query : Query}
    {plan : Plan Emitted Order Fields} (distinct : planner.schema.DistinctNames)
    (planned : planner.planChecked name query = .ok plan) :
    ∃ entity recorded, planner.schema.entity? name = some entity ∧
      planner.recording.planChecked name query = .ok recorded ∧ recorded.unrecorded = plan ∧
        List.Forall₂ (planner.Permits entity) query.comparisons recorded.handed := by
  obtain ⟨passed, planned⟩ := planner.planChecked_eq_ok.mp planned
  simp only [planQuery, bind_eq_ok, entity_eq_ok] at planned
  obtain ⟨entity, known, planned⟩ := planned
  have member : entity ∈ planner.schema.entities.values := Schema.mem_of_entity? known
  obtain ⟨recorded, recording, same, read⟩ := planner.recording_planEntity planned
  refine ⟨entity, recorded, known, ?_, same, ?_⟩
  · refine planner.recording.planChecked_eq_ok.mpr ⟨passed, ?_⟩
    simp only [planQuery, bind_eq_ok, entity_eq_ok]
    exact ⟨entity, known, recording⟩
  · have accepted := planner.validator.comparisons_of_validateQuery entity known passed
    exact ((List.forall₂_and_left _ _).mpr ⟨accepted, read⟩).imp fun _ _ both =>
      planner.permits_of_reads distinct member both.1 both.2

end Planner

/-! ### A query by aliases -/

namespace Sample

/-- Posts of users, who have friends. Names of users are not searched for a text inside. -/
def forum : Schema :=
  .ofEntities 1
    [{ name := "User", identity := "Name",
       fields :=
         [.denyComparisons [.contains] { name := "Name", type := .scalar .string },
          .optional "Friend" (.optionalEmbedded "User")] },
     { name := "Post", identity := "Title",
       fields :=
         [{ name := "Title", aliasName := some "heading", type := .scalar .string },
          { name := "Author", type := .embedded "User" }] }]

/-- The posts about a topic whose author has a friend of some name. -/
def aboutTopic : Query where
  condition := some (.grouped [.all
    [.compared "HEADING" "contains" (.string "Lean4"),
     .compared "author.friend.NAME" "startswith" (.string "Ada")]])

theorem forum_distinct : forum.DistinctNames := by
  unfold Schema.DistinctNames
  decide

theorem aboutTopic_permitted :
    ∃ plan, (Planner.forTables forum {}).planChecked "post" aboutTopic = .ok plan ∧
      ∃ entity recorded, forum.entity? "post" = some entity ∧
        (Planner.forTables forum {}).recording.planChecked "post" aboutTopic = .ok recorded ∧
          recorded.unrecorded = plan ∧
            List.Forall₂ ((Planner.forTables forum {}).Permits entity) aboutTopic.comparisons
              recorded.handed := by
  refine ⟨_, rfl, ?_⟩
  exact (Planner.forTables forum {}).handed_comparisons_permitted forum_distinct rfl

end Sample

end RecordQuery
