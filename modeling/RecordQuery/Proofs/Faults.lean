import RecordQuery.CommandLine.Run
import RecordQuery.Proofs.Operands

/-!
# Faults of accepted requests

The check of a request and the planner walk it separately. Whatever the planner finds wrong is a
literal that does not fit its field, a field that the backend cannot address, or something that the
check refuses too. No backend lacks a form for a comparison that the planner hands to it.
-/

namespace RecordQuery

/-- A literal does not fit its field. -/
def PlanFault.IsCoercion (fault : PlanFault) : Prop := ∃ cause, fault = .coercion cause

/-- A field is a collection, which tables do not hold. -/
def PlanFault.IsCollection (fault : PlanFault) : Prop :=
  ∃ field, fault = .collectionPath Sql.Relational.name field

/-- A check that has no result. -/
def Refuses {α : Type} (check : Except Violation α) : Prop := ∀ result, check ≠ .ok result

theorem refuses_error {α : Type} (violation : Violation) :
    Refuses (.error violation : Except Violation α) := by
  intro result passed
  cases passed

theorem Refuses.bind_left {α β : Type} {step : Except Violation α}
    {next : α → Except Violation β} (refused : Refuses step) : Refuses (step >>= next) := by
  intro result passed
  obtain ⟨value, first, _⟩ := bind_eq_ok.mp passed
  exact refused value first

theorem Refuses.bind_right {α β : Type} {step : Except Violation α}
    {next : α → Except Violation β} (refused : ∀ value, Refuses (next value)) :
    Refuses (step >>= next) := by
  intro result passed
  obtain ⟨value, _, second⟩ := bind_eq_ok.mp passed
  exact refused value result second

theorem refuses_each {α : Type} {check : α → Except Violation Unit} {values : List α} {value : α}
    (member : value ∈ values) (refused : Refuses (check value)) :
    Refuses (Validator.each check values) := by
  induction values with
  | nil => cases member
  | cons first rest ih =>
    unfold Validator.each
    rcases List.mem_cons.mp member with rfl | later
    · exact refused.bind_left
    · exact Refuses.bind_right fun _ => ih later

theorem refuses_of_known {validator : Validator} {name : String} {entity : Entity} {α : Type}
    {next : Entity → Except Violation α} (known : validator.schema.entity? name = some entity)
    (refused : Refuses (next entity)) : Refuses (validator.entity name >>= next) := by
  intro result passed
  obtain ⟨found, looked, passed⟩ := bind_eq_ok.mp passed
  simp only [Validator.entity, known, Except.ok.injEq] at looked
  subst looked
  exact refused result passed

namespace Planner

variable {Emitted Order Fields : Type} (planner : Planner Emitted Order Fields) (entity : Entity)

/-- The backend has a form for every operand that fits its comparison. -/
def Complete (planner : Planner Emitted Order Fields) : Prop :=
  ∀ path comparison operand, operand.fits comparison = true →
    ∃ emitted, planner.emit path comparison operand = .ok emitted

/-- A literal does not fit its field, or the backend cannot address a field. -/
def Unavoidable (planner : Planner Emitted Order Fields) (fault : PlanFault) : Prop :=
  fault.IsCoercion ∨ ∃ path, planner.backend.checkPath path = .error fault

/-- The check does not look for such a fault, or it refuses the request as well. -/
def Foreseen {α : Type} (planner : Planner Emitted Order Fields) (check : Except Violation α)
    (fault : PlanFault) : Prop :=
  planner.Unavoidable fault ∨ fault.isInternal = false ∧ Refuses check

theorem Foreseen.mono {planner : Planner Emitted Order Fields} {α β : Type}
    {check : Except Violation α} {whole : Except Violation β} {fault : PlanFault}
    (foreseen : planner.Foreseen check fault) (part : Refuses check → Refuses whole) :
    planner.Foreseen whole fault :=
  foreseen.imp_right (And.imp_right part)

/-! ### Names and operators -/

theorem foreseen_of_entity {name : String} {fault : PlanFault}
    (failed : planner.entity name = .error fault) :
    planner.Foreseen (planner.validator.entity name) fault := by
  unfold Planner.entity at failed
  split at failed
  next => cases failed
  next unknown =>
    cases failed
    refine .inr ⟨rfl, ?_⟩
    simp only [Validator.entity, validator, unknown]
    exact refuses_error _

theorem foreseen_of_resolve {location : Location} {field : String} {fault : PlanFault}
    (failed : planner.resolve entity field = .error fault) :
    planner.Foreseen (planner.validator.resolve entity location field) fault := by
  unfold Planner.resolve at failed
  unfold Validator.resolve
  have same : planner.validator.resolver = planner.resolver := rfl
  rw [same]
  generalize planner.resolver.resolve entity field = outcome at failed ⊢
  rcases outcome with invalid | _ | path
  · cases failed
    exact .inr ⟨rfl, refuses_error _⟩
  · cases failed
    exact .inr ⟨rfl, refuses_error _⟩
  · simp only [bind_eq_error, pure_ne_error, and_false, exists_false, or_false] at failed
    exact .inl (.inr ⟨path, failed⟩)

theorem foreseen_of_checkField {location : Location} {field : String} {fault : PlanFault}
    (failed : planner.resolve entity field = .error fault) :
    planner.Foreseen (planner.validator.checkField entity location field) fault :=
  (planner.foreseen_of_resolve entity failed).mono Refuses.bind_left

theorem foreseen_of_comparison {field : String} {operator : Option String} {fault : PlanFault}
    (failed : comparison field operator = .error fault) :
    planner.Foreseen (Validator.comparison field operator) fault := by
  unfold comparison at failed
  unfold Validator.comparison
  cases operator with
  | none =>
    cases failed
    exact .inr ⟨rfl, refuses_error _⟩
  | some spelling =>
    cases known : Comparison.ofSpelling? spelling with
    | none =>
      simp only [known] at failed ⊢
      cases failed
      exact .inr ⟨rfl, refuses_error _⟩
    | some comparison =>
      simp only [known] at failed
      cases failed

theorem foreseen_of_connective {operator : Option String} {fault : PlanFault}
    (failed : connective operator = .error fault) :
    planner.Foreseen (Validator.checkConnective operator) fault := by
  unfold connective at failed
  unfold Validator.checkConnective
  cases operator with
  | none => cases failed
  | some spelling =>
    cases known : Connective.ofSpelling? spelling with
    | none =>
      simp only [known] at failed
      cases failed
      refine .inr ⟨rfl, ?_⟩
      simp only [known, Option.isSome_none, Bool.false_eq_true, if_false]
      exact refuses_error _
    | some connective =>
      simp only [known] at failed
      cases failed

/-! ### Conditions -/

section Conditions

variable {entity}

theorem foreseen_of_planComparison (complete : planner.Complete) (raw : RawComparison)
    {fault : PlanFault}
    (failed : planner.planComparison entity raw.field raw.operator raw.value raw.values =
      .error fault) :
    planner.Foreseen
      (planner.validator.checkComparison entity raw.field raw.operator raw.value) fault := by
  simp only [planComparison, bind_eq_error] at failed
  -- The check resolves the reference before it reads the operator, the planner after.
  rcases failed with spelling | ⟨comparison, _, unresolved | ⟨path, _, untyped | emission⟩⟩
  · exact (planner.foreseen_of_comparison spelling).mono fun refused =>
      Refuses.bind_right fun _ => refused.bind_left
  · exact (planner.foreseen_of_resolve entity unresolved).mono Refuses.bind_left
  · exact .inl (.inl (coercion_of_operand untyped))
  · obtain ⟨operand, typed, unsupported⟩ := emission
    obtain ⟨emitted, supported⟩ := complete path comparison operand (typed_of_operand typed).fits
    cases supported.symm.trans unsupported

mutual

/-- A condition without a plan is not accepted at any depth, unless the fault is unavoidable. -/
theorem foreseen_of_planCondition (planner : Planner Emitted Order Fields) {entity : Entity}
    (complete : planner.Complete) :
    ∀ (condition : Condition) {fault : PlanFault} (depth : Nat),
      planner.planCondition entity condition = .error fault →
        planner.Foreseen (planner.validator.checkCondition entity depth condition) fault
  | ⟨some field, operator, value, values, none⟩, fault, depth, failed => by
    simp only [planCondition] at failed
    refine (planner.foreseen_of_planComparison complete ⟨field, operator, value, values⟩
      failed).mono fun refused => ?_
    simp only [Validator.checkCondition]
    exact Refuses.bind_right fun _ => refused
  | ⟨none, operator, value, values, some groups⟩, fault, depth, failed => by
    simp only [planCondition, bind_eq_error] at failed
    simp only [Validator.checkCondition]
    rcases failed with unplanned | ⟨parts, planned, none_planned⟩
    · -- The check has further reasons to refuse the condition before it enters the groups.
      refine (foreseen_of_planGroups planner complete groups (depth + 1) unplanned).mono
        fun refused => Refuses.bind_right fun _ => ?_
      split
      · exact refuses_error _
      · split
        · exact refuses_error _
        · exact refused
    · -- No part was planned, so there is no group.
      cases parts with
      | nil =>
        cases (planner.nil_iff_of_planGroups entity planned).mp rfl
        cases none_planned
        refine .inr ⟨rfl, Refuses.bind_right fun _ => ?_⟩
        split
        · exact refuses_error _
        · exact refuses_error _
      | cons part rest => cases none_planned
  | ⟨none, operator, value, values, none⟩, fault, depth, failed => by
    cases failed
    simp only [Validator.checkCondition]
    exact .inr ⟨rfl, Refuses.bind_right fun _ => refuses_error _⟩
  | ⟨some field, operator, value, values, some groups⟩, fault, depth, failed => by
    cases failed
    simp only [Validator.checkCondition]
    exact .inr ⟨rfl, Refuses.bind_right fun _ => refuses_error _⟩

theorem foreseen_of_planGroups (planner : Planner Emitted Order Fields) {entity : Entity}
    (complete : planner.Complete) :
    ∀ (groups : List (Option Group)) {fault : PlanFault} (depth : Nat),
      planner.planGroups entity groups = .error fault →
        planner.Foreseen (planner.validator.checkGroups entity depth groups) fault
  | [], fault, depth, failed => by cases failed
  | none :: rest, fault, depth, failed => by
    cases failed
    exact .inr ⟨rfl, refuses_error _⟩
  | some ⟨operator, members⟩ :: rest, fault, depth, failed => by
    simp only [planGroups, bind_eq_error] at failed
    simp only [Validator.checkGroups]
    rcases failed with spelling | ⟨joint, _, unplanned | ⟨parts, planned, further⟩⟩
    · exact (planner.foreseen_of_connective spelling).mono Refuses.bind_left
    · refine (foreseen_of_planMembers planner complete members depth unplanned).mono
        fun refused => Refuses.bind_right fun _ => ?_
      split
      · exact refuses_error _
      · exact refused.bind_left
    · -- No member was planned, so the group is empty.
      cases parts with
      | nil =>
        cases (planner.nil_iff_of_planMembers entity planned).mp rfl
        cases further
        exact .inr ⟨rfl, Refuses.bind_right fun _ => refuses_error _⟩
      | cons part more =>
        simp only [List.isEmpty_cons, Bool.false_eq_true, if_false, bind_eq_error, pure_ne_error,
          and_false, exists_false, or_false] at further
        refine (foreseen_of_planGroups planner complete rest depth further).mono
          fun refused => Refuses.bind_right fun _ => ?_
        split
        · exact refuses_error _
        · exact Refuses.bind_right fun _ => refused

theorem foreseen_of_planMembers (planner : Planner Emitted Order Fields) {entity : Entity}
    (complete : planner.Complete) :
    ∀ (members : List (Option Condition)) {fault : PlanFault} (depth : Nat),
      planner.planMembers entity members = .error fault →
        planner.Foreseen (planner.validator.checkMembers entity depth members) fault
  | [], fault, depth, failed => by cases failed
  | none :: rest, fault, depth, failed => by
    cases failed
    exact .inr ⟨rfl, refuses_error _⟩
  | some condition :: rest, fault, depth, failed => by
    simp only [planMembers, bind_eq_error, pure_ne_error, and_false, exists_false,
      or_false] at failed
    simp only [Validator.checkMembers]
    rcases failed with unplanned | ⟨_, _, further⟩
    · exact (foreseen_of_planCondition planner complete condition depth unplanned).mono
        Refuses.bind_left
    · exact (foreseen_of_planMembers planner complete rest depth further).mono
        fun refused => Refuses.bind_right fun _ => refused

end

end Conditions

/-! ### Requests -/

theorem foreseen_of_sortKey {key : OrderKey} {fault : PlanFault}
    (failed : planner.sortKey entity key = .error fault) :
    planner.Foreseen (planner.validator.checkOrderKey entity key) fault := by
  unfold sortKey at failed
  unfold Validator.checkOrderKey
  cases named : key.field with
  | none =>
    simp only [named] at failed
    cases failed
    exact .inr ⟨rfl, refuses_error _⟩
  | some field =>
    simp only [named, bind_eq_error, pure_ne_error, and_false, exists_false, or_false] at failed
    exact planner.foreseen_of_checkField entity failed

theorem foreseen_of_pageBound {bound : PageBound} {value : Option Int64} {fault : PlanFault}
    (failed : pageBound bound value = .error fault) :
    planner.Foreseen (Validator.checkBound bound value) fault := by
  unfold pageBound at failed
  cases value with
  | none => cases failed
  | some n =>
    simp only at failed
    split at failed
    next negative =>
      cases failed
      refine .inr ⟨rfl, ?_⟩
      simp only [Validator.checkBound, negative, if_true]
      exact refuses_error _
    next => cases failed

/-- Each step of a traversal is checked. -/
theorem foreseen_of_mapM {α β : Type} {step : α → Except PlanFault β}
    {check : α → Except Violation Unit} {values : List α} {fault : PlanFault}
    (each : ∀ value, step value = .error fault → planner.Foreseen (check value) fault)
    (failed : values.mapM step = .error fault) :
    planner.Foreseen (Validator.each check values) fault := by
  obtain ⟨value, member, failure⟩ := exists_of_mapM_eq_error failed
  exact (each value failure).mono (refuses_each member)

theorem foreseen_of_projection? {query : Query} {fault : PlanFault}
    (failed : planner.projection? entity query = .error fault) :
    planner.Foreseen
      (do
        Validator.each (planner.validator.checkField entity .includes) query.includes
        Validator.each (planner.validator.checkField entity .excludes) query.excludes) fault := by
  unfold projection? at failed
  split at failed
  next =>
    simp only [bind_eq_error, pure_ne_error, and_false, exists_false, or_false] at failed
    exact (planner.foreseen_of_mapM (fun _ => planner.foreseen_of_checkField entity)
      failed).mono Refuses.bind_left
  next =>
    split at failed
    next =>
      simp only [bind_eq_error, pure_ne_error, and_false, exists_false, or_false] at failed
      exact (planner.foreseen_of_mapM (fun _ => planner.foreseen_of_checkField entity)
        failed).mono fun refused => Refuses.bind_right fun _ => refused
    next => cases failed

theorem foreseen_of_planOptional (complete : planner.Complete) {condition : Option Condition}
    {fault : PlanFault} (failed : planner.planOptional entity condition = .error fault) :
    planner.Foreseen (planner.validator.checkOptional entity condition) fault := by
  cases condition with
  | none => cases failed
  | some condition =>
    exact planner.foreseen_of_planCondition complete condition 1 (map_eq_error.mp failed)

/-- A query without a plan is not accepted, unless the fault is unavoidable. -/
theorem foreseen_of_planEntity (complete : planner.Complete) {query : Query} {fault : PlanFault}
    (failed : planner.planEntity entity query = .error fault) :
    planner.Foreseen (planner.validator.checkQuery entity query) fault := by
  have accepted (result : Unit) (passed : planner.validator.checkQuery entity query = .ok result) :
      planner.validator.Accepts entity query :=
    planner.validator.accepts_of_checkQuery entity passed
  simp only [planEntity_eq, bind_eq_error, pure_ne_error, and_false, exists_false,
    or_false] at failed
  -- The first part that has a fault is a part that is not accepted.
  rcases failed with filter | ⟨_, _, order | ⟨_, _, projection | ⟨_, _, limit | ⟨_, _, skip⟩⟩⟩⟩
  · exact (planner.foreseen_of_planOptional entity complete filter).mono
      fun refused _ passed => refused () (accepted _ passed).condition
  · exact (planner.foreseen_of_mapM (fun _ => planner.foreseen_of_sortKey entity) order).mono
      fun refused _ passed => refused () (accepted _ passed).order
  · refine (planner.foreseen_of_projection? entity projection).mono fun refused _ passed =>
      refused () ?_
    exact bind_eq_ok.mpr ⟨(), (accepted _ passed).includes, (accepted _ passed).excludes⟩
  · exact (planner.foreseen_of_pageBound limit).mono
      fun refused _ passed => refused () (accepted _ passed).limit
  · exact (planner.foreseen_of_pageBound skip).mono
      fun refused _ passed => refused () (accepted _ passed).skip

theorem foreseen_of_planQuery (complete : planner.Complete) {name : String} {query : Query}
    {fault : PlanFault} (failed : planner.planQuery name query = .error fault) :
    planner.Foreseen (planner.validator.validateQuery name query) fault := by
  simp only [planQuery, bind_eq_error, entity_eq_ok] at failed
  rcases failed with unknown | ⟨entity, known, unplanned⟩
  · exact (planner.foreseen_of_entity unknown).mono Refuses.bind_left
  · refine (planner.foreseen_of_planEntity entity complete unplanned).mono fun refused => ?_
    unfold Validator.validateQuery
    exact refuses_of_known known refused

theorem foreseen_of_planOnly (complete : planner.Complete) {name : String} {condition : Condition}
    {fault : PlanFault} (failed : planner.planOnly name condition = .error fault) :
    planner.Foreseen (planner.validator.validateCondition name condition) fault := by
  simp only [planOnly, bind_eq_error, entity_eq_ok] at failed
  rcases failed with unknown | ⟨entity, known, unplanned⟩
  · exact (planner.foreseen_of_entity unknown).mono Refuses.bind_left
  · refine (planner.foreseen_of_planCondition complete condition 1 unplanned).mono
      fun refused => ?_
    unfold Validator.validateCondition
    exact refuses_of_known known refused

theorem foreseen_of_planEquality (complete : planner.Complete) {field : String}
    {value : Option Literal} {fault : PlanFault}
    (failed : planner.planEquality entity field value = .error fault) :
    planner.Foreseen (planner.validator.checkField entity .filter field) fault := by
  simp only [planEquality, bind_eq_error] at failed
  rcases failed with unresolved | ⟨path, _, untyped | ⟨operand, typed, unsupported⟩⟩
  · exact planner.foreseen_of_checkField entity unresolved
  · exact .inl (.inl (coercion_of_operand untyped))
  · obtain ⟨emitted, supported⟩ := complete path .equal operand (typed_of_operand typed).fits
    cases supported.symm.trans unsupported

theorem foreseen_of_planFilter (complete : planner.Complete) {name : String} {filter : Filter}
    {fault : PlanFault} (failed : planner.planFilter name filter = .error fault) :
    planner.Foreseen (planner.validator.validateFilter name filter) fault := by
  simp only [planFilter, bind_eq_error, entity_eq_ok, pure_ne_error, and_false, exists_false,
    or_false] at failed
  rcases failed with unknown | ⟨entity, known, unplanned⟩
  · exact (planner.foreseen_of_entity unknown).mono Refuses.bind_left
  · obtain ⟨⟨field, value⟩, member, failure⟩ := exists_of_mapM_eq_error unplanned
    have named : field ∈ filter.keys := List.mem_map_of_mem member
    refine (planner.foreseen_of_planEquality entity complete failure).mono fun refused =>
      refuses_of_known known ?_
    split
    · exact refuses_error _
    · exact refuses_each named refused

/-! ### The backends -/

variable {schema : Schema} {settings : Settings}

theorem forTables_complete : (forTables schema settings).Complete := by
  intro path comparison operand fits
  rw [← Operand.compare?_isSome (Sql.Relational.column path)] at fits
  obtain ⟨predicate, found⟩ := Option.isSome_iff_exists.mp fits
  refine ⟨predicate, ?_⟩
  simp [emit, forTables, Sql.Relational.backend, Sql.Relational.compare, found]

theorem forDocuments_complete : (forDocuments schema settings).Complete := by
  intro path comparison operand fits
  rw [← Operand.test?_isSome] at fits
  obtain ⟨test, found⟩ := Option.isSome_iff_exists.mp fits
  refine ⟨Json.single (FilterDocument.key path) test, ?_⟩
  simp [emit, forDocuments, FilterDocument.backend, FilterDocument.compare, found]

theorem forTables_unavoidable {fault : PlanFault}
    (unavoidable : (forTables schema settings).Unavoidable fault) :
    fault.IsCoercion ∨ fault.IsCollection := by
  refine unavoidable.imp_right fun ⟨path, failed⟩ => ?_
  simp only [forTables, Sql.Relational.backend, Sql.Relational.checkPath] at failed
  split at failed
  · cases failed
    exact ⟨path.text, rfl⟩
  · cases failed

theorem forDocuments_unavoidable {fault : PlanFault}
    (unavoidable : (forDocuments schema settings).Unavoidable fault) : fault.IsCoercion := by
  rcases unavoidable with typing | ⟨path, failed⟩
  · exact typing
  · cases failed

/-! ### Main result -/

theorem Foreseen.unavoidable {planner : Planner Emitted Order Fields} {α : Type}
    {check : Except Violation α} {fault : PlanFault} (foreseen : planner.Foreseen check fault)
    {result : α} (passed : check = .ok result) : planner.Unavoidable fault :=
  foreseen.resolve_right fun ⟨_, refused⟩ => refused result passed

/-- Whether or not a request is accepted, the backend is never to blame that it has no plan. -/
structure Blameless (planner : Planner Emitted Order Fields) (name : String) : Prop where
  query : ∀ query fault, planner.planQuery name query = .error fault → fault.isInternal = false
  condition : ∀ condition fault,
    planner.planOnly name condition = .error fault → fault.isInternal = false
  filter : ∀ filter fault, planner.planFilter name filter = .error fault → fault.isInternal = false

theorem blameless_of_complete {planner : Planner Emitted Order Fields} {name : String}
    (complete : planner.Complete)
    (external : ∀ fault, planner.Unavoidable fault → fault.isInternal = false) :
    planner.Blameless name := by
  have settled {α : Type} {check : Except Violation α} {fault : PlanFault}
      (foreseen : planner.Foreseen check fault) : fault.isInternal = false :=
    foreseen.elim (external fault) And.left
  exact
    { query := fun _ _ failed => settled (planner.foreseen_of_planQuery complete failed)
      condition := fun _ _ failed => settled (planner.foreseen_of_planOnly complete failed)
      filter := fun _ _ failed => settled (planner.foreseen_of_planFilter complete failed) }

theorem forTables_blameless (name : String) : (forTables schema settings).Blameless name := by
  refine blameless_of_complete forTables_complete fun fault unavoidable => ?_
  rcases forTables_unavoidable unavoidable with ⟨_, rfl⟩ | ⟨_, rfl⟩
  · rfl
  · rfl

theorem forDocuments_blameless (name : String) :
    (forDocuments schema settings).Blameless name := by
  refine blameless_of_complete forDocuments_complete fun fault unavoidable => ?_
  obtain ⟨_, rfl⟩ := forDocuments_unavoidable unavoidable
  rfl

/-- A checked query without a plan is not the backend's defect either. -/
theorem Blameless.planChecked {planner : Planner Emitted Order Fields} {name : String}
    (blameless : planner.Blameless name) {query : Query} {fault : QueryFault}
    (failed : planner.planChecked name query = .error fault) : fault.isInternal = false := by
  unfold Planner.planChecked at failed
  split at failed
  next =>
    cases failed
    rfl
  next =>
    split at failed
    next cause unplanned =>
      cases failed
      exact blameless.query query cause unplanned
    next => cases failed

end Planner

namespace CommandLine

theorem Outcome.judged_ne_aborted (success : Bool) (output : String) (failure : Failure) :
    Outcome.judged success output ≠ .aborted failure := by
  cases success <;> simp [Outcome.judged]

theorem readFile_ne_defect (files : Files) (file : String) (fault : QueryFault) :
    readFile files file ≠ .error (.defect fault) := by
  unfold readFile
  split <;> simp

theorem readSchema_ne_defect (files : Files) (file : String) (fault : QueryFault) :
    readSchema files file ≠ .error (.defect fault) := by
  intro failed
  rcases bind_eq_error.mp failed with unread | ⟨contents, _, invalid⟩
  · exact readFile_ne_defect files file fault unread
  · split at invalid <;> cases invalid

theorem readQuery_ne_defect (files : Files) (query : String) (fault : QueryFault) :
    readQuery files query ≠ .error (.defect fault) := by
  intro failed
  unfold readQuery at failed
  split at failed
  · rcases bind_eq_error.mp failed with unread | ⟨contents, _, invalid⟩
    · cases unread
    · dsimp only at invalid
      split at invalid <;> cases invalid
  · rcases bind_eq_error.mp failed with unread | ⟨contents, _, invalid⟩
    · exact readFile_ne_defect files query fault unread
    · dsimp only at invalid
      split at invalid <;> cases invalid

namespace Invocation

theorem reportPlan_ne_aborted (invocation : Invocation) {α : Type} (report : α → Report)
    {outcome : Except QueryFault α}
    (external : ∀ fault, outcome = .error fault → fault.isInternal = false) (failure : Failure) :
    invocation.reportPlan report outcome ≠ .aborted failure := by
  cases outcome with
  | ok plan => simp [reportPlan]
  | error fault =>
    simp only [reportPlan, external fault rfl, Bool.false_eq_true, if_false]
    exact Outcome.judged_ne_aborted _ _ failure

theorem compile_ne_aborted (invocation : Invocation) (schema : Schema) (query : Query)
    (store : Store) (failure : Failure) :
    invocation.compile schema query store ≠ .aborted failure := by
  cases store with
  | document =>
    exact reportPlan_ne_aborted invocation _
      (fun _ => (Planner.forDocuments_blameless invocation.entity).planChecked) failure
  | relational dialect table =>
    exact reportPlan_ne_aborted invocation _
      (fun _ => (Planner.forTables_blameless invocation.entity).planChecked) failure

/-- A run may end without a judgement, but never for a defect of a backend. -/
theorem run_ne_defect (invocation : Invocation) (files : Files) (fault : QueryFault) :
    invocation.run files ≠ .aborted (.defect fault) := by
  unfold run
  cases schema_read : readSchema files invocation.schema with
  | error failure =>
    intro aborted
    cases aborted
    exact readSchema_ne_defect files invocation.schema fault schema_read
  | ok schema =>
    cases invocation.command with
    | validate query =>
      cases query_read : readQuery files query with
      | error failure =>
        intro aborted
        simp only [query_read] at aborted
        cases aborted
        exact readQuery_ne_defect files query fault query_read
      | ok query =>
        simp only [query_read]
        exact Outcome.judged_ne_aborted _ _ _
    | compile query store =>
      cases query_read : readQuery files query with
      | error failure =>
        intro aborted
        simp only [query_read] at aborted
        cases aborted
        exact readQuery_ne_defect files query fault query_read
      | ok query =>
        simp only [query_read]
        exact compile_ne_aborted invocation schema query store _
    | allows operation =>
      simp only [tellPermission]
      cases schema.entity invocation.entity with
      | error unknown => simp
      | ok entity => exact Outcome.judged_ne_aborted _ _ _

end Invocation

theorem run_ne_defect (arguments : List String) (files : Files) (fault : QueryFault) :
    run arguments files ≠ .aborted (.defect fault) := by
  unfold run
  cases Invocation.ofArguments? arguments with
  | none => simp
  | some invocation => exact invocation.run_ne_defect files fault

end CommandLine

/-- The outcome is a value or a fault of the kind. -/
def SucceedsOr {α : Type} (kind : PlanFault → Prop) : Except PlanFault α → Prop
  | .ok _ => True
  | .error fault => kind fault

theorem succeedsOr_of_errors {α : Type} {kind : PlanFault → Prop} {outcome : Except PlanFault α}
    (errors : ∀ fault, outcome = .error fault → kind fault) : SucceedsOr kind outcome := by
  cases outcome with
  | ok value => trivial
  | error fault => exact errors fault rfl

/-- Accepted requests are planned unless a literal does not fit its field or, for tables, a field
is a collection. Whether or not a request is accepted, no backend is to blame that there is no
plan, so the program never ends with an internal error. -/
theorem accepted_requests_planned (schema : Schema) (settings : Settings) (name : String) :
    (∀ query, (Validator.mk schema settings).validateQuery name query = .ok () →
      SucceedsOr PlanFault.IsCoercion
          ((Planner.forDocuments schema settings).planQuery name query) ∧
        SucceedsOr (fun fault => fault.IsCoercion ∨ fault.IsCollection)
          ((Planner.forTables schema settings).planQuery name query)) ∧
    (∀ filter, (Validator.mk schema settings).validateFilter name filter = .ok () →
      SucceedsOr PlanFault.IsCoercion
          ((Planner.forDocuments schema settings).planFilter name filter) ∧
        SucceedsOr (fun fault => fault.IsCoercion ∨ fault.IsCollection)
          ((Planner.forTables schema settings).planFilter name filter)) ∧
    (Planner.forDocuments schema settings).Blameless name ∧
    (Planner.forTables schema settings).Blameless name ∧
    (∀ (invocation : CommandLine.Invocation) query store failure,
      invocation.compile schema query store ≠ .aborted failure) ∧
    ∀ arguments files fault, CommandLine.run arguments files ≠ .aborted (.defect fault) := by
  refine ⟨fun query passed => ⟨?_, ?_⟩, fun filter passed => ⟨?_, ?_⟩,
    Planner.forDocuments_blameless name, Planner.forTables_blameless name,
    fun invocation query store failure => invocation.compile_ne_aborted schema query store failure,
    CommandLine.run_ne_defect⟩
  · refine succeedsOr_of_errors fun fault failed => ?_
    have foreseen := Planner.foreseen_of_planQuery _ Planner.forDocuments_complete failed
    exact Planner.forDocuments_unavoidable (foreseen.unavoidable passed)
  · refine succeedsOr_of_errors fun fault failed => ?_
    have foreseen := Planner.foreseen_of_planQuery _ Planner.forTables_complete failed
    exact Planner.forTables_unavoidable (foreseen.unavoidable passed)
  · refine succeedsOr_of_errors fun fault failed => ?_
    have foreseen := Planner.foreseen_of_planFilter _ Planner.forDocuments_complete failed
    exact Planner.forDocuments_unavoidable (foreseen.unavoidable passed)
  · refine succeedsOr_of_errors fun fault failed => ?_
    have foreseen := Planner.foreseen_of_planFilter _ Planner.forTables_complete failed
    exact Planner.forTables_unavoidable (foreseen.unavoidable passed)

/-! ### A request that tables cannot answer -/

namespace Sample

/-- Notes with a title and tags. -/
def notes : Schema :=
  .ofEntities 1
    [{ name := "Note", identity := "Title",
       fields := [{ name := "Title", type := .scalar .string },
         { name := "Tags", type := .arrayOfScalar .string }] }]

/-- The notes with a tag. -/
def tagged : Query := { condition := some (.compared "tags" "eq" (.string "urgent")) }

/-- The notes with a title. -/
def titled : Filter := .ofList [("Title", some (.string "Todo"))]

theorem tagged_planned :
    SucceedsOr PlanFault.IsCoercion ((Planner.forDocuments notes {}).planQuery "note" tagged) ∧
      SucceedsOr (fun fault => fault.IsCoercion ∨ fault.IsCollection)
        ((Planner.forTables notes {}).planQuery "note" tagged) ∧
      (Planner.forTables notes {}).planQuery "note" tagged =
        .error (.collectionPath "relational" "Tags") ∧
      SucceedsOr (fun fault => fault.IsCoercion ∨ fault.IsCollection)
        ((Planner.forTables notes {}).planFilter "note" titled) := by
  obtain ⟨queries, filters, _⟩ := accepted_requests_planned notes {} "note"
  have accepted : (Validator.mk notes {}).validateQuery "note" tagged = .ok () := rfl
  have accepted_filter : (Validator.mk notes {}).validateFilter "note" titled = .ok () := rfl
  exact ⟨(queries tagged accepted).1, (queries tagged accepted).2, rfl,
    (filters titled accepted_filter).2⟩

end Sample

end RecordQuery
