import RecordQuery.Proofs.Permission

/-!
# Refused queries that have a plan

The planner asks for less than the check. What it does make a plan of, the check refuses only for a
policy, or for one of three limits on the shape of a query: its names, operators, entries, sort keys
and bounds are in order.
-/

namespace RecordQuery

/-- The violations of a policy, of the alphabet of patterns, or of a limit on the shape. -/
inductive Violation.IsRestriction (settings : Settings) : Violation → Prop
  | refused (field : String) (comparison : Comparison) (origin : Refusal) :
    IsRestriction settings (.refused field comparison origin)
  | patternValue (field : String) (comparison : Comparison) :
    IsRestriction settings (.patternValue field comparison)
  | includesAndExcludes : IsRestriction settings (.shape .includesAndExcludes)
  | operatorOnGroups : IsRestriction settings (.shape .operatorOnGroups)
  | tooDeep {limit : Nat} (limited : settings.maxDepth = some limit) :
    IsRestriction settings (.shape (.tooDeep limit))

/-- A check that nothing but a restriction can stop. -/
def Restricted (settings : Settings) (check : Except Violation Unit) : Prop :=
  ∀ violation, check = .error violation → violation.IsRestriction settings

namespace Restricted

variable {settings : Settings}

theorem of_ok {check : Except Violation Unit} (passed : check = .ok ()) :
    Restricted settings check := by
  intro violation failed
  cases passed.symm.trans failed

theorem of_error {violation : Violation} (restriction : violation.IsRestriction settings) :
    Restricted settings (.error violation) := by
  rintro _ ⟨⟩
  exact restriction

theorem bind {check : Except Violation Unit} {next : Unit → Except Violation Unit}
    (first : Restricted settings check) (second : Restricted settings (next ())) :
    Restricted settings (check >>= next) := by
  intro violation failed
  rcases bind_eq_error.mp failed with here | ⟨_, _, later⟩
  · exact first violation here
  · exact second violation later

end Restricted

namespace Planner

variable {Emitted Order Fields : Type} (planner : Planner Emitted Order Fields) (entity : Entity)

/-! ### Conditions -/

theorem restricted_checkDepth (depth : Nat) :
    Restricted planner.settings (planner.validator.checkDepth depth) := by
  intro violation failed
  unfold Validator.checkDepth at failed
  split at failed
  next limit limited =>
    split at failed
    · cases failed
      exact .tooDeep limited
    · cases failed
  next => cases failed

theorem restricted_checkPermitted (field : String) (path : Path) (comparison : Comparison) :
    Restricted planner.settings
      (planner.validator.checkPermitted entity field path comparison) := by
  unfold Validator.checkPermitted
  split
  · exact .of_error (.refused ..)
  · split
    · exact .of_error (.refused ..)
    · exact .of_ok rfl

theorem restricted_checkPattern (field : String) (comparison : Comparison)
    (value : Option Literal) :
    Restricted planner.settings (Validator.checkPattern field comparison value) := by
  unfold Validator.checkPattern
  split
  · split
    · exact .of_error (.patternValue ..)
    · exact .of_ok rfl
  · exact .of_ok rfl

/-- What the planner reads, the check can only refuse for a policy or for its pattern. -/
theorem restricted_checkComparison {raw : RawComparison} {leaf : Leaf}
    (reads : planner.Reads entity raw leaf) :
    Restricted planner.settings
      (planner.validator.checkComparison entity raw.field raw.operator raw.value) := by
  have resolved : planner.validator.resolve entity .condition raw.field = .ok leaf.path :=
    (planner.validator.resolve_eq_ok entity).mpr reads.path
  have known : Validator.comparison raw.field raw.operator = .ok leaf.comparison :=
    Validator.comparison_eq_ok.mpr (comparison_eq_ok.mp reads.comparison)
  rw [Validator.checkComparison, resolved, ok_bind, known, ok_bind]
  exact Restricted.bind (planner.restricted_checkPermitted entity _ _ _)
    (planner.restricted_checkPattern _ _ _)

theorem checkConnective_of_connective {operator : Option String} {joint : Connective}
    (spelled : connective operator = .ok joint) :
    Validator.checkConnective operator = .ok () := by
  unfold connective at spelled
  unfold Validator.checkConnective
  cases operator with
  | none => rfl
  | some spelling =>
    cases known : Connective.ofSpelling? spelling with
    | none => simp [known] at spelled
    | some connective => simp [known]

mutual

/-- By recursion on the tree: what was planned of a node has the shape that the check asks for, so
only its depth, an operator beside groups or a comparison can be refused. -/
theorem restricted_checkCondition (planner : Planner Emitted Order Fields) (entity : Entity) :
    ∀ (condition : Condition) (depth : Nat) {emitted : Emitted},
      planner.planCondition entity condition = .ok emitted →
        Restricted planner.settings (planner.validator.checkCondition entity depth condition)
  | ⟨some field, operator, value, values, none⟩, depth, emitted, planned => by
    obtain ⟨leaf, reads, _⟩ :=
      (planner.planCondition_field_eq_ok entity ⟨field, operator, value, values⟩).mp planned
    rw [Validator.checkCondition]
    exact (planner.restricted_checkDepth depth).bind
      (planner.restricted_checkComparison entity reads)
  | ⟨none, operator, value, values, some groups⟩, depth, emitted, planned => by
    obtain ⟨parts, planned, filled, _⟩ := (planner.planCondition_groups_eq_ok entity).mp planned
    have some_group : groups.isEmpty = false := by
      simpa using mt (planner.nil_iff_of_planGroups entity planned).mpr filled
    have inside := restricted_checkGroups planner entity groups (depth + 1) planned
    rw [Validator.checkCondition]
    refine (planner.restricted_checkDepth depth).bind ?_
    simp only [some_group, Bool.false_eq_true, if_false]
    split
    · exact .of_error .operatorOnGroups
    · exact inside
  | ⟨none, operator, value, values, none⟩, depth, emitted, planned => by cases planned
  | ⟨some field, operator, value, values, some groups⟩, depth, emitted, planned => by cases planned

theorem restricted_checkGroups (planner : Planner Emitted Order Fields) (entity : Entity) :
    ∀ (groups : List (Option Group)) (depth : Nat) {parts : List Emitted},
      planner.planGroups entity groups = .ok parts →
        Restricted planner.settings (planner.validator.checkGroups entity depth groups)
  | [], depth, parts, planned => by
    rw [Validator.checkGroups]
    exact .of_ok rfl
  | none :: rest, depth, parts, planned => by cases planned
  | some ⟨operator, members⟩ :: rest, depth, parts, planned => by
    obtain ⟨joint, inner, others, spelled, inside, filled, later, _⟩ :=
      (planner.planGroups_cons_eq_ok entity).mp planned
    have known := checkConnective_of_connective spelled
    have some_member : members.isEmpty = false := by
      simpa using mt (planner.nil_iff_of_planMembers entity inside).mpr filled
    have here := restricted_checkMembers planner entity members depth inside
    have there := restricted_checkGroups planner entity rest depth later
    rw [Validator.checkGroups, known, ok_bind, some_member]
    exact here.bind there

theorem restricted_checkMembers (planner : Planner Emitted Order Fields) (entity : Entity) :
    ∀ (members : List (Option Condition)) (depth : Nat) {parts : List Emitted},
      planner.planMembers entity members = .ok parts →
        Restricted planner.settings (planner.validator.checkMembers entity depth members)
  | [], depth, parts, planned => by
    rw [Validator.checkMembers]
    exact .of_ok rfl
  | none :: rest, depth, parts, planned => by cases planned
  | some condition :: rest, depth, parts, planned => by
    obtain ⟨part, others, first, later, _⟩ := (planner.planMembers_cons_eq_ok entity).mp planned
    have here := restricted_checkCondition planner entity condition depth first
    have there := restricted_checkMembers planner entity rest depth later
    rw [Validator.checkMembers]
    exact here.bind there

end

/-! ### Queries -/

theorem restricted_checkOptional {condition : Option Condition} {filter : Option Emitted}
    (planned : planner.planOptional entity condition = .ok filter) :
    Restricted planner.settings (planner.validator.checkOptional entity condition) := by
  cases condition with
  | none => exact .of_ok rfl
  | some condition =>
    obtain ⟨emitted, planned, _⟩ := map_eq_ok.mp planned
    exact restricted_checkCondition planner entity condition 1 planned

theorem checkField_of_resolve {location : Location} {field : String} {path : Path}
    (planned : planner.resolve entity field = .ok path) :
    planner.validator.checkField entity location field = .ok () :=
  (planner.validator.checkField_eq_ok entity).mpr
    ⟨path, ((planner.resolve_eq_ok entity).mp planned).1⟩

theorem each_of_mapM {α β : Type} {step : α → Except PlanFault β}
    {check : α → Except Violation Unit} {values : List α} {results : List β}
    (planned : values.mapM step = .ok results)
    (passes : ∀ value result, step value = .ok result → check value = .ok ()) :
    Validator.each check values = .ok () := by
  have pairs := mapM_eq_ok.mp planned
  refine Validator.each_eq_ok.mpr fun value listed => ?_
  obtain ⟨result, _, here⟩ := exists_related pairs.flip listed
  exact passes value result here

/-- Of two lists of fields the planner resolves the one that has entries. -/
theorem each_of_projection? {query : Query} {projection : Option Projection}
    (one_list : query.includes = [] ∨ query.excludes = [])
    (planned : planner.projection? entity query = .ok projection) :
    Validator.each (planner.validator.checkField entity .includes) query.includes = .ok () ∧
      Validator.each (planner.validator.checkField entity .excludes) query.excludes = .ok () := by
  have passes (location : Location) (field : String) (path : Path)
      (found : planner.resolve entity field = .ok path) :
      planner.validator.checkField entity location field = .ok () :=
    planner.checkField_of_resolve entity found
  unfold projection? at planned
  split at planned
  next included =>
    have nothing_excluded : query.excludes = [] := one_list.resolve_left (by simpa using included)
    obtain ⟨paths, resolved, _⟩ := bind_eq_ok.mp planned
    rw [nothing_excluded]
    exact ⟨each_of_mapM resolved (passes .includes), rfl⟩
  next nothing_included =>
    have nothing_included : query.includes = [] := by simpa using nothing_included
    rw [nothing_included]
    split at planned
    next =>
      obtain ⟨paths, resolved, _⟩ := bind_eq_ok.mp planned
      exact ⟨rfl, each_of_mapM resolved (passes .excludes)⟩
    next nothing_excluded =>
      have nothing_excluded : query.excludes = [] := by simpa using nothing_excluded
      rw [nothing_excluded]
      exact ⟨rfl, rfl⟩

theorem checkBound_of_pageBound {bound : PageBound} {value : Option Int64} {count : Option Nat}
    (planned : pageBound bound value = .ok count) : Validator.checkBound bound value = .ok () := by
  unfold pageBound at planned
  unfold Validator.checkBound
  cases value with
  | none => rfl
  | some n => by_cases negative : n.toInt < 0 <;> simp [negative] at planned ⊢

theorem restricted_checkQuery {query : Query} {plan : Plan Emitted Order Fields}
    (planned : planner.planEntity entity query = .ok plan) :
    Restricted planner.settings (planner.validator.checkQuery entity query) := by
  simp only [planEntity_eq, bind_eq_ok] at planned
  obtain ⟨filter, conditional, keys, sorted, projection, projected, limit, limited, skip, skipped,
    _⟩ := planned
  rw [Validator.checkQuery_eq]
  split
  next => exact .of_error .includesAndExcludes
  next one_list =>
    have one_list : query.includes = [] ∨ query.excludes = [] := by
      simpa [Decidable.or_iff_not_imp_left] using one_list
    obtain ⟨included, excluded⟩ := planner.each_of_projection? entity one_list projected
    have ordered :
        Validator.each (planner.validator.checkOrderKey entity) query.order = .ok () := by
      refine each_of_mapM sorted fun key sort found => ?_
      obtain ⟨field, named, found, _⟩ := (planner.sortKey_eq_ok entity).mp found
      have resolved := ((planner.resolve_eq_ok entity).mp found).1
      exact (planner.validator.checkOrderKey_eq_ok entity).mpr ⟨field, named, sort.path, resolved⟩
    -- Everything beside the condition passes.
    rw [included, ok_bind, excluded, ok_bind, ordered, ok_bind, checkBound_of_pageBound limited,
      ok_bind, checkBound_of_pageBound skipped]
    exact Restricted.bind (planner.restricted_checkOptional entity conditional) (.of_ok rfl)

/-- If there is a plan for a query, on any backend, the query is acceptable or nothing but a
restriction is violated. -/
theorem planned_query_restricted {name : String} {query : Query} {plan : Plan Emitted Order Fields}
    (planned : planner.planQuery name query = .ok plan) :
    planner.validator.validateQuery name query = .ok () ∨
      ∃ violation, planner.validator.validateQuery name query = .error violation ∧
        violation.IsRestriction planner.settings := by
  simp only [planQuery, bind_eq_ok, entity_eq_ok] at planned
  obtain ⟨entity, known, planned⟩ := planned
  have found : planner.validator.entity name = .ok entity :=
    planner.validator.entity_eq_ok.mpr known
  rw [Validator.validateQuery, found, ok_bind]
  cases checked : planner.validator.checkQuery entity query with
  | ok => exact .inl rfl
  | error violation =>
    exact .inr ⟨violation, rfl, planner.restricted_checkQuery entity planned violation checked⟩

end Planner

/-! ### A query for each restriction -/

namespace Sample

/-- Both backends have a plan for the query for posts, the check refuses it, and what it finds is a
restriction. -/
structure PlannedYetRefused (settings : Settings) (query : Query) (violation : Violation) :
    Prop where
  tables : ∃ plan, (Planner.forTables forum settings).planQuery "post" query = .ok plan
  documents : ∃ plan, (Planner.forDocuments forum settings).planQuery "post" query = .ok plan
  refused : (Validator.mk forum settings).validateQuery "post" query = .error violation
  restriction : violation.IsRestriction settings

def searchedAuthor : Query where
  condition := some (.compared "author.name" "contains" (.string "Ada"))

def punctuated : Query where
  condition := some (.compared "title" "contains" (.string "Lean-4"))

def shownAndHidden : Query where
  includes := ["title"]
  excludes := ["author"]

def titledGroup : Condition := .grouped [.all [.compared "title" "eq" (.string "Lean4")]]

theorem restrictions_occur :
    PlannedYetRefused {} searchedAuthor (.refused "author.name" .contains .field) ∧
      PlannedYetRefused {} punctuated (.patternValue "title" .contains) ∧
      PlannedYetRefused {} shownAndHidden (.shape .includesAndExcludes) ∧
      PlannedYetRefused {} { condition := some { titledGroup with operator := some "eq" } }
        (.shape .operatorOnGroups) ∧
      PlannedYetRefused { maxDepth := some 1 } { condition := some titledGroup }
        (.shape (.tooDeep 1)) := by
  have both {settings : Settings} {query : Query} {violation : Violation}
      (tables : ∃ plan, (Planner.forTables forum settings).planQuery "post" query = .ok plan)
      (documents : ∃ plan,
        (Planner.forDocuments forum settings).planQuery "post" query = .ok plan)
      (refused : (Validator.mk forum settings).validateQuery "post" query = .error violation) :
      PlannedYetRefused settings query violation := by
    refine ⟨tables, documents, refused, ?_⟩
    obtain ⟨plan, planned⟩ := documents
    rcases (Planner.forDocuments forum settings).planned_query_restricted planned with
      accepted | ⟨_, failed, restriction⟩
    · cases refused.symm.trans accepted
    · cases refused.symm.trans failed
      exact restriction
  exact ⟨both ⟨_, rfl⟩ ⟨_, rfl⟩ rfl, both ⟨_, rfl⟩ ⟨_, rfl⟩ rfl, both ⟨_, rfl⟩ ⟨_, rfl⟩ rfl,
    both ⟨_, rfl⟩ ⟨_, rfl⟩ rfl, both ⟨_, rfl⟩ ⟨_, rfl⟩ rfl⟩

end Sample

end RecordQuery
