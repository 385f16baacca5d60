import RecordQuery.Proofs.FilterPolicy

/-!
# Plans of filters

A filter is planned entry by entry, the condition that it abbreviates is planned as a tree. Both
come to the same plan, but for the conjunction in which the tree has its one group, or to the same
fault.
-/

namespace RecordQuery

namespace Planner

variable {Emitted Order Fields : Type} (planner : Planner Emitted Order Fields) (entity : Entity)

theorem planCondition_equality (entry : String × Option Literal) :
    planner.planCondition entity (Filter.equality entry) =
      planner.planEquality entity entry.1 entry.2 := by
  have spelled : comparison entry.1 (some "EQ") = .ok .equal := rfl
  obtain ⟨field, _ | literal⟩ := entry
  all_goals
    simp only [Filter.equality, Condition.compared, Condition.valueless, planCondition,
      planComparison, planEquality, spelled, ok_bind]

/-- The members of the group are planned as the entries are, up to the first fault. -/
theorem planMembers_equalities (entries : List (String × Option Literal)) :
    planner.planMembers entity ((entries.map Filter.equality).map some) =
      entries.mapM fun (field, value) => planner.planEquality entity field value := by
  induction entries with
  | nil => rfl
  | cons entry rest ih =>
    rw [List.map_cons, List.map_cons, planMembers, ih, planCondition_equality, List.mapM_cons]

/-- A condition of one conjunction is planned as its members are. -/
theorem planCondition_all {members : List Condition} (filled : members ≠ []) :
    planner.planCondition entity (.grouped [.all members]) =
      (planner.planMembers entity (members.map some)).map fun parts =>
        planner.backend.join .conjunction [planner.backend.join .conjunction parts] := by
  have spelled : connective (some "AND") = .ok .conjunction := rfl
  unfold Condition.grouped GroupOf.all GroupOf.joined
  simp only [planCondition, planGroups, List.map_cons, List.map_nil, spelled, ok_bind]
  cases planned : planner.planMembers entity (members.map some) with
  | error fault => rfl
  | ok parts =>
    -- Each member has its part, so the group is not refused as an empty one.
    have some_part : parts ≠ [] := by
      rw [ne_eq, planner.nil_iff_of_planMembers entity planned, List.map_eq_nil_iff]
      exact filled
    simp [some_part, ok_bind, Except.map]

/-- What is planned for the condition is what is planned for the filter, in a conjunction. -/
theorem planOnly_condition {name : String} {filter : Filter} (filled : filter.entries ≠ []) :
    planner.planOnly name filter.condition =
      (planner.planFilter name filter).map fun emitted =>
        planner.backend.join .conjunction [emitted] := by
  have some_member : filter.entries.map Filter.equality ≠ [] := by simpa using filled
  unfold planOnly planFilter Filter.condition
  cases planner.entity name with
  | error fault => rfl
  | ok entity =>
    simp only [ok_bind, planner.planCondition_all entity some_member, planMembers_equalities]
    cases filter.entries.mapM fun (field, value) => planner.planEquality entity field value <;> rfl

/-- The filter is planned as the condition is: what is planned for one is the only part of the
conjunction that is planned for the other, and the faults are the same. -/
structure PlansAlike (name : String) (filter : Filter) (condition : Condition) : Prop where
  plan : ∀ emitted, planner.planFilter name filter = .ok emitted ↔
    planner.planOnly name condition = .ok (planner.backend.join .conjunction [emitted])
  fault : ∀ fault, planner.planFilter name filter = .error fault ↔
    planner.planOnly name condition = .error fault

/-- A backend that keeps the only part of a conjunction plans filters as their conditions. -/
theorem plansAlike_condition {name : String} {filter : Filter} (filled : filter.entries ≠ [])
    (kept : Function.Injective fun emitted => planner.backend.join .conjunction [emitted]) :
    planner.PlansAlike name filter filter.condition where
  plan emitted := by
    rw [planner.planOnly_condition filled, map_eq_ok]
    constructor
    · intro planned
      exact ⟨emitted, planned, rfl⟩
    · rintro ⟨other, planned, same⟩
      exact kept same ▸ planned
  fault fault := by rw [planner.planOnly_condition filled, map_eq_error]

/-- A filter with entries is planned as the condition that it abbreviates, on either backend. -/
theorem filters_plan_as_conditions (schema : Schema) (settings : Settings) (name : String)
    (filter : Filter) (filled : filter.entries ≠ []) :
    (forTables schema settings).PlansAlike name filter filter.condition ∧
      (forDocuments schema settings).PlansAlike name filter filter.condition := by
  constructor
  · refine plansAlike_condition _ filled fun left right same => ?_
    have parts := Sql.Predicate.all.inj same
    exact List.singleton_inj.mp parts
  · refine plansAlike_condition _ filled fun left right same => ?_
    simpa [forDocuments, FilterDocument.backend, Json.single] using same

end Planner

/-! ### An account without secret -/

namespace Sample

/-- The account of a number if it has no secret. -/
def unsealed : Filter := .ofList [("Secret", none), ("Id", some (.integer 7))]

theorem unsealed_planned_alike :
    unsealed.entries ≠ [] ∧
      (Planner.forTables vault {}).planOnly "user" unsealed.condition =
        .ok (.all [.all [.compare "Id" .equal (.int64 7), .isNull "Secret"]]) ∧
      (Planner.forDocuments vault {}).PlansAlike "user" unsealed unsealed.condition := by
  have filled : unsealed.entries ≠ [] := List.cons_ne_nil _ _
  have planned : (Planner.forTables vault {}).planFilter "user" unsealed =
      .ok (.all [.compare "Id" .equal (.int64 7), .isNull "Secret"]) := rfl
  obtain ⟨tables, documents⟩ := Planner.filters_plan_as_conditions vault {} "user" unsealed filled
  exact ⟨filled, (tables.plan _).mp planned, documents⟩

end Sample

end RecordQuery
