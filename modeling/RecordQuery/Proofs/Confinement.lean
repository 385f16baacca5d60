import Mathlib.Data.List.Nodup
import RecordQuery.Proofs.Declared
import RecordQuery.Proofs.FlatNames
import RecordQuery.Proofs.Operands

/-!
# Confined statements

Which columns a statement returns when a query names the fields to return or to leave out. They are
listed one by one, unless no column is left to return: then every column is returned.
-/

namespace RecordQuery

open Sql (Dialect Fragment TablePlan Writer)

/-! ### Written columns -/

namespace Sql

/-- Identifiers with a separator between them. -/
theorem text_separated_identifiers (dialect : Dialect) (columns : List String) (given : Nat) :
    (Writer.separated ", " (columns.map (Writer.identifier dialect)) given).text =
      ", ".toList.intercalate (columns.map dialect.quote) := by
  induction columns generalizing given with
  | nil => rfl
  | cons column rest ih =>
    -- A separator follows every column but the last one.
    cases rest with
    | nil => simp [Writer.separated]
    | cons next more =>
      have tail := ih
      simp only [List.map_cons] at tail ⊢
      rw [Writer.separated, Writer.text_append, Writer.text_append, tail]
      · simp
      · simp

/-- The statement begins with these columns, one by one. -/
def Lists (dialect : Dialect) (table : String) (columns : List String) (statement : Fragment) :
    Prop :=
  ∃ rest, statement.text =
    "SELECT ".toList ++ ", ".toList.intercalate (columns.map dialect.quote) ++ " FROM ".toList ++
      dialect.quote table ++ rest

/-- The statement returns every column of the table. -/
def ListsAll (dialect : Dialect) (table : String) (statement : Fragment) : Prop :=
  ∃ rest, statement.text = "SELECT * FROM ".toList ++ dialect.quote table ++ rest

theorem text_select (dialect : Dialect) (table : String) (plan : TablePlan) :
    ∃ rest, (select dialect table plan).text =
      "SELECT ".toList ++ (writeColumns dialect plan.fields 0).text ++ " FROM ".toList ++
        dialect.quote table ++ rest := by
  unfold select
  simp only [Writer.text_append, Writer.text_ofString, Writer.text_identifier]
  exact ⟨_, (List.append_assoc _ _ _).trans (List.append_assoc _ _ _)⟩

theorem select_lists (dialect : Dialect) (table : String) {plan : TablePlan}
    {columns : List String} (fields : plan.fields = some columns) (some_column : columns ≠ []) :
    Lists dialect table columns (select dialect table plan) := by
  obtain ⟨rest, text⟩ := text_select dialect table plan
  obtain ⟨first, others, rfl⟩ := List.exists_cons_of_ne_nil some_column
  refine ⟨rest, ?_⟩
  rw [text, fields, writeColumns, text_separated_identifiers]

theorem select_listsAll (dialect : Dialect) (table : String) {plan : TablePlan}
    (fields : plan.fields = some []) : ListsAll dialect table (select dialect table plan) := by
  obtain ⟨rest, text⟩ := text_select dialect table plan
  refine ⟨rest, ?_⟩
  rw [text, fields, writeColumns, Writer.text_ofString]
  rfl

/-- A statement that returns every column does not list columns one by one. -/
theorem ListsAll.not_lists {dialect : Dialect} {table : String} {statement : Fragment}
    (all : ListsAll dialect table statement) (columns : List String) :
    ¬ Lists dialect table columns statement := by
  rintro ⟨rest, listed⟩
  obtain ⟨others, star⟩ := all
  -- The texts differ at the first character behind the verb.
  have heads := congrArg (fun text => (text.drop 7).head?) (listed.symm.trans star)
  cases columns with
  | nil => simp at heads
  | cons column more =>
    have opening : dialect.quoteMark ≠ '*' := by cases dialect <;> decide
    cases more with
    | nil => exact opening (by simpa [List.intercalate, Dialect.quote] using heads)
    | cons next more => exact opening (by simpa [List.intercalate, Dialect.quote] using heads)

end Sql

/-! ### Returned columns -/

namespace Sql.Relational

/-- The columns with one more, unless it is among them. -/
def keepNew (kept : List String) (column : String) : List String :=
  if kept.contains column then kept else kept ++ [column]

theorem mem_keepNew {kept : List String} {column other : String} :
    other ∈ keepNew kept column ↔ other ∈ kept ∨ other = column := by
  unfold keepNew
  by_cases old : column ∈ kept
  · simp only [List.contains_eq_mem, old, decide_true, if_true]
    exact ⟨.inl, fun either => either.elim id fun same => same ▸ old⟩
  · simp [old]

theorem nodup_keepNew {kept : List String} {column : String} (distinct : kept.Nodup) :
    (keepNew kept column).Nodup := by
  unfold keepNew
  by_cases old : column ∈ kept
  · simpa [old] using distinct
  · simpa [old] using distinct.concat old

theorem mem_foldl_keepNew {columns kept : List String} {column : String} :
    column ∈ columns.foldl keepNew kept ↔ column ∈ kept ∨ column ∈ columns := by
  induction columns generalizing kept with
  | nil => simp
  | cons first rest ih => rw [List.foldl_cons, ih, mem_keepNew, or_assoc, List.mem_cons]

theorem nodup_foldl_keepNew {columns kept : List String} (distinct : kept.Nodup) :
    (columns.foldl keepNew kept).Nodup := by
  induction columns generalizing kept with
  | nil => exact distinct
  | cons first rest ih => exact ih (nodup_keepNew distinct)

theorem nodup_withoutRepeats (columns : List String) : (withoutRepeats columns).Nodup :=
  nodup_foldl_keepNew List.nodup_nil

theorem mem_withoutRepeats {columns : List String} {column : String} :
    column ∈ withoutRepeats columns ↔ column ∈ columns := by
  have all : column ∈ withoutRepeats columns ↔ column ∈ [] ∨ column ∈ columns := mem_foldl_keepNew
  simpa using all

/-- The columns of a projection are those of the selected leaves that cross no collection. -/
theorem mem_project {projection : Projection} {wanted : String} :
    wanted ∈ project projection ↔
      ∃ leaf ∈ projection.selected, leaf.crossesCollection = false ∧ column leaf = wanted := by
  simp [project, mem_withoutRepeats, and_assoc]

end Sql.Relational

/-! ### Projections of queries -/

/-- The projection is the one that the query asks for: the fields to return, or those to leave out
when none is to be returned, among all leaf paths of the entity. -/
structure Query.Projects (query : Query) (resolver : Resolver) (entity : Entity)
    (projection : Projection) : Prop where
  kind : projection.kind = if query.includes.isEmpty then .exclude else .include
  fields : List.Forall₂ (fun field path => resolver.resolve entity field = .ok (some path))
    (if query.includes.isEmpty then query.excludes else query.includes) projection.fields
  leaves : projection.leaves = resolver.schema.leafPaths entity

namespace Planner

variable {Emitted Order Fields : Type} (planner : Planner Emitted Order Fields) {entity : Entity}

theorem resolved_of_mapM {fields : List String} {paths : List Path}
    (resolved : fields.mapM (planner.resolve entity) = .ok paths) :
    List.Forall₂ (fun field path => planner.resolver.resolve entity field = .ok (some path)) fields
      paths :=
  (mapM_eq_ok.mp resolved).imp fun _ _ each => ((planner.resolve_eq_ok entity).mp each).1

theorem projects_of_projection? {query : Query} {found : Option Projection}
    (named : query.includes ≠ [] ∨ query.excludes ≠ [])
    (projected : planner.projection? entity query = .ok found) :
    ∃ projection, found = some projection ∧ query.Projects planner.resolver entity projection := by
  unfold projection? at projected
  split at projected
  next including =>
    simp only [bind_eq_ok, pure_eq_ok] at projected
    obtain ⟨paths, resolved, rfl⟩ := projected
    have some_include : query.includes.isEmpty = false := by simpa using including
    refine ⟨_, rfl, by simp [some_include], ?_, rfl⟩
    simpa [some_include] using planner.resolved_of_mapM resolved
  next not_including =>
    have no_include : query.includes.isEmpty = true := by simpa using not_including
    split at projected
    next =>
      simp only [bind_eq_ok, pure_eq_ok] at projected
      obtain ⟨paths, resolved, rfl⟩ := projected
      refine ⟨_, rfl, by simp [no_include], ?_, rfl⟩
      simpa [no_include] using planner.resolved_of_mapM resolved
    next not_excluding =>
      simp_all

end Planner

namespace Projection

/-- The path leads to one of the named fields or below it. -/
def Covers (projection : Projection) (path : Path) : Prop :=
  ∃ field ∈ projection.fields, path.isUnder field = true

/-- The column may be returned: it is that of a field to return, or of none to leave out. -/
def Allows (projection : Projection) (schema : Schema) (entity : Entity) (column : String) : Prop :=
  match projection.kind with
  | .include =>
    ∃ path, schema.Declares entity path ∧ projection.Covers path ∧
      Sql.Relational.column path = column
  | .exclude =>
    ∀ path, schema.Declares entity path → projection.Covers path →
      Sql.Relational.column path ≠ column

theorem mem_below {leaves : List Path} {field path : Path} (member : path ∈ below leaves field) :
    path.isUnder field = true ∧ (path ∈ leaves ∨ path = field) := by
  unfold below at member
  split at member
  next =>
    obtain ⟨leaf, under⟩ := List.mem_filter.mp member
    exact ⟨under, .inl leaf⟩
  next =>
    cases List.mem_singleton.mp member
    exact ⟨by simp [Path.isUnder], .inr rfl⟩

theorem covers_of_mem_selected {projection : Projection} (including : projection.kind = .include)
    {leaf : Path} (member : leaf ∈ projection.selected) : projection.Covers leaf := by
  simp only [selected, including, List.mem_flatMap] at member
  obtain ⟨field, named, here⟩ := member
  exact ⟨field, named, (mem_below here).1⟩

theorem not_covers_of_mem_selected {projection : Projection}
    (excluding : projection.kind = .exclude) {leaf : Path} (member : leaf ∈ projection.selected) :
    ¬ projection.Covers leaf := by
  simp only [selected, excluding, List.mem_filter, Bool.not_eq_true'] at member
  rintro ⟨field, named, under⟩
  have some_above : projection.fields.any leaf.isUnder = true :=
    List.any_eq_true.mpr ⟨field, named, under⟩
  cases member.2.symm.trans some_above

/-- The selected leaves are declared. -/
theorem declares_of_mem_selected {query : Query} {resolver : Resolver} {entity : Entity}
    {projection : Projection} (projects : query.Projects resolver entity projection) {leaf : Path}
    (member : leaf ∈ projection.selected) : resolver.schema.Declares entity leaf := by
  have declared_leaf (path : Path) (listed : path ∈ projection.leaves) :
      resolver.schema.Declares entity path :=
    Schema.declares_of_mem_leafPaths (projects.leaves ▸ listed)
  cases kind : projection.kind with
  | «include» =>
    simp only [selected, kind, List.mem_flatMap] at member
    obtain ⟨field, named, here⟩ := member
    rcases (mem_below here).2 with listed | rfl
    · exact declared_leaf leaf listed
    · obtain ⟨reference, _, resolved⟩ := exists_related projects.fields named
      exact resolver.declares_of_resolve resolved
  | exclude =>
    simp only [selected, kind, List.mem_filter] at member
    exact declared_leaf leaf member.1

/-- A leaf that is returned has a column. -/
def HasColumn (projection : Projection) : Prop :=
  ∃ leaf ∈ projection.selected, leaf.crossesCollection = false

/-- A leaf that is returned has the column of a field that is left out. -/
def Clashes (projection : Projection) (schema : Schema) (entity : Entity) : Prop :=
  projection.kind = .exclude ∧
    ∃ leaf ∈ projection.selected, leaf.crossesCollection = false ∧
      ∃ path, schema.Declares entity path ∧ projection.Covers path ∧
        Sql.Relational.column path = Sql.Relational.column leaf

end Projection

/-- The statement lists the columns of the selected leaves that have one, each once and no other,
and all of them may be returned. -/
def Sql.Confined (schema : Schema) (entity : Entity) (projection : Projection) (dialect : Dialect)
    (table : String) (statement : Fragment) : Prop :=
  ∃ columns : List String, Sql.Lists dialect table columns statement ∧ columns.Nodup ∧
    (∀ column, column ∈ columns ↔
      ∃ leaf ∈ projection.selected, leaf.crossesCollection = false ∧
        Sql.Relational.column leaf = column) ∧
    ∀ column ∈ columns, projection.Allows schema entity column

/-! ### Main result -/

section Main

variable {schema : Schema} {settings : Settings} {entity : Entity} {query : Query}
  {projection : Projection}

theorem columns_eq_nil_iff : Sql.Relational.project projection = [] ↔ ¬ projection.HasColumn := by
  rw [List.eq_nil_iff_forall_not_mem]
  constructor
  · rintro empty ⟨leaf, selected, scalar⟩
    exact empty _ (Sql.Relational.mem_project.mpr ⟨leaf, selected, scalar, rfl⟩)
  · intro none_left column member
    obtain ⟨leaf, selected, scalar, _⟩ := Sql.Relational.mem_project.mp member
    exact none_left ⟨leaf, selected, scalar⟩

/-- Names without underscores keep the columns of different fields apart. -/
theorem not_clashes (member : entity ∈ schema.entities.values)
    (separable : schema.EveryName fun name => '_' ∉ name.toList)
    (projects : query.Projects ⟨schema, settings.delimiter⟩ entity projection) :
    ¬ projection.Clashes schema entity := by
  rintro ⟨excluding, leaf, selected, _, path, declared, ⟨field, named, under⟩, same⟩
  have declared_leaf : schema.Declares entity leaf :=
    Projection.declares_of_mem_selected projects selected
  -- Equal columns mean equal names, and then the leaf itself would be left out.
  have names : path.names = leaf.names :=
    declared.names_eq_of_join_eq rfl separable (separable entity member) declared_leaf same
  refine Projection.not_covers_of_mem_selected excluding selected ⟨field, named, ?_⟩
  simpa [Path.isUnder, names] using under

theorem confined_iff {dialect : Dialect} {table : String} {plan : TablePlan}
    (projects : query.Projects ⟨schema, settings.delimiter⟩ entity projection)
    (fields : plan.fields = some (Sql.Relational.project projection)) :
    Sql.Confined schema entity projection dialect table (Sql.select dialect table plan) ↔
      projection.HasColumn ∧ ¬ projection.Clashes schema entity := by
  constructor
  · rintro ⟨columns, listed, _, exact_columns, allowed⟩
    constructor
    · -- Without a column the statement returns all of them and lists none.
      by_contra none_left
      rw [columns_eq_nil_iff.mpr none_left] at fields
      exact (Sql.select_listsAll dialect table fields).not_lists columns listed
    · rintro ⟨excluding, leaf, selected, scalar, path, declared, covered, same⟩
      have returned := allowed _ ((exact_columns _).mpr ⟨leaf, selected, scalar, rfl⟩)
      rw [Projection.Allows, excluding] at returned
      exact returned path declared covered same
  · rintro ⟨some_column, apart⟩
    have filled : Sql.Relational.project projection ≠ [] := fun empty =>
      columns_eq_nil_iff.mp empty some_column
    refine ⟨_, Sql.select_lists dialect table fields filled,
      Sql.Relational.nodup_withoutRepeats _, fun _ => Sql.Relational.mem_project, ?_⟩
    intro column member
    obtain ⟨leaf, selected, scalar, rfl⟩ := Sql.Relational.mem_project.mp member
    unfold Projection.Allows
    cases kind : projection.kind with
    | «include» =>
      exact ⟨leaf, Projection.declares_of_mem_selected projects selected,
        Projection.covers_of_mem_selected kind selected, rfl⟩
    | exclude =>
      intro path declared covered same
      exact apart ⟨kind, leaf, selected, scalar, path, declared, covered, same⟩

/-- The statement for a query that names the fields to return or to leave out is confined to them
exactly when some leaf with a column is left to return and no such leaf shares its column with a
field that is left out, which names without underscores rule out. Without a column to return, the
statement returns all of them. -/
theorem select_confined_iff {name : String} {plan : TablePlan} (dialect : Dialect) (table : String)
    (named : query.includes ≠ [] ∨ query.excludes ≠ [])
    (planned : (Planner.forTables schema settings).planChecked name query = .ok plan) :
    ∃ entity projection, schema.entity? name = some entity ∧
      query.Projects ⟨schema, settings.delimiter⟩ entity projection ∧
      (Sql.Confined schema entity projection dialect table (Sql.select dialect table plan) ↔
        projection.HasColumn ∧ ¬ projection.Clashes schema entity) ∧
      (schema.EveryName (fun name => '_' ∉ name.toList) → ¬ projection.Clashes schema entity) ∧
      (¬ projection.HasColumn →
        Sql.ListsAll dialect table (Sql.select dialect table plan)) := by
  obtain ⟨_, planned⟩ := (Planner.forTables schema settings).planChecked_eq_ok.mp planned
  simp only [Planner.planQuery, Planner.planEntity_eq, bind_eq_ok, pure_eq_ok,
    Planner.entity_eq_ok] at planned
  obtain ⟨entity, known, _, _, _, _, found, projected, _, _, _, _, rfl⟩ := planned
  obtain ⟨projection, rfl, projects⟩ :=
    (Planner.forTables schema settings).projects_of_projection? named projected
  refine ⟨entity, projection, known, projects, confined_iff projects rfl,
    fun separable => not_clashes (Schema.mem_of_entity? known) separable projects,
    fun none_left => Sql.select_listsAll dialect table ?_⟩
  exact congrArg some (columns_eq_nil_iff.mpr none_left)

end Main

/-! ### Statements for an account -/

namespace Sample

/-- An account with a secret. -/
def account : Entity where
  name := "User"
  identity := "Id"
  fields :=
    [{ name := "Id", type := .scalar .int64 }, { name := "Secret", type := .scalar .string }]

/-- Accounts alone. -/
def accounts : Schema := .ofEntities 1 [account]

/-- Accounts without their secret. -/
def withoutSecret : Query := { excludes := ["secret"] }

/-- Accounts without any of their fields. -/
def withoutFields : Query := { excludes := ["Id", "Secret"] }

/-- The path to a field of an account. -/
def accountPath (name : String) (type : ScalarType) : Path := .one ⟨name, none, .scalar type⟩

/-- The projection that leaves out some fields of an account. -/
def leavingOut (fields : List Path) : Projection := ⟨.exclude, fields, accounts.leafPaths account⟩

/-- The plan that returns some columns of every record. -/
def returning (columns : List String) : TablePlan := ⟨none, [], some columns, none, none⟩

theorem leafPaths_account :
    accounts.leafPaths account = [accountPath "Id" .int64, accountPath "Secret" .string] := by
  unfold Schema.leafPaths Schema.leavesBelow
  rfl

theorem project_withoutSecret :
    Sql.Relational.project (leavingOut [accountPath "Secret" .string]) = ["Id"] := by
  rw [leavingOut, leafPaths_account]
  rfl

theorem project_withoutFields :
    Sql.Relational.project
      (leavingOut [accountPath "Id" .int64, accountPath "Secret" .string]) = [] := by
  rw [leavingOut, leafPaths_account]
  rfl

theorem withoutSecret_confined :
    (Planner.forTables accounts {}).planChecked "user" withoutSecret = .ok (returning ["Id"]) ∧
      (Sql.select .postgres "t" (returning ["Id"])).sql = "SELECT \"Id\" FROM \"t\"" ∧
      ∃ entity projection, accounts.entity? "user" = some entity ∧
        withoutSecret.Projects ⟨accounts, "."⟩ entity projection ∧
        (Sql.Confined accounts entity projection .postgres "t"
            (Sql.select .postgres "t" (returning ["Id"])) ↔
          projection.HasColumn ∧ ¬ projection.Clashes accounts entity) := by
  have planned : (Planner.forTables accounts {}).planChecked "user" withoutSecret =
      .ok (returning ["Id"]) := by
    rw [← project_withoutSecret]
    rfl
  obtain ⟨entity, projection, known, projects, confined, _⟩ :=
    select_confined_iff .postgres "t" (.inr (by decide)) planned
  exact ⟨planned, by decide, entity, projection, known, projects, confined⟩

/-- Where every field is left out, the statement returns all of them. -/
theorem withoutFields_returns_all :
    (Planner.forTables accounts {}).planChecked "User" withoutFields = .ok (returning []) ∧
      (Sql.select .postgres "t" (returning [])).sql = "SELECT * FROM \"t\"" ∧
      ∀ entity projection, ¬ Sql.Confined accounts entity projection .postgres "t"
        (Sql.select .postgres "t" (returning [])) := by
  have planned : (Planner.forTables accounts {}).planChecked "User" withoutFields =
      .ok (returning []) := by
    rw [← project_withoutFields]
    rfl
  refine ⟨planned, by decide, ?_⟩
  rintro entity projection ⟨columns, listed, _⟩
  exact (Sql.select_listsAll .postgres "t" rfl).not_lists columns listed

end Sample

end RecordQuery
