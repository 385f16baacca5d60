import RecordQuery.Proofs.Columns
import RecordQuery.Proofs.Confinement
import RecordQuery.Proofs.LetterCase
import RecordQuery.Proofs.Walks

/-!
# Projected fields

A document store is given the keys of the fields to return or to leave out and finds the leaves at
or below them; a table is given the columns of the leaves themselves. Both return the same leaves as
long as distinct paths have distinct columns. The paths that count are those that references lead to
and the leaf paths, which no reference need lead to.
-/

namespace RecordQuery

open Sql (TablePlan)
open Sql.Relational (column)

/-! ### Projections of documents -/

namespace FilterDocument

/-- The key of a projection is that of the path or of a field above it. -/
def reaches (named : String) (path : Path) : Bool :=
  key path == named || (named.toList ++ ['.']).isPrefixOf (key path).toList

/-- Does a store return the leaf at the path? With ones it returns what the keys reach, with zeros
what they do not reach. -/
def returns : Json → Path → Bool
  | .object entries, path =>
    let reached := entries.any fun entry => reaches entry.1 path
    if entries.all fun entry => entry.2 == .integer 0 then !reached else reached
  | _, _ => true

/-- Names without points let a key reach the paths at or under its field, and no others. -/
theorem reaches_key_iff {path above : Path} (clean : ∀ name ∈ path.names, '.' ∉ name.toList)
    (aboveClean : ∀ name ∈ above.names, '.' ∉ name.toList) :
    reaches (key above) path = true ↔ path.isUnder above = true := by
  unfold reaches
  rw [Bool.or_eq_true, beq_iff_eq, List.isPrefixOf_iff_prefix]
  constructor
  · rintro (same | begun)
    · have names : path.names = above.names := Path.names_eq_of_join_eq rfl clean aboveClean same
      simp [Path.isUnder, names]
    · exact Path.isUnder_of_join_prefix rfl clean aboveClean begun
  · intro under
    exact Path.join_of_isUnder under

section Flags

variable {fields : List Path} {flag : Int}

/-- A key that is named twice stands once, but it does stand. -/
theorem exists_of_named (flag : Int) {field : Path} (named : field ∈ fields) :
    ∃ entry ∈ putEntries (fields.map fun field => (key field, Json.integer flag)),
      entry.1 = key field := by
  have present : key field ∈
      (putEntries (fields.map fun field => (key field, Json.integer flag))).map (·.1) := by
    rw [mem_keys_putEntries, List.map_map]
    exact List.mem_map.mpr ⟨field, named, rfl⟩
  obtain ⟨entry, member, same⟩ := List.mem_map.mp present
  exact ⟨entry, member, same⟩

theorem named_of_mem {entry : String × Json}
    (member : entry ∈ putEntries (fields.map fun field => (key field, Json.integer flag))) :
    ∃ field ∈ fields, entry = (key field, .integer flag) := by
  obtain ⟨field, named, same⟩ := List.mem_map.mp (mem_of_mem_putEntries member)
  exact ⟨field, named, same.symm⟩

/-- Some key reaches the leaf when it lies at or under one of the fields. -/
theorem any_reaches_iff {leaf : Path} (clean : ∀ name ∈ leaf.names, '.' ∉ name.toList)
    (fieldsClean : ∀ field ∈ fields, ∀ name ∈ field.names, '.' ∉ name.toList) :
    (putEntries (fields.map fun field => (key field, Json.integer flag))).any
        (fun entry => reaches entry.1 leaf) = true ↔
      ∃ field ∈ fields, leaf.isUnder field = true := by
  rw [List.any_eq_true]
  constructor
  · rintro ⟨entry, member, reached⟩
    obtain ⟨field, named, rfl⟩ := named_of_mem member
    exact ⟨field, named, (reaches_key_iff clean (fieldsClean field named)).mp reached⟩
  · rintro ⟨field, named, under⟩
    obtain ⟨entry, member, same⟩ := exists_of_named flag named
    refine ⟨entry, member, ?_⟩
    rw [same]
    exact (reaches_key_iff clean (fieldsClean field named)).mpr under

theorem all_zero_iff (filled : fields ≠ []) :
    (putEntries (fields.map fun field => (key field, Json.integer flag))).all
      (fun entry => entry.2 == .integer 0) = true ↔ flag = 0 := by
  rw [List.all_eq_true]
  constructor
  · intro zeros
    obtain ⟨field, named⟩ := List.exists_mem_of_ne_nil fields filled
    obtain ⟨entry, member, _⟩ := exists_of_named flag named
    have zero := zeros entry member
    obtain ⟨_, _, rfl⟩ := named_of_mem member
    simpa using zero
  · rintro rfl entry member
    obtain ⟨_, _, rfl⟩ := named_of_mem member
    simp

end Flags

/-- A store reads the projection back: it returns the leaves at or under the named fields, or all
others. -/
theorem returns_project_iff {projection : Projection} {leaf : Path}
    (filled : projection.fields ≠ []) (clean : ∀ name ∈ leaf.names, '.' ∉ name.toList)
    (fieldsClean : ∀ field ∈ projection.fields, ∀ name ∈ field.names, '.' ∉ name.toList) :
    returns (project projection) leaf = true ↔
      (projection.kind = .include ↔ projection.Covers leaf) := by
  obtain ⟨kind, fields, leaves⟩ := projection
  cases kind with
  | «include» =>
    have ones := mt (all_zero_iff filled).mp (show (1 : Int) ≠ 0 by decide)
    simp only [project, returns, if_neg ones, any_reaches_iff clean fieldsClean,
      Projection.Covers, true_iff]
  | exclude =>
    have zeros := (all_zero_iff filled).mpr rfl
    simp only [project, returns, if_pos zeros, Bool.not_eq_true', ← Bool.not_eq_true,
      any_reaches_iff clean fieldsClean, Projection.Covers, reduceCtorEq, false_iff]

end FilterDocument

/-! ### Selected leaves -/

/-- Where names are distinct, nothing lies under a field that embeds nothing but the field. -/
theorem Schema.Declares.eq_of_isUnder {schema : Schema} (distinct : schema.DistinctNames)
    {entity : Entity} (member : entity ∈ schema.entities.values) {path above : Path}
    (declared : schema.Declares entity path) (aboveDeclared : schema.Declares entity above)
    (plain : above.type.isComposite = false) (under : path.isUnder above = true) :
    path = above := by
  have leads {last : Field} {before : List Field} {owner : Entity} {field : Field}
      (walk : schema.LeadsTo owner before last) (passed : field ∈ before) :
      field.type.isComposite = true := by
    induction before generalizing owner with
    | nil => cases passed
    | cons first rest ih =>
      obtain ⟨_, child, embedded, further⟩ := walk
      rcases List.mem_cons.mp passed with rfl | later
      · obtain ⟨name, embeds, _⟩ := Option.bind_eq_some_iff.mp embedded
        simp [FieldType.isComposite, embeds]
      · exact ih further later
  obtain ⟨fields, walk, rfl⟩ := declared
  obtain ⟨aboveFields, aboveWalk, rfl⟩ := aboveDeclared
  -- Distinct names lift the prefix of names to one of fields.
  rw [Path.isUnder, List.isPrefixOf_iff_prefix, Path.names_segments, Path.names_segments] at under
  obtain ⟨further, whole⟩ := aboveWalk.prefix_of_names distinct member walk under
  rcases List.eq_nil_or_concat further with rfl | ⟨others, last, rfl⟩
  · rw [List.append_nil] at whole
    have same : aboveFields = fields := Chain.toList_injective whole
    rw [same]
  · -- Were there a further field, the one above would lead on and embed an entity.
    have passed : aboveFields.last ∈ fields.before := by
      rw [List.concat_eq_append, ← List.append_assoc] at whole
      obtain ⟨befores, _⟩ := List.append_inj' whole rfl
      rw [← befores]
      simp
    cases plain.symm.trans (leads walk passed)

namespace Query.Projects

variable {query : Query} {resolver : Resolver} {entity : Entity} {projection : Projection}

/-- A query asks for one projection. -/
theorem fields_eq {other : Query} {projection' : Projection}
    (projects : query.Projects resolver entity projection)
    (projects' : other.Projects resolver entity projection')
    (same : (if query.includes.isEmpty then query.excludes else query.includes) =
      if other.includes.isEmpty then other.excludes else other.includes) :
    projection.fields = projection'.fields := by
  have resolved := projects.fields
  have resolved' := projects'.fields
  rw [← same] at resolved'
  generalize (if query.includes.isEmpty then query.excludes else query.includes) = references
    at resolved resolved'
  generalize projection.fields = paths at resolved ⊢
  generalize projection'.fields = paths' at resolved' ⊢
  induction resolved generalizing paths' with
  | nil =>
    cases resolved'
    rfl
  | cons first _ ih =>
    cases resolved' with
    | cons first' rest' =>
      cases first.symm.trans first'
      rw [ih _ rest']

theorem fields_ne_nil (projects : query.Projects resolver entity projection)
    (named : query.includes ≠ [] ∨ query.excludes ≠ []) : projection.fields ≠ [] := by
  intro none_named
  have resolved := projects.fields
  rw [none_named, List.forall₂_nil_right_iff] at resolved
  split at resolved
  next none_included =>
    rcases named with included | excluded
    · exact included (by simpa using none_included)
    · exact excluded resolved
  next some_included => simp [resolved] at some_included

theorem declares (projects : query.Projects resolver entity projection) {field : Path}
    (named : field ∈ projection.fields) : resolver.schema.Declares entity field := by
  obtain ⟨reference, _, resolved⟩ := exists_related projects.fields named
  exact resolver.declares_of_resolve resolved

/-- Of the leaf paths those are selected that lie at or under the named fields, or all others. -/
theorem mem_selected_iff (distinct : resolver.schema.DistinctNames)
    (member : entity ∈ resolver.schema.entities.values)
    (projects : query.Projects resolver entity projection) {leaf : Path}
    (listed : leaf ∈ resolver.schema.leafPaths entity) :
    leaf ∈ projection.selected ↔ (projection.kind = .include ↔ projection.Covers leaf) := by
  cases kind : projection.kind with
  | «include» =>
    simp only [true_iff]
    constructor
    · exact Projection.covers_of_mem_selected kind
    · rintro ⟨field, named, under⟩
      simp only [Projection.selected, kind, List.mem_flatMap]
      refine ⟨field, named, ?_⟩
      unfold Projection.below
      split
      next => exact List.mem_filter.mpr ⟨projects.leaves ▸ listed, under⟩
      next plain =>
        have only_itself : leaf = field :=
          (Schema.declares_of_mem_leafPaths listed).eq_of_isUnder distinct member
            (projects.declares named) (by simpa using plain) under
        exact List.mem_singleton.mpr only_itself
  | exclude =>
    simp only [reduceCtorEq, false_iff]
    constructor
    · exact Projection.not_covers_of_mem_selected kind
    · intro uncovered
      simp only [Projection.selected, kind, List.mem_filter, Bool.not_eq_true']
      refine ⟨projects.leaves ▸ listed, ?_⟩
      rw [← Bool.not_eq_true, List.any_eq_true]
      exact uncovered

end Query.Projects

/-- The path is one that a reference leads to, or a leaf path. -/
def Resolver.Finds (resolver : Resolver) (entity : Entity) (path : Path) : Prop :=
  (∃ reference, resolver.resolve entity reference = .ok (some path)) ∨
    path ∈ resolver.schema.leafPaths entity

theorem Resolver.Finds.declares {resolver : Resolver} {entity : Entity} {path : Path}
    (found : resolver.Finds entity path) : resolver.schema.Declares entity path := by
  rcases found with ⟨reference, resolved⟩ | listed
  · exact resolver.declares_of_resolve resolved
  · exact Schema.declares_of_mem_leafPaths listed

theorem Query.Projects.finds {query : Query} {resolver : Resolver} {entity : Entity}
    {projection : Projection} (projects : query.Projects resolver entity projection) {leaf : Path}
    (selected : leaf ∈ projection.selected) : resolver.Finds entity leaf := by
  cases kind : projection.kind with
  | «include» =>
    simp only [Projection.selected, kind, List.mem_flatMap] at selected
    obtain ⟨field, named, here⟩ := selected
    rcases (Projection.mem_below here).2 with listed | rfl
    · exact .inr (projects.leaves ▸ listed)
    · obtain ⟨reference, _, resolved⟩ := exists_related projects.fields named
      exact .inl ⟨reference, resolved⟩
  | exclude =>
    simp only [Projection.selected, kind, List.mem_filter] at selected
    exact .inr (projects.leaves ▸ selected.1)

/-! ### Main result -/

/-- Distinct paths of this kind have distinct columns. -/
def Sql.Relational.TellsApart (paths : Path → Prop) : Prop :=
  ∀ left right, paths left → paths right → column left = column right → left = right

/-- The columns are named once, and those of the leaves without a collection are the columns of the
leaves that a document store returns. -/
structure ProjectedAlike (leaves : List Path) (projection : Json) (columns : List String) :
    Prop where
  distinct : columns.Nodup
  alike : ∀ leaf ∈ leaves, leaf.crossesCollection = false →
    (column leaf ∈ columns ↔ FilterDocument.returns projection leaf = true)

namespace Planner

variable {Emitted Order Fields : Type} (planner : Planner Emitted Order Fields) {entity : Entity}

/-- The fields of a plan are those of the projection that its query asks for. -/
theorem projects_of_planQuery {name : String} {query : Query} {plan : Plan Emitted Order Fields}
    (known : planner.schema.entity? name = some entity)
    (named : query.includes ≠ [] ∨ query.excludes ≠ [])
    (planned : planner.planQuery name query = .ok plan) :
    ∃ projection, plan.fields = some (planner.backend.project projection) ∧
      query.Projects planner.resolver entity projection := by
  simp only [planQuery, planEntity_eq, bind_eq_ok, pure_eq_ok, entity_eq_ok] at planned
  obtain ⟨found, looked, _, _, _, _, _, projected, _, _, _, _, rfl⟩ := planned
  cases known.symm.trans looked
  obtain ⟨projection, rfl, projects⟩ := planner.projects_of_projection? named projected
  exact ⟨projection, rfl, projects⟩

end Planner

section Main

variable {schema : Schema} {settings : Settings} {entity : Entity}

/-- The column of a leaf is returned exactly when a document store returns the leaf. -/
theorem projectedAlike_project {query : Query} {projection : Projection}
    (distinct : schema.DistinctNames) (undotted : schema.EveryName fun name => '.' ∉ name.toList)
    (member : entity ∈ schema.entities.values)
    (apart : Sql.Relational.TellsApart (Resolver.Finds ⟨schema, settings.delimiter⟩ entity))
    (named : query.includes ≠ [] ∨ query.excludes ≠ [])
    (projects : query.Projects ⟨schema, settings.delimiter⟩ entity projection) :
    ProjectedAlike (schema.leafPaths entity) (FilterDocument.project projection)
      (Sql.Relational.project projection) where
  distinct := Sql.Relational.nodup_withoutRepeats _
  alike := by
    intro leaf listed clear
    have clean {path : Path} (declared : schema.Declares entity path) :
        ∀ name ∈ path.names, '.' ∉ name.toList := declared.names undotted member
    rw [FilterDocument.returns_project_iff (projects.fields_ne_nil named)
        (clean (Schema.declares_of_mem_leafPaths listed))
        fun field here => clean (projects.declares here),
      ← projects.mem_selected_iff distinct member listed, Sql.Relational.mem_project]
    constructor
    · rintro ⟨other, selected, _, same⟩
      -- The selected leaf with the column is the leaf itself.
      have one_leaf : other = leaf := apart other leaf (projects.finds selected) (.inr listed) same
      exact one_leaf ▸ selected
    · intro selected
      exact ⟨leaf, selected, clear, rfl⟩

/-- Both planners resolve the same fields, so they make the same projection of them. -/
theorem shared_projection {name : String} {query : Query}
    {inDocuments : Plan Json (List (String × Int)) Json} {inTable : TablePlan}
    (known : schema.entity? name = some entity)
    (named : query.includes ≠ [] ∨ query.excludes ≠ [])
    (planned : (Planner.forDocuments schema settings).planQuery name query = .ok inDocuments)
    (tabled : (Planner.forTables schema settings).planQuery name query = .ok inTable) :
    ∃ projection : Projection, query.Projects ⟨schema, settings.delimiter⟩ entity projection ∧
      inDocuments.fields = some (FilterDocument.project projection) ∧
      inTable.fields = some (Sql.Relational.project projection) := by
  obtain ⟨projection, fields, projects⟩ := Planner.projects_of_planQuery _ known named planned
  obtain ⟨projection', fields', projects'⟩ := Planner.projects_of_planQuery _ known named tabled
  have kinds := projects.kind.trans projects'.kind.symm
  have paths := projects.fields_eq projects' rfl
  have leaves := projects.leaves.trans projects'.leaves.symm
  have same : projection = projection' := by
    cases projection
    cases projection'
    simp_all
  exact ⟨projection, projects, fields, same ▸ fields'⟩

/-- What the one projection reaches it returns, and what the other reaches it leaves out. -/
theorem returns_opposite {query opposite : Query} {projection projection' : Projection}
    (undotted : schema.EveryName fun name => '.' ∉ name.toList)
    (member : entity ∈ schema.entities.values)
    (projects : query.Projects ⟨schema, settings.delimiter⟩ entity projection)
    (projects' : opposite.Projects ⟨schema, settings.delimiter⟩ entity projection')
    (including : query.includes ≠ []) (none_included : opposite.includes = [])
    (same : opposite.excludes = query.includes) {leaf : Path}
    (listed : leaf ∈ schema.leafPaths entity) :
    FilterDocument.returns (FilterDocument.project projection') leaf = true ↔
      FilterDocument.returns (FilterDocument.project projection) leaf = false := by
  have clean {path : Path} (declared : schema.Declares entity path) :
      ∀ name ∈ path.names, '.' ∉ name.toList := declared.names undotted member
  have leafClean := clean (Schema.declares_of_mem_leafPaths listed)
  have returned := FilterDocument.returns_project_iff (projects.fields_ne_nil (.inl including))
    leafClean fun field here => clean (projects.declares here)
  have returned' := FilterDocument.returns_project_iff
    (projects'.fields_ne_nil (.inr (same ▸ including))) leafClean
    fun field here => clean (projects'.declares here)
  have kind : projection.kind = .include := by simp [projects.kind, including]
  have kind' : projection'.kind = .exclude := by simp [projects'.kind, none_included]
  have fields : projection.fields = projection'.fields :=
    projects.fields_eq projects' (by simp [including, none_included, same])
  have covers : projection'.Covers leaf ↔ projection.Covers leaf := by
    unfold Projection.Covers
    rw [fields]
  rw [← Bool.not_eq_true, returned', returned, kind, kind', covers]
  simp

/-- Both backends return the same leaves of those that cross no collection, where distinct paths
have distinct columns, no name holds a point and no entity declares a name twice. A query that
returns some fields and one that leaves out the same fields then share the leaves between them. -/
theorem fields_projected_alike {name : String} {query : Query}
    {inDocuments : Plan Json (List (String × Int)) Json} {inTable : TablePlan}
    (distinct : schema.DistinctNames) (undotted : schema.EveryName fun name => '.' ∉ name.toList)
    (known : schema.entity? name = some entity)
    (apart : Sql.Relational.TellsApart (Resolver.Finds ⟨schema, settings.delimiter⟩ entity))
    (named : query.includes ≠ [] ∨ query.excludes ≠ [])
    (planned : (Planner.forDocuments schema settings).planQuery name query = .ok inDocuments)
    (tabled : (Planner.forTables schema settings).planQuery name query = .ok inTable) :
    ∃ projection columns, inDocuments.fields = some projection ∧ inTable.fields = some columns ∧
      ProjectedAlike (schema.leafPaths entity) projection columns ∧
      ∀ {opposite : Query} {inDocuments' : Plan Json (List (String × Int)) Json}
        {inTable' : TablePlan}, query.includes ≠ [] → opposite.includes = [] →
        opposite.excludes = query.includes →
        (Planner.forDocuments schema settings).planQuery name opposite = .ok inDocuments' →
        (Planner.forTables schema settings).planQuery name opposite = .ok inTable' →
        ∃ projection' columns', inDocuments'.fields = some projection' ∧
          inTable'.fields = some columns' ∧
          ∀ leaf ∈ schema.leafPaths entity, leaf.crossesCollection = false →
            (column leaf ∈ columns' ↔ column leaf ∉ columns) ∧
            (FilterDocument.returns projection' leaf = true ↔
              FilterDocument.returns projection leaf = false) := by
  have member : entity ∈ schema.entities.values := Schema.mem_of_entity? known
  obtain ⟨projection, projects, documents, table⟩ :=
    shared_projection known named planned tabled
  have alike := projectedAlike_project distinct undotted member apart named projects
  refine ⟨_, _, documents, table, alike, ?_⟩
  intro opposite _ _ including none_included same planned' tabled'
  have named' : opposite.includes ≠ [] ∨ opposite.excludes ≠ [] := .inr (same ▸ including)
  obtain ⟨projection', projects', documents', table'⟩ :=
    shared_projection known named' planned' tabled'
  have alike' := projectedAlike_project distinct undotted member apart named' projects'
  refine ⟨_, _, documents', table', ?_⟩
  intro leaf listed clear
  have opposed := returns_opposite undotted member projects projects' including none_included
    same listed
  refine ⟨?_, opposed⟩
  rw [alike'.alike leaf listed clear, alike.alike leaf listed clear, opposed, Bool.not_eq_true]

end Main

/-! ### Users by the city of their address -/

/-- Names that are distinct and have no underscore tell the paths of an entity apart. -/
theorem Sql.Relational.tellsApart_finds {resolver : Resolver} {entity : Entity}
    (distinct : resolver.schema.DistinctNames)
    (separable : resolver.schema.EveryName fun name => '_' ∉ name.toList)
    (member : entity ∈ resolver.schema.entities.values) :
    TellsApart (resolver.Finds entity) := by
  intro left right foundLeft foundRight same
  have names : left.names = right.names :=
    foundLeft.declares.names_eq_of_join_eq rfl separable (separable entity member)
      foundRight.declares same
  exact foundLeft.declares.eq_of_names distinct member foundRight.declares names

namespace Sample

theorem users_undotted : users.EveryName fun name => '.' ∉ name.toList := by
  unfold Schema.EveryName
  decide

/-- Users by their address alone. -/
def addresses : Query := { includes := ["address"] }

/-- Users without their address. -/
def unaddressed : Query := { excludes := ["address"] }

theorem leafPaths_user :
    users.leafPaths user =
      [.one ⟨"Id", none, .scalar .int64⟩,
       ⟨[⟨"Address", none, .embedded "Address"⟩], ⟨"City", none, .optionalScalar .string⟩⟩] := by
  unfold Schema.leafPaths Schema.leavesBelow Schema.leavesBelow
  rfl

/-- The projection that returns the address alone, or leaves it out alone. -/
def byAddressField (kind : ProjectionKind) : Projection :=
  ⟨kind, [.one ⟨"Address", none, .embedded "Address"⟩], users.leafPaths user⟩

theorem project_byAddressField :
    Sql.Relational.project (byAddressField .include) = ["Address_City"] ∧
      Sql.Relational.project (byAddressField .exclude) = ["Id"] := by
  unfold byAddressField
  rw [leafPaths_user]
  exact ⟨rfl, rfl⟩

/-- The city of an address is returned with the address and left out with it. -/
theorem addresses_projected_alike :
    ∃ projection columns projection' columns',
      (Planner.forDocuments users {}).planQuery "User" addresses =
          .ok ⟨none, [], some projection, none, none⟩ ∧
        (Planner.forTables users {}).planQuery "User" addresses = .ok (returning columns) ∧
        (Planner.forDocuments users {}).planQuery "User" unaddressed =
          .ok ⟨none, [], some projection', none, none⟩ ∧
        (Planner.forTables users {}).planQuery "User" unaddressed = .ok (returning columns') ∧
        columns = ["Address_City"] ∧ columns' = ["Id"] ∧
        ProjectedAlike (users.leafPaths user) projection columns ∧
        ∀ leaf ∈ users.leafPaths user, leaf.crossesCollection = false →
          (column leaf ∈ columns' ↔ column leaf ∉ columns) := by
  have documents : (Planner.forDocuments users {}).planQuery "User" addresses =
      .ok ⟨none, [], some (.object [("Address", .integer 1)]), none, none⟩ := rfl
  have documents' : (Planner.forDocuments users {}).planQuery "User" unaddressed =
      .ok ⟨none, [], some (.object [("Address", .integer 0)]), none, none⟩ := rfl
  have table : (Planner.forTables users {}).planQuery "User" addresses =
      .ok (returning ["Address_City"]) := by
    rw [← project_byAddressField.1]
    rfl
  have table' : (Planner.forTables users {}).planQuery "User" unaddressed =
      .ok (returning ["Id"]) := by
    rw [← project_byAddressField.2]
    rfl
  obtain ⟨projection, columns, returned, selected, alike, opposite⟩ :=
    fields_projected_alike users_distinct users_undotted rfl
      (Sql.Relational.tellsApart_finds users_distinct users_separable (by decide))
      (.inl (by decide)) documents table
  cases returned
  cases selected
  obtain ⟨_, _, returned', selected', split⟩ :=
    opposite (by decide) rfl rfl documents' table'
  cases returned'
  cases selected'
  exact ⟨_, _, _, _, documents, table, documents', table', rfl, rfl, alike,
    fun leaf listed clear => (split leaf listed clear).1⟩

end Sample

/-! ### Nodes whose names hold the delimiter -/

namespace Text

theorem not_mem_of_cutFirst?_eq_none {mark : Char} {text : List Char}
    (absent : cutFirst? [mark] text = none) : mark ∉ text := by
  intro member
  obtain ⟨earlier, later, rfl⟩ := List.append_of_mem member
  have within : [mark] <:+: earlier ++ mark :: later := ⟨earlier, later, by simp⟩
  simpa [within] using cutFirst?_eq_none.mp absent

theorem not_mem_of_cutFirst?_eq_some {mark : Char} {text before behind : List Char}
    (cut : cutFirst? [mark] text = some (before, behind)) : mark ∉ before := by
  obtain ⟨_, split, first⟩ := cutFirst?_eq_some.mp cut
  intro member
  -- The mark would be met before the end of what stands before it.
  obtain ⟨earlier, later, rfl⟩ := List.append_of_mem member
  have longer := first earlier (later ++ [mark] ++ behind) (by simpa using split)
  rw [List.length_append, List.length_cons] at longer
  omega

end Text

namespace Sample

/-- Nodes lead on to nodes. Their last field is named as if it were the number of the next one. -/
def node : Entity where
  name := "Node"
  identity := "id"
  fields :=
    [{ name := "id", type := .scalar .int64 },
     { name := "next", type := .optionalEmbedded "Node" },
     { name := "next_id", type := .scalar .int64 }]

def nodes : Schema := .ofEntities 1 [node]

/-- References are cut at underscores. -/
def underscored : Resolver := ⟨nodes, "_"⟩

theorem nodes_distinct : nodes.DistinctNames := by
  unfold Schema.DistinctNames
  decide

theorem nodes_undotted : nodes.EveryName fun name => '.' ∉ name.toList := by
  unfold Schema.EveryName
  decide

theorem node_unaliased : ∀ field ∈ node.fields, field.aliasName = none := by decide

/-- A piece without underscores finds no field with one. -/
theorem node_findField? {piece : List Char} {field : Field} (clean : '_' ∉ piece)
    (found : node.findField? (String.ofList piece) = some field) :
    field ∈ node.fields ∧ '_' ∉ field.name.toList := by
  have declared : field ∈ node.fields := Entity.mem_of_findField? found
  refine ⟨declared, ?_⟩
  have answers := Entity.answersTo_of_findField? found
  have unaliased : field.aliasName = none := node_unaliased field declared
  have same : Text.sameName field.name (String.ofList piece) = true := by
    simpa [Field.answersTo, unaliased] using answers
  exact Text.not_mem_of_sameName same (by decide) (by simpa using clean)

/-- No reference leads to the last field of a node, as its name is cut. -/
theorem underscored_search {reference : String} {text : List Char} {fields : Chain Field}
    (selected : underscored.search reference node text = .ok (some fields)) :
    ∀ field ∈ fields.toList, '_' ∉ field.name.toList := by
  generalize owned : node = entity at selected
  fun_induction underscored.search reference entity text generalizing fields with
  | case1 entity text whole =>
    subst owned
    have clean : '_' ∉ text := Text.not_mem_of_cutFirst?_eq_none whole
    simp only [Except.ok.injEq, Option.map_eq_some_iff] at selected
    obtain ⟨field, found, rfl⟩ := selected
    simpa using (node_findField? clean found).2
  | case2 => cases selected
  | case3 => cases selected
  | case4 => cases selected
  | case5 => cases selected
  | case6 entity text before behind cut _ field found name embedded child known ih =>
    subst owned
    have clean : '_' ∉ before := Text.not_mem_of_cutFirst?_eq_some cut
    simp only [map_eq_ok, Option.map_eq_some_iff] at selected
    obtain ⟨_, later, rest, rfl, rfl⟩ := selected
    have here := node_findField? clean found
    -- There are no other entities to embed.
    have again : node = child := (List.mem_singleton.mp (Schema.mem_of_entity? known)).symm
    simpa using ⟨here.2, ih again later⟩

theorem leafPaths_node :
    nodes.leafPaths node =
      [.one ⟨"id", none, .scalar .int64⟩, .one ⟨"next_id", none, .scalar .int64⟩] := by
  unfold Schema.leafPaths Schema.leavesBelow
  rfl

/-- Nodes by their number and by that of the next one. -/
def chained : Query := { includes := ["id", "next_id"] }

theorem project_chained :
    Sql.Relational.project
      ⟨.include, [.one ⟨"id", none, .scalar .int64⟩,
        ⟨[⟨"next", none, .optionalEmbedded "Node"⟩], ⟨"id", none, .scalar .int64⟩⟩],
        nodes.leafPaths node⟩ =
      ["id", "next_id"] := by
  rw [leafPaths_node]
  rfl

/-- No two paths that references lead to share a column, but a leaf that none leads to shares that
of a returned one. The table returns it as well. -/
theorem hidden_leaf_shares_column :
    nodes.DistinctNames ∧ (nodes.EveryName fun name => '.' ∉ name.toList) ∧
      nodes.entity? "Node" = some node ∧
      Sql.Relational.TellsApart (fun path =>
        ∃ reference, underscored.resolve node reference = .ok (some path)) ∧
      (Planner.forDocuments nodes { delimiter := "_" }).planQuery "Node" chained =
        .ok ⟨none, [], some (.object [("id", .integer 1), ("next.id", .integer 1)]), none, none⟩ ∧
      (Planner.forTables nodes { delimiter := "_" }).planQuery "Node" chained =
        .ok (returning ["id", "next_id"]) ∧
      ∃ leaf ∈ nodes.leafPaths node, leaf.crossesCollection = false ∧
        column leaf ∈ ["id", "next_id"] ∧
        FilterDocument.returns (.object [("id", .integer 1), ("next.id", .integer 1)]) leaf =
          false := by
  have member : node ∈ nodes.entities.values := by decide
  have apart : Sql.Relational.TellsApart (fun path =>
      ∃ reference, underscored.resolve node reference = .ok (some path)) := by
    rintro left right ⟨reference, resolved⟩ ⟨reference', resolved'⟩ same
    have clean {path : Path} {reference : String}
        (resolved : underscored.resolve node reference = .ok (some path)) :
        ∀ name ∈ path.names, '_' ∉ name.toList := by
      obtain ⟨fields, selected, rfl⟩ := (underscored.resolve_eq_some).mp resolved
      rw [Path.names_segments]
      intro name here
      obtain ⟨field, place, rfl⟩ := List.mem_map.mp here
      exact underscored_search selected field place
    have names : left.names = right.names :=
      Path.names_eq_of_join_eq rfl (clean resolved) (clean resolved') same
    exact (underscored.declares_of_resolve resolved).eq_of_names nodes_distinct member
      (underscored.declares_of_resolve resolved') names
  refine ⟨nodes_distinct, nodes_undotted, rfl, apart, rfl, ?_, ?_⟩
  · rw [← project_chained]
    rfl
  · rw [leafPaths_node]
    exact ⟨.one ⟨"next_id", none, .scalar .int64⟩, by decide, rfl, by decide, by decide⟩

end Sample

end RecordQuery
