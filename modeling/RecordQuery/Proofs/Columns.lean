import RecordQuery.Proofs.Acceptance
import RecordQuery.Proofs.FlatNames

/-!
# Columns in use

A table has a column for each field that embeds nothing and stands behind no collection. A plan
names the columns of its comparisons and of its sort keys. It names no others than those of the
table exactly when no embedded entity is compared with null or ordered by.
-/

namespace RecordQuery

open Sql (Predicate TablePlan)
open Sql.Relational (column)

/-! ### Columns of plans -/

namespace Sql

namespace Predicate

mutual

/-- The columns that a predicate names. -/
def columns : Predicate → List String
  | .compare column _ _ => [column]
  | .isNull column => [column]
  | .isNotNull column => [column]
  | .among column _ => [column]
  | .notAmong column _ => [column]
  | .pattern column _ _ => [column]
  | .all parts => columnsOf parts
  | .any parts => columnsOf parts
  | .constant _ => []

def columnsOf : List Predicate → List String
  | [] => []
  | part :: rest => part.columns ++ columnsOf rest

end

theorem columns_join (connective : Connective) (parts : List Predicate) :
    (Relational.join connective parts).columns = columnsOf parts := by
  cases connective <;> rw [Relational.join, columns]

/-- A comparison names its column, unless it is with an empty set, which is not looked for. -/
theorem mem_columns_of_compare? {named : String} {comparison : Comparison} {operand : Operand}
    {predicate : Predicate}
    (compared : Relational.compare? named comparison operand = some predicate) (other : String) :
    other ∈ predicate.columns ↔ operand ≠ .many [] ∧ named = other := by
  cases operand with
  | null | single _ | pattern _ =>
    cases comparison <;> cases compared <;> simp [columns, columnsOf, eq_comm]
  | many values =>
    cases values <;> cases comparison <;> cases compared <;> simp [columns, columnsOf, eq_comm]

end Predicate

/-- The columns that the condition and the order of a plan name. -/
def columnsInUse (plan : TablePlan) : List String :=
  (plan.filter.map Predicate.columns).getD [] ++ plan.order.map (·.column)

/-- The table of an entity has the column: some declared field keeps its values there. Embedded
entities and collections have no column of their own. -/
def HasColumn (schema : Schema) (entity : Entity) (named : String) : Prop :=
  ∃ path, schema.Declares entity path ∧ path.crossesCollection = false ∧
    path.type.isComposite = false ∧ column path = named

end Sql

/-! ### Paths by their names -/

namespace Schema

/-- Where names are distinct, fields whose names begin the names of others begin these others. -/
theorem LeadsTo.prefix_of_names {schema : Schema} (distinct : schema.DistinctNames)
    {entity : Entity} (member : entity ∈ schema.entities.values) {before before' : List Field}
    {last last' : Field} (walk : schema.LeadsTo entity before last)
    (walk' : schema.LeadsTo entity before' last')
    (begun : (before ++ [last]).map Field.name <+: (before' ++ [last']).map Field.name) :
    before ++ [last] <+: before' ++ [last'] := by
  induction before generalizing entity before' with
  | nil =>
    cases before' with
    | nil =>
      have names : last.name = last'.name := by simpa using begun
      have lasts : last = last' := Entity.eq_of_name_eq (distinct entity member) walk walk' names
      subst lasts
      exact List.prefix_refl _
    | cons first' rest' =>
      obtain ⟨declared', _⟩ := walk'
      have names : last.name = first'.name := by simpa [List.cons_prefix_cons] using begun
      have firsts : last = first' :=
        Entity.eq_of_name_eq (distinct entity member) walk declared' names
      rw [firsts]
      exact ⟨rest' ++ [last'], rfl⟩
  | cons first rest ih =>
    cases before' with
    | nil =>
      -- More names than one do not begin a single one.
      have shorter := begun.length_le
      simp at shorter
    | cons first' rest' =>
      obtain ⟨declared, child, embedded, further⟩ := walk
      obtain ⟨declared', child', embedded', further'⟩ := walk'
      simp only [List.cons_append, List.map_cons, List.cons_prefix_cons] at begun ⊢
      -- Equal first fields embed the same entity, where both walks go on.
      have firsts : first = first' :=
        Entity.eq_of_name_eq (distinct entity member) declared declared' begun.1
      subst firsts
      cases embedded.symm.trans embedded'
      exact ⟨rfl, ih (mem_of_embeddedEntity? embedded) further further' begun.2⟩

/-- Where names are distinct, they tell the fields that lead from an entity on. -/
theorem LeadsTo.eq_of_names {schema : Schema} (distinct : schema.DistinctNames) {entity : Entity}
    (member : entity ∈ schema.entities.values) {before before' : List Field} {last last' : Field}
    (walk : schema.LeadsTo entity before last) (walk' : schema.LeadsTo entity before' last')
    (same : (before ++ [last]).map Field.name = (before' ++ [last']).map Field.name) :
    before = before' ∧ last = last' := by
  have begun := walk.prefix_of_names distinct member walk' (same ▸ List.prefix_refl _)
  have lengths : (before ++ [last]).length = (before' ++ [last']).length := by
    simpa only [List.length_map] using congrArg List.length same
  obtain ⟨befores, lasts⟩ := List.append_inj' (begun.eq_of_length lengths) rfl
  exact ⟨befores, List.cons.inj lasts |>.1⟩

theorem Declares.eq_of_names {schema : Schema} (distinct : schema.DistinctNames)
    {entity : Entity} (member : entity ∈ schema.entities.values) {path path' : Path}
    (declared : schema.Declares entity path) (declared' : schema.Declares entity path')
    (same : path.names = path'.names) : path = path' := by
  obtain ⟨fields, walk, rfl⟩ := declared
  obtain ⟨fields', walk', rfl⟩ := declared'
  rw [Path.names_segments, Path.names_segments] at same
  obtain ⟨befores, lasts⟩ := walk.eq_of_names distinct member walk' same
  have chains : fields = fields' := by
    cases fields
    cases fields'
    simp_all
  rw [chains]

end Schema

/-! ### Operands of embedded entities -/

namespace FieldType

theorem isComposite_of_coerce {type : FieldType} {field : String} {literal : Literal}
    {value : Value} (converted : type.coerce field literal = .ok value) :
    type.isComposite = false := by
  cases type with
  | embedded _ | optionalEmbedded _ | arrayOfEmbedded _ => cases converted
  | _ => rfl

theorem isComposite_of_isText {type : FieldType} (text : type.isText = true) :
    type.isComposite = false := by
  cases type with
  | embedded _ | optionalEmbedded _ | arrayOfEmbedded _ => cases text
  | _ => rfl

end FieldType

namespace Planner

section Operands

variable {type : FieldType} {field : String} {comparison : Comparison} {value : Option Literal}
  {values : List Literal} {typed : Operand}

theorem isText_of_operand {text : String}
    (found : operand type field comparison value values = .ok (.pattern text)) :
    type.isText = true := by
  have pattern : comparison.isPattern = true := (typed_of_operand found).fits
  have single : comparison.isMembership = false := by
    cases comparison with
    | among | notAmong => cases pattern
    | _ => rfl
  unfold operand at found
  simp only [single, Bool.false_eq_true, if_false] at found
  cases value with
  | none =>
    dsimp only at found
    split at found <;> cases found
  | some literal =>
    simp only [if_pos pattern, bind_eq_ok, coerced_eq_ok] at found
    obtain ⟨_, written, _⟩ := found
    unfold FieldType.patternText at written
    split at written
    next text => exact text
    next => cases written

/-- An embedded entity is compared with null or with the empty set, and with nothing else. -/
theorem isComposite_of_operand (found : operand type field comparison value values = .ok typed)
    (not_null : typed ≠ .null) (not_empty : typed ≠ .many []) : type.isComposite = false := by
  have converted := (typed_of_operand found).values
  cases typed with
  | null => exact absurd rfl not_null
  | single value =>
    obtain ⟨_, conversion⟩ := converted value List.mem_cons_self
    exact FieldType.isComposite_of_coerce conversion
  | many values =>
    cases values with
    | nil => exact absurd rfl not_empty
    | cons value rest =>
      obtain ⟨_, conversion⟩ := converted value List.mem_cons_self
      exact FieldType.isComposite_of_coerce conversion
  | pattern text => exact FieldType.isComposite_of_isText (isText_of_operand found)

end Operands

/-! ### Paths in use -/

variable {Emitted Order Fields : Type} (planner : Planner Emitted Order Fields) (entity : Entity)
  (query : Query)

/-- The query compares the field at the path with the operand. -/
def Compares (path : Path) (operand : Operand) : Prop :=
  ∃ raw ∈ query.comparisons, ∃ leaf, planner.Reads entity raw leaf ∧ leaf.path = path ∧
    leaf.operand = operand

/-- The query orders by the field at the path. -/
def OrdersBy (path : Path) : Prop :=
  ∃ key ∈ query.order, ∃ field, key.field = some field ∧
    planner.resolver.resolve entity field = .ok (some path)

/-- The query orders by the field at the path, or compares it with something that is looked for. -/
def Uses (path : Path) : Prop :=
  (∃ operand, operand ≠ .many [] ∧ planner.Compares entity query path operand) ∨
    planner.OrdersBy entity query path

/-- The query uses the field at the path without a value: it orders by it or compares it with
null. -/
def UsesBare (path : Path) : Prop :=
  planner.Compares entity query path .null ∨ planner.OrdersBy entity query path

variable {planner entity query}

theorem Uses.resolved {path : Path} (used : planner.Uses entity query path) :
    ∃ field ∈ query.references, planner.resolver.resolve entity field = .ok (some path) := by
  rcases used with ⟨operand, _, raw, member, leaf, reads, rfl, _⟩ |
    ⟨key, member, field, named, found⟩
  · refine ⟨raw.field, ?_, reads.path⟩
    exact List.mem_append_left _ (List.mem_append_left _ (List.mem_map_of_mem member))
  · refine ⟨field, ?_, found⟩
    exact List.mem_append_left _
      (List.mem_append_right _ (List.mem_filterMap.mpr ⟨key, member, named⟩))

theorem UsesBare.uses {path : Path} (bare : planner.UsesBare entity query path) :
    planner.Uses entity query path :=
  bare.imp_left fun compared => ⟨.null, by simp, compared⟩

/-- An embedded entity is only used without a value. -/
theorem Uses.bare {path : Path} (used : planner.Uses entity query path)
    (composite : path.type.isComposite = true) : planner.UsesBare entity query path := by
  rcases used with ⟨operand, not_empty, raw, member, leaf, reads, rfl, rfl⟩ | ordered
  · by_cases null : leaf.operand = .null
    · exact .inl ⟨raw, member, leaf, reads, rfl, null⟩
    · cases composite.symm.trans (isComposite_of_operand reads.operand null not_empty)
  · exact .inr ordered

/-! ### Columns in use -/

section Tables

variable {schema : Schema} {settings : Settings}

mutual

/-- The columns of a predicate are those of the comparisons that it is emitted for. -/
theorem mem_columns_of_emitTree (schema : Schema) (settings : Settings) :
    ∀ (tree : Tree) {predicate : Predicate},
      (forTables schema settings).emitTree tree = .ok predicate → ∀ named,
        (named ∈ predicate.columns ↔
          ∃ leaf ∈ tree.leaves, leaf.operand ≠ .many [] ∧ column leaf.path = named)
  | .comparison leaf, predicate, emitted, named => by
    obtain ⟨_, compared⟩ := forTables_emitLeaf_eq_ok.mp emitted
    simp only [Tree.leaves, List.mem_singleton, exists_eq_left]
    exact Predicate.mem_columns_of_compare? compared named
  | .joined connective parts, predicate, emitted, named => by
    obtain ⟨predicates, emittedParts, rfl⟩ :=
      (forTables schema settings).emitTree_joined_eq_ok.mp emitted
    have joined : ((forTables schema settings).backend.join connective predicates).columns =
        Predicate.columnsOf predicates := Predicate.columns_join connective predicates
    rw [joined]
    exact mem_columns_of_emitTrees schema settings parts emittedParts named

theorem mem_columns_of_emitTrees (schema : Schema) (settings : Settings) :
    ∀ (trees : List Tree) {predicates : List Predicate},
      (forTables schema settings).emitTrees trees = .ok predicates → ∀ named,
        (named ∈ Predicate.columnsOf predicates ↔
          ∃ leaf ∈ Tree.leavesOf trees, leaf.operand ≠ .many [] ∧ column leaf.path = named)
  | [], predicates, emitted, named => by
    cases emitted
    simp [Predicate.columnsOf, Tree.leavesOf]
  | tree :: rest, predicates, emitted, named => by
    obtain ⟨predicate, others, first, later, rfl⟩ :=
      (forTables schema settings).emitTrees_cons_eq_ok.mp emitted
    simp only [Predicate.columnsOf, Tree.leavesOf, List.mem_append, or_and_right, exists_or,
      mem_columns_of_emitTree schema settings tree first named,
      mem_columns_of_emitTrees schema settings rest later named]

end

variable {entity : Entity} {query : Query}

/-- The columns of a planned condition are those of the paths that it compares. -/
theorem mem_columns_of_planOptional {filter : Option Predicate}
    (planned : (forTables schema settings).planOptional entity query.condition = .ok filter)
    (named : String) :
    named ∈ (filter.map Predicate.columns).getD [] ↔
      ∃ path, (∃ operand, operand ≠ .many [] ∧
        (forTables schema settings).Compares entity query path operand) ∧ column path = named := by
  cases given : query.condition with
  | none =>
    have no_comparison : query.comparisons = [] := by rw [Query.comparisons, given]; rfl
    rw [given] at planned
    cases planned
    simp [Compares, no_comparison]
  | some condition =>
    have comparisons : query.comparisons = condition.comparisons := by
      rw [Query.comparisons, given]; rfl
    rw [given] at planned
    obtain ⟨predicate, emission, rfl⟩ := map_eq_ok.mp planned
    obtain ⟨tree, resolves, emitted⟩ := (planCondition_eq_ok _ entity condition _).mp emission
    have read := leaves_of_planCondition _ entity condition tree resolves
    have in_tree := mem_columns_of_emitTree schema settings tree emitted named
    rw [Option.map_some, Option.getD_some, in_tree]
    constructor
    · rintro ⟨leaf, place, not_empty, same⟩
      obtain ⟨raw, member, reads⟩ := exists_related read place
      exact ⟨leaf.path,
        ⟨leaf.operand, not_empty, raw, comparisons ▸ member, leaf, reads, rfl, rfl⟩, same⟩
    · rintro ⟨_, ⟨_, not_empty, raw, member, leaf, reads, rfl, rfl⟩, same⟩
      -- The comparison is read in one way only, so what was read is the leaf in the tree.
      obtain ⟨other, place, found⟩ := exists_related read.flip (comparisons ▸ member)
      cases reads.unique found
      exact ⟨leaf, place, not_empty, same⟩

theorem mem_columns_of_sortKeys {keys : List OrderKey} {sorts : List SortKey}
    (planned : keys.mapM ((forTables schema settings).sortKey entity) = .ok sorts)
    (named : String) :
    named ∈ sorts.map (fun sort => column sort.path) ↔
      ∃ path, (∃ key ∈ keys, ∃ field, key.field = some field ∧
        (forTables schema settings).resolver.resolve entity field = .ok (some path)) ∧
          column path = named := by
  have sorted := mapM_eq_ok.mp planned
  constructor
  · intro member
    obtain ⟨sort, place, same⟩ := List.mem_map.mp member
    obtain ⟨key, given, keyed⟩ := exists_related sorted place
    obtain ⟨field, field_named, found, _⟩ := (sortKey_eq_ok _ entity).mp keyed
    have resolved := ((resolve_eq_ok _ entity).mp found).1
    exact ⟨sort.path, ⟨key, given, field, field_named, resolved⟩, same⟩
  · rintro ⟨path, ⟨key, given, field, field_named, resolved⟩, same⟩
    obtain ⟨sort, place, keyed⟩ := exists_related sorted.flip given
    obtain ⟨other, other_named, found, _⟩ := (sortKey_eq_ok _ entity).mp keyed
    cases field_named.symm.trans other_named
    cases resolved.symm.trans ((resolve_eq_ok _ entity).mp found).1
    exact List.mem_map.mpr ⟨sort, place, same⟩

/-- A plan uses the columns of the paths that the query uses. -/
theorem mem_columnsInUse {plan : TablePlan}
    (planned : (forTables schema settings).planEntity entity query = .ok plan) (named : String) :
    named ∈ Sql.columnsInUse plan ↔
      ∃ path, (forTables schema settings).Uses entity query path ∧ column path = named := by
  simp only [planEntity_eq, bind_eq_ok, pure_eq_ok] at planned
  obtain ⟨filter, conditional, sorts, sorted, _, _, _, _, _, _, rfl⟩ := planned
  have terms : ((forTables schema settings).backend.order sorts).map (·.column) =
      sorts.map fun sort => column sort.path := List.map_map
  unfold Sql.columnsInUse Uses OrdersBy
  rw [List.mem_append, terms, mem_columns_of_planOptional conditional,
    mem_columns_of_sortKeys sorted]
  simp only [or_and_right, exists_or]

theorem Uses.clear {plan : TablePlan}
    (planned : (forTables schema settings).planEntity entity query = .ok plan) {path : Path}
    (used : (forTables schema settings).Uses entity query path) :
    path.crossesCollection = false := by
  obtain ⟨field, member, resolved⟩ := used.resolved
  have clear := (mirrors_planEntity entity query).clear_of_tables planned
  cases crosses : path.crossesCollection with
  | false => rfl
  | true => exact absurd ⟨field, member, path, resolved, crosses⟩ clear

end Tables

end Planner

/-! ### Main result -/

/-- Names that are distinct and have no underscore leave an embedded entity without a column. -/
theorem not_hasColumn {schema : Schema} (distinct : schema.DistinctNames)
    (separable : schema.EveryName fun name => '_' ∉ name.toList) {entity : Entity}
    (member : entity ∈ schema.entities.values) {path : Path}
    (declared : schema.Declares entity path) (composite : path.type.isComposite = true) :
    ¬ Sql.HasColumn schema entity (column path) := by
  rintro ⟨other, declared_other, _, plain, same⟩
  have names : other.names = path.names :=
    declared_other.names_eq_of_join_eq rfl separable (separable entity member) declared same
  cases declared_other.eq_of_names distinct member declared names
  cases plain.symm.trans composite

/-- The columns that a checked query for a table uses are those of the paths that it compares with
something to look for or orders by, and none of these crosses a collection. The table has them all
exactly when it has those of the embedded entities that the query compares with null or orders by.
Where names are distinct and have no underscore, there must be no such entity. -/
theorem columns_exist_iff {schema : Schema} {settings : Settings} {name : String} {query : Query}
    {plan : TablePlan}
    (planned : (Planner.forTables schema settings).planChecked name query = .ok plan) :
    ∃ entity, schema.entity? name = some entity ∧
      (∀ named, named ∈ Sql.columnsInUse plan ↔
        ∃ path, (Planner.forTables schema settings).Uses entity query path ∧
          column path = named) ∧
      (∀ path, (Planner.forTables schema settings).Uses entity query path →
        schema.Declares entity path ∧ path.crossesCollection = false) ∧
      ((∀ named ∈ Sql.columnsInUse plan, Sql.HasColumn schema entity named) ↔
        ∀ path, (Planner.forTables schema settings).UsesBare entity query path →
          path.type.isComposite = true → Sql.HasColumn schema entity (column path)) ∧
      (schema.DistinctNames → schema.EveryName (fun name => '_' ∉ name.toList) →
        ((∀ named ∈ Sql.columnsInUse plan, Sql.HasColumn schema entity named) ↔
          ∀ path, (Planner.forTables schema settings).UsesBare entity query path →
            path.type.isComposite = false)) := by
  obtain ⟨_, planned⟩ := (Planner.forTables schema settings).planChecked_eq_ok.mp planned
  obtain ⟨entity, known, planned⟩ := bind_eq_ok.mp planned
  have known : schema.entity? name = some entity := (Planner.entity_eq_ok _).mp known
  have in_use := Planner.mem_columnsInUse planned
  have declares {path : Path} (used : (Planner.forTables schema settings).Uses entity query path) :
      schema.Declares entity path := by
    obtain ⟨_, _, resolved⟩ := used.resolved
    exact Resolver.declares_of_resolve _ resolved
  have exist_iff : (∀ named ∈ Sql.columnsInUse plan, Sql.HasColumn schema entity named) ↔
      ∀ path, (Planner.forTables schema settings).UsesBare entity query path →
        path.type.isComposite = true → Sql.HasColumn schema entity (column path) := by
    constructor
    · intro all_exist path bare _
      exact all_exist _ ((in_use _).mpr ⟨path, bare.uses, rfl⟩)
    · intro objects_exist named member
      obtain ⟨path, used, rfl⟩ := (in_use named).mp member
      cases composite : path.type.isComposite with
      | true => exact objects_exist path (used.bare composite) composite
      | false => exact ⟨path, declares used, used.clear planned, composite, rfl⟩
  refine ⟨entity, known, in_use, fun path used => ⟨declares used, used.clear planned⟩, exist_iff,
    fun distinct separable => exist_iff.trans (forall₂_congr fun path bare => ?_)⟩
  have none_there := not_hasColumn distinct separable (Schema.mem_of_entity? known)
    (declares bare.uses)
  cases composite : path.type.isComposite with
  | true => simp [none_there composite]
  | false => simp

/-! ### Users with addresses -/

namespace Sample

/-- Users have a number and an address. -/
def user : Entity where
  name := "User"
  identity := "Id"
  fields :=
    [{ name := "Id", type := .scalar .int64 },
     { name := "Address", type := .embedded "Address" }]

/-- Users, whose addresses have a city. -/
def users : Schema :=
  .ofEntities 1
    [user,
     { name := "Address", identity := "City",
       fields := [.optional "City" (.optionalScalar .string)] }]

theorem users_distinct : users.DistinctNames := by
  unfold Schema.DistinctNames
  decide

theorem users_separable : users.EveryName fun name => '_' ∉ name.toList := by
  unfold Schema.EveryName
  decide

/-- The users of unknown city, and none besides, in the order of their numbers. -/
def unsettled : Query where
  condition := some (.grouped [.any [.valueless "address.city" "eq", .amongst "ID" "in" []]])
  order := [.descendingBy "id"]

/-- The users without an address. -/
def homeless : Query := { condition := some (.valueless "Address" "EQ") }

/-- Users in the order of their addresses. -/
def byAddress : Query := { order := [.ascendingBy "Address"] }

/-- The plan for `unsettled`. -/
def unsettledPlan : TablePlan :=
  ⟨some (.all [.any [.isNull "Address_City", .constant false]]), [⟨"Id", true⟩], none, none, none⟩

theorem unsettled_columns_exist :
    (Planner.forTables users {}).planChecked "user" unsettled = .ok unsettledPlan ∧
      Sql.columnsInUse unsettledPlan = ["Address_City", "Id"] ∧
      ∃ entity, users.entity? "user" = some entity ∧
        ∀ named ∈ Sql.columnsInUse unsettledPlan, Sql.HasColumn users entity named := by
  have planned : (Planner.forTables users {}).planChecked "user" unsettled =
      .ok unsettledPlan := rfl
  obtain ⟨entity, known, _, _, _, exist_iff⟩ := columns_exist_iff planned
  cases (show users.entity? "user" = some user from rfl).symm.trans known
  have references : unsettled.references = ["address.city", "ID", "id"] := rfl
  refine ⟨planned, rfl, user, known, (exist_iff users_distinct users_separable).mpr ?_⟩
  intro path bare
  obtain ⟨field, member, resolved⟩ := bare.uses.resolved
  rw [references] at member
  simp only [List.mem_cons, List.not_mem_nil, or_false] at member
  -- Each reference leads to a number or to a city.
  rcases member with rfl | rfl | rfl <;> cases resolved <;> rfl

/-- An address is compared with null and ordered by as if it had a column. -/
theorem address_used_without_column :
    (Planner.forTables users {}).planChecked "User" homeless =
        .ok ⟨some (.isNull "Address"), [], none, none, none⟩ ∧
      (Planner.forTables users {}).planChecked "User" byAddress =
        .ok ⟨none, [⟨"Address", false⟩], none, none, none⟩ ∧
      users.entity? "User" = some user ∧ ¬ Sql.HasColumn users user "Address" := by
  have resolved : (Resolver.mk users ".").resolve user "Address" =
      .ok (some (.one ⟨"Address", none, .embedded "Address"⟩)) := rfl
  have declared := Resolver.declares_of_resolve _ resolved
  have member : user ∈ users.entities.values := by decide
  exact ⟨rfl, rfl, rfl, not_hasColumn users_distinct users_separable member declared rfl⟩

end Sample

end RecordQuery
