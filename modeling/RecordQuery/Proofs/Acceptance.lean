import RecordQuery.Proofs.Faults
import RecordQuery.Proofs.Permission

/-!
# Queries that both backends accept

Planning for tables takes the same steps as planning for documents and refuses paths through
collections besides. Step by step the outcome for tables is that for documents or such a refusal,
so both backends accept the same queries but for those that name a field behind a collection.
-/

namespace RecordQuery

/-- The reference resolves to a path through a collection. -/
def Resolver.Crosses (resolver : Resolver) (entity : Entity) (field : String) : Prop :=
  ∃ path, resolver.resolve entity field = .ok (some path) ∧ path.crossesCollection = true

/-- The references that a query makes: those of its comparisons, its keys to order by, and the
fields to return, or to leave out when none is to be returned. -/
def Query.references (query : Query) : List String :=
  query.comparisons.map (·.field) ++ query.order.filterMap (·.field) ++
    if query.includes.isEmpty then query.excludes else query.includes

theorem Query.exists_references_iff (query : Query) (property : String → Prop) :
    (∃ field ∈ query.references, property field) ↔
      (∃ raw ∈ query.comparisons, property raw.field) ∨
      (∃ key ∈ query.order, ∃ field, key.field = some field ∧ property field) ∨
      ∃ field ∈ if query.includes.isEmpty then query.excludes else query.includes,
        property field := by
  have keys : (∃ field, (∃ key ∈ query.order, key.field = some field) ∧ property field) ↔
      ∃ key ∈ query.order, ∃ field, key.field = some field ∧ property field := by
    constructor
    · rintro ⟨field, ⟨key, member, named⟩, holds⟩
      exact ⟨key, member, field, named, holds⟩
    · rintro ⟨key, member, field, named, holds⟩
      exact ⟨field, ⟨key, member, named⟩, holds⟩
  simp only [references, List.mem_append, List.mem_map, List.mem_filterMap, or_and_right, exists_or,
    keys, or_assoc, exists_exists_and_eq_and]

/-! ### Outcomes for tables and for documents -/

/-- The outcome for tables follows the one for documents, unless a collection is refused, which
only happens to a crossing where documents are planned. -/
inductive Mirrors {α β : Type} (crossing : Prop) (related : α → β → Prop) :
    Except PlanFault α → Except PlanFault β → Prop where
  | planned {left : α} {right : β} (clear : ¬ crossing) (same : related left right) :
    Mirrors crossing related (.ok left) (.ok right)
  | failed (fault : PlanFault) : Mirrors crossing related (.error fault) (.error fault)
  | refused {fault : PlanFault} {documents : Except PlanFault β} (collection : fault.IsCollection)
    (crossed : ∀ right, documents = .ok right → crossing) :
    Mirrors crossing related (.error fault) documents

namespace Mirrors

variable {α β α' β' : Type} {crossing further : Prop} {related : α → β → Prop}
  {onward : α' → β' → Prop} {tables : Except PlanFault α} {documents : Except PlanFault β}

theorem congr (mirrors : Mirrors crossing related tables documents) (same : crossing ↔ further) :
    Mirrors further related tables documents := by
  rw [← same]
  exact mirrors

/-- One step after the other: the outcome crosses where one of them does. -/
theorem bind {tablesNext : α → Except PlanFault α'} {documentsNext : β → Except PlanFault β'}
    (first : Mirrors crossing related tables documents)
    (next : ∀ left right, related left right →
      Mirrors further onward (tablesNext left) (documentsNext right)) :
    Mirrors (crossing ∨ further) onward (tables >>= tablesNext) (documents >>= documentsNext) := by
  cases first with
  | failed fault => exact .failed fault
  | refused collection crossed =>
    refine .refused collection fun right planned => .inl ?_
    obtain ⟨value, here, _⟩ := bind_eq_ok.mp planned
    exact crossed value here
  | @planned left right clear same =>
    have later := next left right same
    rw [ok_bind, ok_bind]
    generalize tablesNext left = tables at later ⊢
    generalize documentsNext right = documents at later ⊢
    cases later with
    | planned clearLater sameLater =>
      exact .planned (fun either => either.elim clear clearLater) sameLater
    | failed fault => exact .failed fault
    | refused collection crossed =>
      exact .refused collection fun right planned => .inr (crossed right planned)

/-- After a step that does not depend on the backend. -/
theorem after (step : Except PlanFault α) {tablesNext : α → Except PlanFault α'}
    {documentsNext : α → Except PlanFault β'}
    (next : ∀ value, step = .ok value →
      Mirrors crossing onward (tablesNext value) (documentsNext value)) :
    Mirrors crossing onward (step >>= tablesNext) (step >>= documentsNext) := by
  cases step with
  | error fault => exact .failed fault
  | ok value => exact next value rfl

theorem map {change : α → α'} {other : β → β'}
    (mirrors : Mirrors crossing related tables documents)
    (kept : ∀ left right, related left right → onward (change left) (other right)) :
    Mirrors crossing onward (tables.map change) (documents.map other) := by
  cases mirrors with
  | planned clear same => exact .planned clear (kept _ _ same)
  | failed fault => exact .failed fault
  | refused collection crossed =>
    refine .refused collection fun right planned => ?_
    obtain ⟨value, here, _⟩ := map_eq_ok.mp planned
    exact crossed value here

theorem thenPure {change : α → α'} {other : β → β'}
    (mirrors : Mirrors crossing related tables documents)
    (kept : ∀ left right, related left right → onward (change left) (other right)) :
    Mirrors crossing onward (tables >>= fun value => pure (change value))
      (documents >>= fun value => pure (other value)) :=
  mirrors.map kept

theorem done {left : α} {right : β} (same : related left right) :
    Mirrors False related (.ok left) (.ok right) :=
  .planned id same

/-- Both backends refuse to join no parts. -/
theorem unlessEmpty {lefts : List α} {rights : List β} (same : lefts.isEmpty = rights.isEmpty)
    (fault : PlanFault) {left : Except PlanFault α'} {right : Except PlanFault β'}
    (filled : Mirrors crossing onward left right) :
    Mirrors crossing onward (if lefts.isEmpty then .error fault else left)
      (if rights.isEmpty then .error fault else right) := by
  rw [same]
  split
  · exact .failed fault
  · exact filled

/-- A traversal crosses where one of its steps does. -/
theorem mapM {Step : α → Prop} {tablesStep documentsStep : α → Except PlanFault β}
    (each : ∀ value, Mirrors (Step value) (· = ·) (tablesStep value) (documentsStep value))
    (values : List α) :
    Mirrors (∃ value ∈ values, Step value) (· = ·) (values.mapM tablesStep)
      (values.mapM documentsStep) := by
  induction values with
  | nil => exact .planned (by simp) rfl
  | cons first rest ih =>
    simp only [List.mapM_cons]
    have rests (left right : β) (same : left = right) :
        Mirrors (∃ value ∈ rest, Step value) (· = ·)
          (do let lefts ← rest.mapM tablesStep; pure (left :: lefts))
          (do let rights ← rest.mapM documentsStep; pure (right :: rights)) := by
      rw [same]
      exact ih.thenPure fun _ _ sameRest => sameRest ▸ rfl
    exact ((each first).bind rests).congr (by simp)

/-! ### What mirroring says of outcomes -/

theorem documents_of_tables (mirrors : Mirrors crossing related tables documents) {left : α}
    (planned : tables = .ok left) : ∃ right, documents = .ok right := by
  cases mirrors with
  | planned clear same => exact ⟨_, rfl⟩
  | failed fault => cases planned
  | refused collection crossed => cases planned

theorem clear_of_tables (mirrors : Mirrors crossing related tables documents) {left : α}
    (planned : tables = .ok left) : ¬ crossing := by
  cases mirrors with
  | planned clear same => exact clear
  | failed fault => cases planned
  | refused collection crossed => cases planned

theorem fault_of_tables (mirrors : Mirrors crossing related tables documents) {fault : PlanFault}
    (failed : tables = .error fault) (other : ¬ fault.IsCollection) :
    documents = .error fault := by
  cases mirrors with
  | planned clear same => cases failed
  | failed _ =>
    cases failed
    rfl
  | refused collection crossed =>
    cases failed
    exact absurd collection other

theorem fault_of_documents (mirrors : Mirrors crossing related tables documents)
    {fault : PlanFault} (failed : documents = .error fault) :
    tables = .error fault ∨ ∃ refusal, refusal.IsCollection ∧ tables = .error refusal := by
  cases mirrors with
  | planned clear same => cases failed
  | failed _ =>
    cases failed
    exact .inl rfl
  | refused collection crossed => exact .inr ⟨_, collection, rfl⟩

/-- Where documents are planned, only a crossing keeps tables from being planned. -/
theorem tables_iff (mirrors : Mirrors crossing related tables documents) {right : β}
    (planned : documents = .ok right) : (∃ left, tables = .ok left) ↔ ¬ crossing := by
  cases mirrors with
  | planned clear same => exact ⟨fun _ => clear, fun _ => ⟨_, rfl⟩⟩
  | failed fault => cases planned
  | refused collection crossed =>
    constructor
    · rintro ⟨_, ⟨⟩⟩
    · exact fun clear => absurd (crossed right planned) clear

end Mirrors

namespace Planner

variable {schema : Schema} {settings : Settings} (entity : Entity)

/-! ### Steps -/

theorem mirrors_resolve (field : String) :
    Mirrors ((Resolver.mk schema settings.delimiter).Crosses entity field) (· = ·)
      ((forTables schema settings).resolve entity field)
      ((forDocuments schema settings).resolve entity field) := by
  have tables : (forTables schema settings).resolver = ⟨schema, settings.delimiter⟩ := rfl
  have documents : (forDocuments schema settings).resolver = ⟨schema, settings.delimiter⟩ := rfl
  unfold resolve Resolver.Crosses
  rw [tables, documents]
  rcases (Resolver.mk schema settings.delimiter).resolve entity field with fault | _ | path
  · exact .failed _
  · exact .failed _
  · -- Only tables ask whether the path crosses a collection.
    simp only [forTables, forDocuments, Sql.Relational.backend, FilterDocument.backend,
      Sql.Relational.checkPath]
    cases crosses : path.crossesCollection with
    | true => exact .refused ⟨path.text, rfl⟩ fun _ _ => ⟨path, rfl, crosses⟩
    | false =>
      refine .planned ?_ rfl
      rintro ⟨_, ⟨⟩, crossed⟩
      cases crosses.symm.trans crossed

/-- Both backends have a form for an operand that fits its comparison. -/
theorem mirrors_emit (path : Path) {comparison : Comparison} {operand : Operand}
    (fits : operand.fits comparison = true) :
    Mirrors False (fun _ _ => True) ((forTables schema settings).emit path comparison operand)
      ((forDocuments schema settings).emit path comparison operand) := by
  obtain ⟨predicate, planned⟩ := forTables_complete path comparison operand fits
  obtain ⟨filter, filtered⟩ := forDocuments_complete path comparison operand fits
  rw [planned, filtered]
  exact .planned id trivial

theorem mirrors_planComparison (raw : RawComparison) :
    Mirrors ((Resolver.mk schema settings.delimiter).Crosses entity raw.field) (fun _ _ => True)
      ((forTables schema settings).planComparison entity raw.field raw.operator raw.value raw.values)
      ((forDocuments schema settings).planComparison entity raw.field raw.operator raw.value
        raw.values) := by
  unfold planComparison
  refine .after _ fun comparison _ => ?_
  have emission (path other : Path) (same : path = other) :
      Mirrors False (fun _ _ => True)
        (do
          let operand ← operand path.type raw.field comparison raw.value raw.values
          (forTables schema settings).emit path comparison operand)
        (do
          let operand ← operand other.type raw.field comparison raw.value raw.values
          (forDocuments schema settings).emit other comparison operand) := by
    subst same
    exact .after _ fun operand typed => mirrors_emit path (typed_of_operand typed).fits
  exact ((mirrors_resolve entity raw.field).bind emission).congr (by rw [or_false])

/-! ### Conditions -/

mutual

/-- Conditions cross where one of their comparisons does. -/
theorem mirrors_planCondition (schema : Schema) (settings : Settings) (entity : Entity) :
    ∀ condition : Condition,
      Mirrors (∃ raw ∈ condition.comparisons,
          (Resolver.mk schema settings.delimiter).Crosses entity raw.field) (fun _ _ => True)
        ((forTables schema settings).planCondition entity condition)
        ((forDocuments schema settings).planCondition entity condition)
  | ⟨some field, operator, value, values, none⟩ => by
    simp only [planCondition, Condition.comparisons, List.mem_singleton, exists_eq_left]
    exact mirrors_planComparison entity ⟨field, operator, value, values⟩
  | ⟨none, operator, value, values, some groups⟩ => by
    simp only [planCondition, Condition.comparisons]
    refine ((mirrors_planGroups schema settings entity groups).bind fun parts filters same =>
      .unlessEmpty same _ (.done ?_)).congr (by rw [or_false])
    trivial
  | ⟨none, operator, value, values, none⟩ => .failed _
  | ⟨some field, operator, value, values, some groups⟩ => .failed _

theorem mirrors_planGroups (schema : Schema) (settings : Settings) (entity : Entity) :
    ∀ groups : List (Option Group),
      Mirrors (∃ raw ∈ Condition.comparisonsOfGroups groups,
          (Resolver.mk schema settings.delimiter).Crosses entity raw.field)
        (fun parts filters => parts.isEmpty = filters.isEmpty)
        ((forTables schema settings).planGroups entity groups)
        ((forDocuments schema settings).planGroups entity groups)
  | [] => .planned (by simp [Condition.comparisonsOfGroups]) rfl
  | none :: rest => .failed _
  | some ⟨operator, members⟩ :: rest => by
    simp only [planGroups]
    refine .after _ fun joint _ => ?_
    -- A group without members is refused before the groups behind it are planned.
    refine ((mirrors_planMembers schema settings entity members).bind fun parts filters same =>
      .unlessEmpty same _ (.thenPure (mirrors_planGroups schema settings entity rest) ?_)).congr ?_
    · exact fun _ _ _ => rfl
    simp only [Condition.comparisonsOfGroups, List.mem_append, or_and_right, exists_or]

theorem mirrors_planMembers (schema : Schema) (settings : Settings) (entity : Entity) :
    ∀ members : List (Option Condition),
      Mirrors (∃ raw ∈ Condition.comparisonsOfMembers members,
          (Resolver.mk schema settings.delimiter).Crosses entity raw.field)
        (fun parts filters => parts.isEmpty = filters.isEmpty)
        ((forTables schema settings).planMembers entity members)
        ((forDocuments schema settings).planMembers entity members)
  | [] => .planned (by simp [Condition.comparisonsOfMembers]) rfl
  | none :: rest => .failed _
  | some condition :: rest => by
    simp only [planMembers]
    refine ((mirrors_planCondition schema settings entity condition).bind fun part filter _ =>
      .thenPure (mirrors_planMembers schema settings entity rest) ?_).congr ?_
    · exact fun _ _ _ => rfl
    simp only [Condition.comparisonsOfMembers, List.mem_append, or_and_right, exists_or]

end

/-! ### Queries -/

theorem mirrors_planOptional (condition : Option Condition) :
    Mirrors (∃ raw ∈ (condition.map Condition.comparisons).getD [],
        (Resolver.mk schema settings.delimiter).Crosses entity raw.field) (fun _ _ => True)
      ((forTables schema settings).planOptional entity condition)
      ((forDocuments schema settings).planOptional entity condition) := by
  cases condition with
  | none => exact .planned (by simp) trivial
  | some condition =>
    exact (mirrors_planCondition schema settings entity condition).map fun _ _ _ => trivial

theorem mirrors_sortKey (key : OrderKey) :
    Mirrors (∃ field, key.field = some field ∧
        (Resolver.mk schema settings.delimiter).Crosses entity field) (· = ·)
      ((forTables schema settings).sortKey entity key)
      ((forDocuments schema settings).sortKey entity key) := by
  unfold sortKey
  cases named : key.field with
  | none => exact .failed _
  | some field =>
    simp only [Option.some.injEq, exists_eq_left']
    exact (mirrors_resolve entity field).thenPure fun _ _ same => same ▸ rfl

theorem mirrors_projection? (query : Query) :
    Mirrors (∃ field ∈ if query.includes.isEmpty then query.excludes else query.includes,
        (Resolver.mk schema settings.delimiter).Crosses entity field) (· = ·)
      ((forTables schema settings).projection? entity query)
      ((forDocuments schema settings).projection? entity query) := by
  have resolved (kind : ProjectionKind) (fields : List String) :
      Mirrors (∃ field ∈ fields, (Resolver.mk schema settings.delimiter).Crosses entity field)
        (· = ·)
        (do
          let paths ← fields.mapM ((forTables schema settings).resolve entity)
          pure (some (Projection.mk kind paths (schema.leafPaths entity))))
        (do
          let paths ← fields.mapM ((forDocuments schema settings).resolve entity)
          pure (some (Projection.mk kind paths (schema.leafPaths entity)))) :=
    (Mirrors.mapM (mirrors_resolve entity) fields).thenPure fun _ _ same => same ▸ rfl
  unfold projection?
  cases including : query.includes with
  | cons first rest => exact resolved .include (first :: rest)
  | nil =>
    cases excluding : query.excludes with
    | cons first rest => exact resolved .exclude (first :: rest)
    | nil => exact .planned (by simp) rfl

/-- Queries cross where one of their references does. -/
theorem mirrors_planEntity (query : Query) :
    Mirrors (∃ field ∈ query.references,
        (Resolver.mk schema settings.delimiter).Crosses entity field) (fun _ _ => True)
      ((forTables schema settings).planEntity entity query)
      ((forDocuments schema settings).planEntity entity query) := by
  rw [planEntity_eq, planEntity_eq]
  refine ((mirrors_planOptional entity query.condition).bind fun _ _ _ =>
    (Mirrors.mapM (mirrors_sortKey entity) query.order).bind fun _ _ _ =>
      (mirrors_projection? entity query).bind fun _ _ _ =>
        .after _ fun limit _ => .after _ fun skip _ => .done trivial).congr ?_
  rw [query.exists_references_iff, or_false]
  rfl

/-- A query that is planned asks for records of an entity of the schema. -/
theorem known_of_planQuery {Emitted Order Fields : Type} {planner : Planner Emitted Order Fields}
    {name : String} {query : Query} {plan : Plan Emitted Order Fields}
    (planned : planner.planQuery name query = .ok plan) :
    ∃ entity, planner.schema.entity? name = some entity := by
  obtain ⟨entity, known, _⟩ := bind_eq_ok.mp planned
  exact ⟨entity, planner.entity_eq_ok.mp known⟩

theorem mirrors_planQuery (schema : Schema) (settings : Settings) (name : String) (query : Query) :
    Mirrors
      (∃ entity, schema.entity? name = some entity ∧ ∃ field ∈ query.references,
        (Resolver.mk schema settings.delimiter).Crosses entity field)
      (fun _ _ => True) ((forTables schema settings).planQuery name query)
      ((forDocuments schema settings).planQuery name query) := by
  have same :
      (forDocuments schema settings).entity name = (forTables schema settings).entity name := rfl
  unfold planQuery
  rw [same]
  refine .after _ fun entity found => (mirrors_planEntity entity query).congr ?_
  have known : schema.entity? name = some entity := (entity_eq_ok _).mp found
  simp only [known, Option.some.injEq, exists_eq_left']

end Planner

/-! ### Main result -/

/-- Both backends accept the same queries up to collections. What is planned for tables is planned
for documents, a fault of either is the other's unless tables refuse a collection, and where
documents are planned, tables refuse exactly the queries that refer through a collection. -/
theorem backends_accept_alike (schema : Schema) (settings : Settings) (name : String)
    (query : Query) :
    (∀ plan, (Planner.forTables schema settings).planQuery name query = .ok plan →
      ∃ other, (Planner.forDocuments schema settings).planQuery name query = .ok other) ∧
    (∀ fault, (Planner.forTables schema settings).planQuery name query = .error fault →
      ¬ fault.IsCollection →
        (Planner.forDocuments schema settings).planQuery name query = .error fault) ∧
    (∀ fault, (Planner.forDocuments schema settings).planQuery name query = .error fault →
      (Planner.forTables schema settings).planQuery name query = .error fault ∨
        ∃ refusal, refusal.IsCollection ∧
          (Planner.forTables schema settings).planQuery name query = .error refusal) ∧
    (∀ plan, (Planner.forDocuments schema settings).planQuery name query = .ok plan →
      ∃ entity, schema.entity? name = some entity ∧
        ((∃ other, (Planner.forTables schema settings).planQuery name query = .ok other) ↔
          ∀ field ∈ query.references,
            ¬ (Resolver.mk schema settings.delimiter).Crosses entity field)) := by
  have mirrors := Planner.mirrors_planQuery schema settings name query
  refine ⟨fun plan planned => mirrors.documents_of_tables planned,
    fun fault failed other => mirrors.fault_of_tables failed other,
    fun fault failed => mirrors.fault_of_documents failed, fun plan planned => ?_⟩
  obtain ⟨entity, found⟩ := Planner.known_of_planQuery planned
  have known : schema.entity? name = some entity := found
  have crossing : (∃ other, schema.entity? name = some other ∧ ∃ field ∈ query.references,
      (Resolver.mk schema settings.delimiter).Crosses other field) ↔
        ∃ field ∈ query.references, (Resolver.mk schema settings.delimiter).Crosses entity field := by
    simp only [known, Option.some.injEq, exists_eq_left']
  refine ⟨entity, known, (mirrors.tables_iff planned).trans ?_⟩
  rw [crossing]
  simp only [not_exists, not_and]

/-! ### Orders with lines -/

namespace Sample

/-- Orders have a note and lines, each with the number of an article. -/
def orders : Schema :=
  .ofEntities 1
    [{ name := "Line", identity := "Sku", fields := [{ name := "Sku", type := .scalar .string }] },
     { name := "Order", identity := "Note",
       fields := [{ name := "Note", type := .scalar .string },
         { name := "Lines", type := .arrayOfEmbedded "Line" }] }]

/-- The orders of an article, in the order of their notes. -/
def ofArticle : Query where
  condition := some (.grouped [.any
    [.compared "note" "startswith" (.string "old"), .compared "lines.sku" "eq" (.string "A1")]])
  order := [.ascendingBy "NOTE"]

/-- Documents answer the query. Tables would, but for the articles of the lines. -/
theorem ofArticle_refused_by_tables :
    ∃ plan, (Planner.forDocuments orders {}).planQuery "order" ofArticle = .ok plan ∧
      ¬ (∃ other, (Planner.forTables orders {}).planQuery "order" ofArticle = .ok other) ∧
      ∃ entity, orders.entity? "order" = some entity ∧
        ((∃ other, (Planner.forTables orders {}).planQuery "order" ofArticle = .ok other) ↔
          ∀ field ∈ ofArticle.references, ¬ (Resolver.mk orders ".").Crosses entity field) := by
  have refused : (Planner.forTables orders {}).planQuery "order" ofArticle =
      .error (.collectionPath "relational" "Lines.Sku") := rfl
  refine ⟨_, rfl, ?_, (backends_accept_alike orders {} "order" ofArticle).2.2.2 _ rfl⟩
  rintro ⟨_, planned⟩
  cases refused.symm.trans planned

end Sample

end RecordQuery
