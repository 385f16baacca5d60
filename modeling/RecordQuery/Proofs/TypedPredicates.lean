import RecordQuery.Proofs.Columns
import RecordQuery.Proofs.Layout

/-!
# Types of compared values

A field holds values of one kind, given by its type. What is planned for a table compares each
column with values of the kind that a field of that column holds, and looks for texts only where the
field holds texts. It has no empty list and no empty group, and null is never a parameter.
-/

namespace RecordQuery

/-! ### Values of a type -/

namespace ScalarType

/-- Is the value one of the scalar type? A real number has to be finite. -/
def holds : ScalarType → Value → Bool
  | .bool, .bool _ => true
  | .int32, .int32 _ => true
  | .int64, .int64 _ => true
  | .float32, .float32 number => number.isFinite
  | .float64, .float64 number => number.isFinite
  | .string, .string _ => true
  | .timestamp, .timestamp _ => true
  | .uuid, .uuid _ => true
  | _, _ => false

theorem holds_of_read? {type : ScalarType} {text : String} {value : Value}
    (found : type.read? text = some value) : type.holds value = true := by
  cases type with
  | string =>
    cases found
    rfl
  | bool | int32 | int64 | timestamp | uuid =>
    obtain ⟨_, _, rfl⟩ := Option.map_eq_some_iff.mp found
    rfl
  | float32 | float64 =>
    obtain ⟨_, read, rfl⟩ := Option.map_eq_some_iff.mp found
    exact (isFinite_of_readFinite? read).2

end ScalarType

namespace FieldType

/-- Is the value one that a field of the type holds, or an element of what it holds? Null, which an
optional field may hold as well, is not among them. -/
def holds : FieldType → Value → Bool
  | .scalar type, value => type.holds value
  | .optionalScalar type, value => type.holds value
  | .arrayOfScalar type, value => type.holds value
  | .enumeration _ variants, value => variants.any (value == .string ·)
  | .optionalEnumeration _ variants, value => variants.any (value == .string ·)
  | .embedded _, _ => false
  | .optionalEmbedded _, _ => false
  | .arrayOfEmbedded _, _ => false

@[simp] theorem holds_null (type : FieldType) : type.holds .null = false := by
  cases type with
  | scalar inner | optionalScalar inner | arrayOfScalar inner => cases inner <;> rfl
  | enumeration _ variants | optionalEnumeration _ variants => simp [holds]
  | embedded _ | optionalEmbedded _ | arrayOfEmbedded _ => rfl

theorem holds_of_scalar? {type : FieldType} {inner : ScalarType}
    (scalar : type.scalar? = some inner) (value : Value) :
    type.holds value = inner.holds value := by
  cases type <;> cases scalar <;> rfl

theorem holds_of_enumerated? {type : FieldType} {variants : List String}
    (enumerated : type.enumerated? = some variants) (value : Value) :
    type.holds value = variants.any (value == .string ·) := by
  cases type <;> cases enumerated <;> rfl

/-- A literal is converted to a value of the type. -/
theorem holds_of_coerce {type : FieldType} {field : String} {literal : Literal} {value : Value}
    (converted : type.coerce field literal = .ok value) : type.holds value = true := by
  rcases coerce_eq_ok.mp converted with
    ⟨inner, scalar, read⟩ | ⟨variants, variant, enumerated, found, rfl⟩
  · rw [holds_of_scalar? scalar]
    exact ScalarType.holds_of_read? read
  · -- The value is the variant as it is declared, whatever the letter case of the literal.
    have declared : variant ∈ variants := List.mem_of_find?_eq_some found
    rw [holds_of_enumerated? enumerated]
    exact List.any_eq_true.mpr ⟨variant, declared, beq_self_eq_true _⟩

end FieldType

/-! ### Typed predicates -/

namespace Sql.Predicate

mutual

/-- Each test of the predicate is one of the column of a path, and what it compares the column with
is of the path's type. No list and no group is empty. -/
def WellTyped (paths : Path → Prop) : Predicate → Prop
  | .compare named _ value =>
    ∃ path, paths path ∧ Relational.column path = named ∧ path.type.holds value = true
  | .isNull named => ∃ path, paths path ∧ Relational.column path = named
  | .isNotNull named => ∃ path, paths path ∧ Relational.column path = named
  | .among named values =>
    values ≠ [] ∧ ∃ path, paths path ∧ Relational.column path = named ∧
      ∀ value ∈ values, path.type.holds value = true
  | .notAmong named values =>
    values ≠ [] ∧ ∃ path, paths path ∧ Relational.column path = named ∧
      ∀ value ∈ values, path.type.holds value = true
  | .pattern named _ _ =>
    ∃ path, paths path ∧ Relational.column path = named ∧ path.type.isText = true
  | .all parts => parts ≠ [] ∧ AllWellTyped paths parts
  | .any parts => parts ≠ [] ∧ AllWellTyped paths parts
  | .constant _ => True

/-- Each of the predicates is well typed. -/
def AllWellTyped (paths : Path → Prop) : List Predicate → Prop
  | [] => True
  | part :: rest => part.WellTyped paths ∧ AllWellTyped paths rest

end

variable {paths : Path → Prop}

theorem wellTyped_join (connective : Connective) {parts : List Predicate} (filled : parts ≠ [])
    (typed : AllWellTyped paths parts) : (Relational.join connective parts).WellTyped paths := by
  cases connective <;> exact ⟨filled, typed⟩

/-- A comparison with an operand of the path's type is well typed. -/
theorem wellTyped_of_compare? {path : Path} {comparison : Comparison} {operand : Operand}
    {predicate : Predicate} (named : paths path)
    (typed : ∀ value ∈ operand.values, path.type.holds value = true)
    (text : ∀ wanted, operand = .pattern wanted → path.type.isText = true)
    (compared : Relational.compare? (Relational.column path) comparison operand = some predicate) :
    predicate.WellTyped paths := by
  have column : ∃ path', paths path' ∧ Relational.column path' = Relational.column path :=
    ⟨path, named, rfl⟩
  cases operand with
  | null => cases comparison <;> cases compared <;> exact column
  | single value =>
    have single : ∃ path', paths path' ∧ Relational.column path' = Relational.column path ∧
        path'.type.holds value = true := ⟨path, named, rfl, typed value List.mem_cons_self⟩
    cases comparison with
    | equal | greater | greaterOrEqual | less | lessOrEqual =>
      cases compared
      exact single
    | notEqual =>
      -- Null differs from every value, so a test for null on the same column stands beside it.
      cases compared
      exact ⟨List.cons_ne_nil _ _, single, column, trivial⟩
    | _ => cases compared
  | many values =>
    cases values with
    | nil => cases comparison <;> cases compared <;> trivial
    | cons first rest =>
      have listed : first :: rest ≠ [] ∧
          ∃ path', paths path' ∧ Relational.column path' = Relational.column path ∧
            ∀ value ∈ first :: rest, path'.type.holds value = true :=
        ⟨List.cons_ne_nil _ _, path, named, rfl, typed⟩
      cases comparison with
      | among =>
        cases compared
        exact listed
      | notAmong =>
        cases compared
        exact ⟨List.cons_ne_nil _ _, listed, column, trivial⟩
      | _ => cases compared
  | pattern wanted =>
    have searched : ∃ path', paths path' ∧ Relational.column path' = Relational.column path ∧
        path'.type.isText = true := ⟨path, named, rfl, text wanted rfl⟩
    cases comparison <;> cases compared <;> exact searched

/-! ### Parameters -/

/-- Parts without null among their parameters have none when they stand one after the other. -/
theorem null_not_mem_separated (separator : String) {writers : List Writer}
    (each : ∀ writer ∈ writers, ∀ given, Value.null ∉ (writer given).parameters) (given : Nat) :
    Value.null ∉ (Writer.separated separator writers given).parameters := by
  induction writers generalizing given with
  | nil => exact List.not_mem_nil
  | cons first rest ih =>
    rw [Writer.parameters_separated_cons, List.mem_append]
    rintro (here | later)
    · exact each first List.mem_cons_self given here
    · exact ih (fun writer member => each writer (List.mem_cons_of_mem _ member)) _ later

theorem ne_null_of_holds {type : FieldType} {value : Value} (typed : type.holds value = true) :
    Value.null ≠ value := by
  rintro rfl
  simp at typed

mutual

/-- A well typed predicate is written without null among its parameters. -/
theorem null_not_mem_write (dialect : Dialect) :
    ∀ (predicate : Predicate), predicate.WellTyped paths → ∀ given,
      Value.null ∉ (predicate.write dialect given).parameters
  | .compare _ _ value, typed, given => by
    obtain ⟨_, _, _, single⟩ := typed
    simpa [write] using ne_null_of_holds single
  | .isNull _, _, given => by simp [write]
  | .isNotNull _, _, given => by simp [write]
  | .among _ values, typed, given => by
    obtain ⟨_, _, _, _, each⟩ := typed
    simpa [write, parameters_writeList] using fun null => ne_null_of_holds (each _ null) rfl
  | .notAmong _ values, typed, given => by
    obtain ⟨_, _, _, _, each⟩ := typed
    simpa [write, parameters_writeList] using fun null => ne_null_of_holds (each _ null) rfl
  | .pattern _ _ _, _, given => by simp [write]
  -- Empty groups are written as constants, but in a well typed predicate there are none.
  | .all [], typed, given => absurd rfl typed.1
  | .any [], typed, given => absurd rfl typed.1
  | .all (part :: rest), typed, given => by
    have inside := null_not_mem_separated " AND "
      (null_not_mem_writeParts dialect (part :: rest) typed.2) given
    rw [write, parameters_group]
    · exact inside
    · simp
  | .any (part :: rest), typed, given => by
    have inside := null_not_mem_separated " OR "
      (null_not_mem_writeParts dialect (part :: rest) typed.2) given
    rw [write, parameters_group]
    · exact inside
    · simp
  | .constant _, _, given => by simp [write, writeConstant]

theorem null_not_mem_writeParts (dialect : Dialect) :
    ∀ (parts : List Predicate), AllWellTyped paths parts →
      ∀ writer ∈ writeParts dialect parts, ∀ given, Value.null ∉ (writer given).parameters
  | [], _ => by simp [writeParts]
  | part :: rest, typed => by
    rw [writeParts]
    exact List.forall_mem_cons.mpr ⟨null_not_mem_write dialect part typed.1,
      null_not_mem_writeParts dialect rest typed.2⟩

end

end Sql.Predicate

/-! ### Planned predicates -/

namespace Planner

open Sql (Predicate)

variable {Emitted Order Fields : Type} {schema : Schema} {settings : Settings} {entity : Entity}
  {paths : Path → Prop}

/-- What is emitted for a comparison that was read is well typed. -/
theorem wellTyped_of_emitLeaf {raw : RawComparison} {leaf : Leaf} {predicate : Predicate}
    (reads : (forTables schema settings).Reads entity raw leaf) (named : paths leaf.path)
    (emitted : (forTables schema settings).emitLeaf leaf = .ok predicate) :
    predicate.WellTyped paths := by
  obtain ⟨_, compared⟩ := forTables_emitLeaf_eq_ok.mp emitted
  refine Predicate.wellTyped_of_compare? named (fun value given => ?_) (fun wanted looked => ?_)
    compared
  · obtain ⟨_, converted⟩ := (typed_of_operand reads.operand).values value given
    exact FieldType.holds_of_coerce converted
  · exact isText_of_operand (looked ▸ reads.operand)

/-- The paths of the comparisons are among the paths. -/
def Covers (schema : Schema) (settings : Settings) (entity : Entity) (paths : Path → Prop)
    (comparisons : List RawComparison) : Prop :=
  ∀ raw ∈ comparisons, ∀ path,
    (forTables schema settings).resolver.resolve entity raw.field = .ok (some path) → paths path

theorem Covers.append {first second : List RawComparison} :
    Covers schema settings entity paths (first ++ second) ↔
      Covers schema settings entity paths first ∧ Covers schema settings entity paths second :=
  List.forall_mem_append

mutual

/-- A condition is planned as a well typed predicate on the paths of its comparisons. -/
theorem wellTyped_of_planCondition (schema : Schema) (settings : Settings) (entity : Entity) :
    ∀ (condition : Condition) {predicate : Predicate},
      (forTables schema settings).planCondition entity condition = .ok predicate →
        Covers schema settings entity paths condition.comparisons → predicate.WellTyped paths
  | ⟨some field, operator, value, values, none⟩, predicate, planned, covered => by
    obtain ⟨leaf, reads, emitted⟩ := ((forTables schema settings).planCondition_field_eq_ok entity
      ⟨field, operator, value, values⟩).mp planned
    exact wellTyped_of_emitLeaf reads (covered _ List.mem_cons_self _ reads.path) emitted
  | ⟨none, operator, value, values, some groups⟩, predicate, planned, covered => by
    obtain ⟨parts, each, filled, rfl⟩ :=
      ((forTables schema settings).planCondition_groups_eq_ok entity).mp planned
    exact Predicate.wellTyped_join .conjunction filled
      (allWellTyped_of_planGroups schema settings entity groups each covered)
  -- Nothing is planned from a condition with neither a field nor groups, or with both.
  | ⟨none, operator, value, values, none⟩, predicate, planned, covered => by
    simp [planCondition] at planned
  | ⟨some field, operator, value, values, some groups⟩, predicate, planned, covered => by
    simp [planCondition] at planned

theorem allWellTyped_of_planGroups (schema : Schema) (settings : Settings) (entity : Entity) :
    ∀ (groups : List (Option Group)) {parts : List Predicate},
      (forTables schema settings).planGroups entity groups = .ok parts →
        Covers schema settings entity paths (Condition.comparisonsOfGroups groups) →
          Predicate.AllWellTyped paths parts
  | [], parts, planned, covered => by
    cases planned
    trivial
  | none :: _, parts, planned, covered => by cases planned
  | some ⟨operator, members⟩ :: rest, parts, planned, covered => by
    obtain ⟨joint, inside, others, _, each, filled, later, rfl⟩ :=
      ((forTables schema settings).planGroups_cons_eq_ok entity).mp planned
    obtain ⟨here, further⟩ := Covers.append.mp covered
    exact ⟨Predicate.wellTyped_join _ filled
        (allWellTyped_of_planMembers schema settings entity members each here),
      allWellTyped_of_planGroups schema settings entity rest later further⟩

theorem allWellTyped_of_planMembers (schema : Schema) (settings : Settings) (entity : Entity) :
    ∀ (members : List (Option Condition)) {parts : List Predicate},
      (forTables schema settings).planMembers entity members = .ok parts →
        Covers schema settings entity paths (Condition.comparisonsOfMembers members) →
          Predicate.AllWellTyped paths parts
  | [], parts, planned, covered => by
    cases planned
    trivial
  | none :: _, parts, planned, covered => by cases planned
  | some condition :: rest, parts, planned, covered => by
    obtain ⟨part, others, each, later, rfl⟩ :=
      ((forTables schema settings).planMembers_cons_eq_ok entity).mp planned
    obtain ⟨here, further⟩ := Covers.append.mp covered
    exact ⟨wellTyped_of_planCondition schema settings entity condition each here,
      allWellTyped_of_planMembers schema settings entity rest later further⟩

end

/-! ### Comparisons one by one -/

mutual

/-- A tree is emitted by emitting each of its comparisons. -/
theorem emitLeaf_of_emitTree (planner : Planner Emitted Order Fields) :
    ∀ (tree : Tree) {emitted : Emitted}, planner.emitTree tree = .ok emitted →
      ∀ leaf ∈ tree.leaves, ∃ test, planner.emitLeaf leaf = .ok test
  | .comparison leaf, emitted, emission => by
    intro other member
    rw [List.mem_singleton.mp member]
    exact ⟨emitted, emission⟩
  | .joined connective parts, emitted, emission => by
    obtain ⟨_, emissions, _⟩ := planner.emitTree_joined_eq_ok.mp emission
    exact emitLeaf_of_emitTrees planner parts emissions

theorem emitLeaf_of_emitTrees (planner : Planner Emitted Order Fields) :
    ∀ (trees : List Tree) {parts : List Emitted}, planner.emitTrees trees = .ok parts →
      ∀ leaf ∈ Tree.leavesOf trees, ∃ test, planner.emitLeaf leaf = .ok test
  | [], parts, emission => fun leaf member => absurd member List.not_mem_nil
  | tree :: rest, parts, emission => by
    obtain ⟨_, _, first, later, _⟩ := planner.emitTrees_cons_eq_ok.mp emission
    intro leaf member
    rcases List.mem_append.mp member with here | there
    · exact emitLeaf_of_emitTree planner tree first leaf here
    · exact emitLeaf_of_emitTrees planner rest later leaf there

end

/-- The comparison by itself is planned as a test of the column of its own path. -/
def PlansTyped (schema : Schema) (settings : Settings) (entity : Entity) (raw : RawComparison) :
    Prop :=
  ∃ path test, (forTables schema settings).resolver.resolve entity raw.field = .ok (some path) ∧
    (forTables schema settings).planComparison entity raw.field raw.operator raw.value raw.values =
      .ok test ∧ test.WellTyped (· = path)

theorem plansTyped_of_emitLeaf {raw : RawComparison} {leaf : Leaf} {test : Predicate}
    (reads : (forTables schema settings).Reads entity raw leaf)
    (emitted : (forTables schema settings).emitLeaf leaf = .ok test) :
    PlansTyped schema settings entity raw :=
  ⟨leaf.path, test, reads.path,
    ((forTables schema settings).planComparison_eq_ok entity).mpr ⟨leaf, reads, emitted⟩,
    wellTyped_of_emitLeaf reads rfl emitted⟩

theorem plansTyped_of_planCondition {condition : Condition} {predicate : Predicate}
    (planned : (forTables schema settings).planCondition entity condition = .ok predicate) :
    ∀ raw ∈ condition.comparisons, PlansTyped schema settings entity raw := by
  obtain ⟨tree, resolves, emitted⟩ := (planCondition_eq_ok _ entity condition _).mp planned
  have read := leaves_of_planCondition _ entity condition tree resolves
  -- Each comparison has its leaf, and the tree is emitted leaf by leaf.
  intro raw member
  obtain ⟨leaf, place, reads⟩ := exists_related read.flip member
  obtain ⟨test, emission⟩ := emitLeaf_of_emitTree _ tree emitted leaf place
  exact plansTyped_of_emitLeaf reads emission

/-! ### Filters -/

/-- The comparison that an entry of a filter stands for. -/
def equality (entry : String × Option Literal) : RawComparison := ⟨entry.1, some "EQ", entry.2, []⟩

theorem planEquality_eq (planner : Planner Emitted Order Fields) (entity : Entity)
    (entry : String × Option Literal) :
    planner.planEquality entity entry.1 entry.2 =
      planner.planComparison entity (equality entry).field (equality entry).operator
        (equality entry).value (equality entry).values := rfl

theorem planFilter_eq_ok {filter : Filter} {name : String} {predicate : Predicate} :
    (forTables schema settings).planFilter name filter = .ok predicate ↔
      ∃ entity parts, schema.entity? name = some entity ∧
        List.Forall₂ (fun entry test => ∃ leaf,
            (forTables schema settings).Reads entity (equality entry) leaf ∧
              (forTables schema settings).emitLeaf leaf = .ok test)
          filter.entries parts ∧ predicate = .all parts := by
  simp only [planFilter, planEquality_eq, planComparison_eq_ok, bind_eq_ok, entity_eq_ok,
    mapM_eq_ok, pure_eq_ok]
  constructor
  · rintro ⟨entity, known, parts, each, rfl⟩
    exact ⟨entity, parts, known, each, rfl⟩
  · rintro ⟨entity, parts, known, each, rfl⟩
    exact ⟨entity, known, parts, each, rfl⟩

theorem allWellTyped_of_forall₂ {entries : List (String × Option Literal)} {parts : List Predicate}
    (each : List.Forall₂ (fun entry test => ∃ leaf,
      (forTables schema settings).Reads entity (equality entry) leaf ∧
        (forTables schema settings).emitLeaf leaf = .ok test) entries parts)
    (covered : Covers schema settings entity paths (entries.map equality)) :
    Predicate.AllWellTyped paths parts := by
  induction each with
  | nil => trivial
  | cons here _ ih =>
    obtain ⟨leaf, reads, emitted⟩ := here
    obtain ⟨first, further⟩ := List.forall_mem_cons.mp covered
    exact ⟨wellTyped_of_emitLeaf reads (first _ reads.path) emitted, ih further⟩

/-! ### Main result -/

/-- The predicate is well typed on the paths of the comparisons. Each comparison is planned as a
test of the column of its own path, and in no dialect is null a parameter. -/
structure TypesFor (schema : Schema) (settings : Settings) (entity : Entity)
    (comparisons : List RawComparison) (predicate : Predicate) : Prop where
  whole : predicate.WellTyped fun path => ∃ raw ∈ comparisons,
    (forTables schema settings).resolver.resolve entity raw.field = .ok (some path)
  each : ∀ raw ∈ comparisons, PlansTyped schema settings entity raw
  parameters : ∀ dialect, Value.null ∉ (predicate.render dialect).parameters

theorem covers_comparisons (comparisons : List RawComparison) :
    Covers schema settings entity
      (fun path => ∃ raw ∈ comparisons,
        (forTables schema settings).resolver.resolve entity raw.field = .ok (some path))
      comparisons :=
  fun raw member _ resolved => ⟨raw, member, resolved⟩

theorem typesFor_of_wellTyped {comparisons : List RawComparison} {predicate : Predicate}
    (whole : predicate.WellTyped fun path => ∃ raw ∈ comparisons,
      (forTables schema settings).resolver.resolve entity raw.field = .ok (some path))
    (each : ∀ raw ∈ comparisons, PlansTyped schema settings entity raw) :
    TypesFor schema settings entity comparisons predicate :=
  ⟨whole, each, fun dialect => predicate.null_not_mem_write dialect whole 0⟩

/-- What is planned for a table from a condition, or from a filter with an entry, compares each
column with values of the type of its path. -/
theorem planned_predicates_typed {schema : Schema} {settings : Settings} {name : String}
    {predicate : Predicate} :
    (∀ condition, (forTables schema settings).planOnly name condition = .ok predicate →
      ∃ entity, schema.entity? name = some entity ∧
        TypesFor schema settings entity condition.comparisons predicate) ∧
    ∀ filter : Filter, filter.entries ≠ [] →
      (forTables schema settings).planFilter name filter = .ok predicate →
        ∃ entity, schema.entity? name = some entity ∧
          TypesFor schema settings entity (filter.entries.map equality) predicate := by
  constructor
  · intro condition planned
    simp only [planOnly, bind_eq_ok, entity_eq_ok] at planned
    obtain ⟨entity, known, planned⟩ := planned
    exact ⟨entity, known, typesFor_of_wellTyped
      (wellTyped_of_planCondition schema settings entity condition planned (covers_comparisons _))
      (plansTyped_of_planCondition planned)⟩
  · intro filter some_entry planned
    obtain ⟨entity, parts, known, each, rfl⟩ := planFilter_eq_ok.mp planned
    refine ⟨entity, known, typesFor_of_wellTyped ⟨?_, ?_⟩ ?_⟩
    · -- Each entry has its part, so there is one.
      rintro rfl
      exact some_entry (List.forall₂_nil_right_iff.mp each)
    · exact allWellTyped_of_forall₂ each (covers_comparisons _)
    · intro raw member
      obtain ⟨entry, listed, rfl⟩ := List.mem_map.mp member
      obtain ⟨_, _, _, reads, emitted⟩ := exists_related each.flip listed
      exact plansTyped_of_emitLeaf reads emitted

end Planner

/-! ### Prices and colours -/

namespace Sample

/-- Wares have a number, a price and perhaps a colour. -/
def ware : Entity where
  name := "Ware"
  identity := "Id"
  fields :=
    [{ name := "Id", type := .scalar .int64 }, { name := "Price", type := .scalar .float32 },
     .optional "Colour" (.optionalEnumeration "Colour" ["Red", "Blue"])]

/-- The wares of a shop. -/
def wares : Schema := .ofEntities 1 [ware]

/-- Dear wares of another colour, and those of no number. -/
def dear : Condition :=
  .grouped
    [.all [.compared "price" "gte" (.string " 1.5 "), .amongst "colour" "nin" [.string "RED"]],
     .any [.amongst "Id" "in" [], .compared "Colour" "contains" (.string "e")]]

/-- The condition over the columns of a table. -/
def dearPredicate : Sql.Predicate :=
  .all
    [.all
       [.compare "Price" .greaterOrEqual (.float32 (.finite false 12582912 (-23))),
        .any [.notAmong "Colour" [.string "Red"], .isNull "Colour"]],
     .any [.constant false, .pattern "Colour" .anywhere "e"]]

/-- The blue wares. -/
def blue : Filter := .ofList [("Colour", some (.string "blue"))]

theorem wares_typed :
    (∃ entity, wares.entity? "ware" = some entity ∧
      Planner.TypesFor wares {} entity dear.comparisons dearPredicate) ∧
    ∃ entity, wares.entity? "Ware" = some entity ∧
      Planner.TypesFor wares {} entity (blue.entries.map Planner.equality)
        (.all [.compare "Colour" .equal (.string "Blue")]) := by
  have planned : (Planner.forTables wares {}).planOnly "ware" dear = .ok dearPredicate := rfl
  have filtered : (Planner.forTables wares {}).planFilter "Ware" blue =
      .ok (.all [.compare "Colour" .equal (.string "Blue")]) := rfl
  exact ⟨Planner.planned_predicates_typed.1 dear planned,
    Planner.planned_predicates_typed.2 blue (by decide) filtered⟩

end Sample

end RecordQuery
