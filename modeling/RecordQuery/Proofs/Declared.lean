import RecordQuery.Path.Leaves
import RecordQuery.Path.Resolve
import RecordQuery.Proofs.Entries
import RecordQuery.Proofs.Outcome

/-!
# Paths along declared fields

A path leads from an entity along fields that entities of the schema declare, whether it was
resolved from a reference or is one of the leaf paths.
-/

namespace RecordQuery

/-! ### Looking up declarations -/

namespace Entity

theorem mem_of_findField? {entity : Entity} {name : String} {field : Field}
    (found : entity.findField? name = some field) : field ∈ entity.fields := by
  unfold findField? at found
  rcases Option.or_eq_some_iff.mp found with exact | ⟨_, answered⟩
  · exact List.mem_of_find?_eq_some exact
  · exact List.mem_of_find?_eq_some answered

theorem answersTo_of_findField? {entity : Entity} {name : String} {field : Field}
    (found : entity.findField? name = some field) : field.answersTo name = true := by
  unfold findField? at found
  rcases Option.or_eq_some_iff.mp found with exact | ⟨_, answered⟩
  · have same : field.name = name := by simpa using List.find?_some exact
    simp [Field.answersTo, Text.sameName, same]
  · have answers := List.find?_some answered
    exact answers

end Entity

theorem Path.names_segments (fields : Chain Field) :
    Path.names (fields.map Field.segment) = fields.toList.map Field.name := by
  rw [Path.names, Chain.toList_map, List.map_map]
  rfl

namespace Schema

theorem mem_of_entity? {schema : Schema} {name : String} {entity : Entity}
    (found : schema.entity? name = some entity) : entity ∈ schema.entities.values := by
  unfold entity? at found
  rcases Option.or_eq_some_iff.mp found with exact | ⟨_, similar⟩
  · exact List.mem_map.mpr ⟨_, mem_of_entryAt? exact, rfl⟩
  · exact List.mem_of_find?_eq_some similar

theorem mem_of_embeddedEntity? {schema : Schema} {field : Field} {child : Entity}
    (found : schema.embeddedEntity? field = some child) : child ∈ schema.entities.values := by
  obtain ⟨name, _, looked⟩ := Option.bind_eq_some_iff.mp found
  exact mem_of_entity? looked

/-! ### Walks -/

/-- From the entity the fields lead on to the last one, each but the last embedding the entity that
declares the next one. -/
def LeadsTo (schema : Schema) : Entity → (before : List Field) → (last : Field) → Prop
  | entity, [], last => last ∈ entity.fields
  | entity, field :: rest, last =>
    field ∈ entity.fields ∧
      ∃ child, schema.embeddedEntity? field = some child ∧ schema.LeadsTo child rest last

/-- Does the path consist of the segments of such fields? -/
def Declares (schema : Schema) (entity : Entity) (path : Path) : Prop :=
  ∃ fields : Chain Field,
    schema.LeadsTo entity fields.before fields.last ∧ path = fields.map Field.segment

/-- Every declared name has the property. -/
def EveryName (schema : Schema) (property : String → Prop) : Prop :=
  ∀ entity ∈ schema.entities.values, ∀ field ∈ entity.fields, property field.name

theorem LeadsTo.name_mem {schema : Schema} {property : String → Prop}
    (every : schema.EveryName property) {entity : Entity} {before : List Field} {last : Field}
    (own : ∀ field ∈ entity.fields, property field.name)
    (walk : schema.LeadsTo entity before last) :
    ∀ field ∈ before ++ [last], property field.name := by
  -- Each field before the last one leads on to another entity of the schema.
  induction before generalizing entity with
  | nil =>
    intro field here
    rw [List.nil_append, List.mem_singleton] at here
    exact here ▸ own last walk
  | cons first rest ih =>
    obtain ⟨declared, child, embedded, further⟩ := walk
    intro field here
    rcases List.mem_cons.mp here with rfl | later
    · exact own field declared
    · exact ih (every child (mem_of_embeddedEntity? embedded)) further field later

/-- The names of a declared path are declared by the entity or by one of the schema. -/
theorem Declares.names_of_own {schema : Schema} {property : String → Prop}
    (every : schema.EveryName property) {entity : Entity} {path : Path}
    (own : ∀ field ∈ entity.fields, property field.name)
    (declared : schema.Declares entity path) : ∀ name ∈ path.names, property name := by
  obtain ⟨fields, walk, rfl⟩ := declared
  intro name here
  simp only [Path.names, Chain.toList_map, List.map_map] at here
  obtain ⟨field, place, rfl⟩ := List.mem_map.mp here
  exact walk.name_mem every own field place

/-- The names of a declared path are declared. -/
theorem Declares.names {schema : Schema} {property : String → Prop}
    (every : schema.EveryName property) {entity : Entity} {path : Path}
    (member : entity ∈ schema.entities.values) (declared : schema.Declares entity path) :
    ∀ name ∈ path.names, property name :=
  declared.names_of_own every (every entity member)

/-! ### Leaf paths -/

/-- A leaf below some fields is one of them, or it lies in the entity that one of them embeds. -/
theorem mem_leavesBelow {schema : Schema} {room : Nat} {visited : List String}
    {before : List Segment} {fields : List Field} {path : Path}
    (member : path ∈ schema.leavesBelow room visited before fields) :
    ∃ field ∈ fields, path = ⟨before, field.segment⟩ ∨
      ∃ less child, room = less + 1 ∧ schema.embeddedEntity? field = some child ∧
        path ∈ schema.leavesBelow less (child.name :: visited) (before ++ [field.segment])
          child.fields := by
  rw [leavesBelow] at member
  obtain ⟨field, declared, place⟩ := List.mem_flatMap.mp member
  refine ⟨field, declared, ?_⟩
  split at place
  next => exact .inl (List.mem_singleton.mp place)
  next child embedded =>
    right
    split at place
    next => cases place
    next =>
      cases room with
      | zero => cases place
      | succ less => exact ⟨less, child, rfl, embedded, place⟩

theorem declares_of_mem_leavesBelow {schema : Schema} {room : Nat} {visited : List String}
    {before : List Segment} {entity : Entity} {path : Path}
    (member : path ∈ schema.leavesBelow room visited before entity.fields) :
    ∃ fields : Chain Field, schema.LeadsTo entity fields.before fields.last ∧
      path.toList = before ++ (fields.map Field.segment).toList := by
  -- Entering an entity takes one from the room, whatever was visited before.
  induction room using Nat.strongRecOn generalizing visited before entity with
  | ind room ih =>
    obtain ⟨field, declared, rfl | ⟨less, child, rfl, embedded, inside⟩⟩ := mem_leavesBelow member
    · exact ⟨.one field, declared, rfl⟩
    · obtain ⟨fields, walk, segments⟩ := ih less (Nat.lt_succ_self less) inside
      refine ⟨.cons field fields, ⟨declared, child, embedded, walk⟩, ?_⟩
      rw [segments]
      simp [Chain.cons, Chain.map, Chain.toList]

theorem declares_of_mem_leafPaths {schema : Schema} {entity : Entity} {path : Path}
    (member : path ∈ schema.leafPaths entity) : schema.Declares entity path := by
  obtain ⟨fields, walk, segments⟩ := declares_of_mem_leavesBelow member
  exact ⟨fields, walk, Chain.toList_injective (by simpa using segments)⟩

end Schema

namespace Resolver

variable (resolver : Resolver)

/-! ### Resolved references -/

theorem leadsTo_of_search {reference : String} {entity : Entity} {text : List Char}
    {fields : Chain Field}
    (found : resolver.search reference entity text = .ok (some fields)) :
    resolver.schema.LeadsTo entity fields.before fields.last := by
  -- A text without a delimiter and one that begins with a field that embeds an entity select
  -- fields; the other cases select none.
  fun_induction resolver.search reference entity text generalizing fields with
  | case1 entity text =>
    simp only [Except.ok.injEq, Option.map_eq_some_iff] at found
    obtain ⟨field, found, rfl⟩ := found
    exact Entity.mem_of_findField? found
  | case2 => cases found
  | case3 => cases found
  | case4 => cases found
  | case5 => cases found
  | case6 entity text before behind _ _ field looked name embedded child known ih =>
    simp only [map_eq_ok, Option.map_eq_some_iff] at found
    obtain ⟨_, later, rest, rfl, rfl⟩ := found
    refine ⟨Entity.mem_of_findField? looked, child, ?_, ih later⟩
    simp [Schema.embeddedEntity?, embedded, known]

theorem resolve_eq_some {entity : Entity} {reference : String} {path : Path} :
    resolver.resolve entity reference = .ok (some path) ↔
      ∃ fields, resolver.fields entity reference = .ok (some fields) ∧
        path = fields.map Field.segment := by
  simp only [resolve, map_eq_ok, Option.map_eq_some_iff]
  constructor
  · rintro ⟨_, found, fields, rfl, same⟩
    exact ⟨fields, found, same.symm⟩
  · rintro ⟨fields, found, same⟩
    exact ⟨_, found, fields, rfl, same.symm⟩

theorem declares_of_resolve {entity : Entity} {reference : String} {path : Path}
    (resolved : resolver.resolve entity reference = .ok (some path)) :
    resolver.schema.Declares entity path := by
  obtain ⟨fields, found, same⟩ := resolver.resolve_eq_some.mp resolved
  exact ⟨fields, resolver.leadsTo_of_search found, same⟩

end Resolver

end RecordQuery
