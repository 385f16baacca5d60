import RecordQuery.Proofs.Permission
import RecordQuery.Proofs.Walks

/-!
# Canonical references

The declared names of a path, joined by the delimiter, are a reference to it. The names have to be
distinct in each entity, not empty, and without a character of the delimiter: then the joined text
is cut between the names alone, and each name finds its own field.
-/

namespace RecordQuery

/-! ### Cutting behind a text without characters of the delimiter -/

namespace Text

variable {delimiter text before behind : List Char}

/-- No delimiter begins within a text that shares no character with it. -/
theorem firstAfter_of_disjoint (filled : delimiter ≠ []) (apart : ∀ c ∈ before, c ∉ delimiter) :
    FirstAfter delimiter before (before ++ delimiter ++ behind) := by
  intro earlier later split
  by_contra shorter
  obtain ⟨mark, marks, rfl⟩ := List.exists_cons_of_ne_nil filled
  rw [List.append_assoc, List.append_assoc] at split
  rcases List.append_eq_append_iff.mp split with ⟨more, rfl, _⟩ | ⟨more, rfl, marked⟩
  · rw [List.length_append] at shorter
    omega
  · -- A delimiter that began there would begin with a character of the text.
    cases more with
    | nil => simp at shorter
    | cons c more =>
      obtain ⟨rfl, _⟩ := List.cons.inj marked
      exact apart mark (List.mem_append_right _ List.mem_cons_self) List.mem_cons_self

theorem cutFirst?_of_disjoint (filled : delimiter ≠ []) (apart : ∀ c ∈ before, c ∉ delimiter) :
    cutFirst? delimiter (before ++ delimiter ++ behind) = some (before, behind) :=
  cutFirst?_eq_some.mpr ⟨filled, rfl, firstAfter_of_disjoint filled apart⟩

theorem not_infix_of_disjoint (filled : delimiter ≠ []) (apart : ∀ c ∈ text, c ∉ delimiter) :
    ¬delimiter <:+: text := by
  intro within
  obtain ⟨mark, marks, rfl⟩ := List.exists_cons_of_ne_nil filled
  exact apart mark (within.subset List.mem_cons_self) List.mem_cons_self

end Text

/-! ### Names that a delimiter does not cut -/

/-- The entity has the property, and so have all that a walk from it can enter: the entities of the
schema. -/
def Schema.EveryEntity (schema : Schema) (entity : Entity) (property : Entity → Prop) : Prop :=
  property entity ∧ ∀ other ∈ schema.entities.values, property other

theorem Schema.EveryEntity.child {schema : Schema} {entity child : Entity} {field : Field}
    {property : Entity → Prop} (every : schema.EveryEntity entity property)
    (embedded : schema.embeddedEntity? field = some child) : schema.EveryEntity child property :=
  ⟨every.2 child (Schema.mem_of_embeddedEntity? embedded), every.2⟩

/-- An entity whose schema has no other one can enter itself alone. -/
theorem Schema.EveryEntity.single {version : UInt64} {entity : Entity}
    {property : Entity → Prop} (holds : property entity) :
    (Schema.ofEntities version [entity]).EveryEntity entity property := by
  refine ⟨holds, fun other member => ?_⟩
  rw [show other = entity from List.mem_singleton.mp member]
  exact holds

/-- The names of the entity's fields are distinct, not empty, and share no character with the
delimiter. -/
structure Entity.Separable (delimiter : String) (entity : Entity) : Prop where
  distinct : (entity.fields.map Field.name).Nodup
  filled : ∀ field ∈ entity.fields, field.name ≠ ""
  apart : ∀ field ∈ entity.fields, ∀ c ∈ field.name.toList, c ∉ delimiter.toList

/-- Where names are distinct, each one is looked up as the field that declares it. -/
theorem Entity.findField?_of_mem {entity : Entity}
    (distinct : (entity.fields.map Field.name).Nodup) {field : Field}
    (member : field ∈ entity.fields) : entity.findField? field.name = some field := by
  rw [Entity.findField?, Entity.field?_of_mem distinct member, Option.some_or]

namespace Resolver

variable (resolver : Resolver) {entity : Entity}

/-- The joined names of declared fields select these fields. -/
theorem search_joined (filled : resolver.delimiter.toList ≠ []) {reference : String}
    (separable : resolver.schema.EveryEntity entity (Entity.Separable resolver.delimiter))
    {before : List Field} {last : Field} (walk : resolver.schema.LeadsTo entity before last) :
    resolver.search reference entity
        (resolver.delimiter.toList.intercalate
          ((before ++ [last]).map fun field => field.name.toList)) =
      .ok (some ⟨before, last⟩) := by
  induction before generalizing entity with
  | nil =>
    have here := separable.1
    have declared : last ∈ entity.fields := walk
    have whole := Text.not_infix_of_disjoint filled (here.apart last declared)
    rw [List.nil_append, List.map_singleton, List.intercalate_singleton,
      resolver.search_of_cutFirst?_eq_none (Text.cutFirst?_eq_none.mpr (.inr whole)),
      String.ofList_toList, Entity.findField?_of_mem here.distinct declared]
    rfl
  | cons first rest ih =>
    obtain ⟨declared, child, embedded, further⟩ := walk
    obtain ⟨name, embeds, looked⟩ := Option.bind_eq_some_iff.mp embedded
    have here := separable.1
    -- The first name is cut off. Its field embeds the entity in which the others are found.
    let behind := resolver.delimiter.toList.intercalate
      ((rest ++ [last]).map fun field => field.name.toList)
    have cut : Text.cutFirst? resolver.delimiter.toList
        (first.name.toList ++ resolver.delimiter.toList ++ behind) =
          some (first.name.toList, behind) :=
      Text.cutFirst?_of_disjoint filled (here.apart first declared)
    have named : first.name.toList.isEmpty = false := by
      simpa using here.filled first declared
    have below : resolver.search reference child behind = .ok (some ⟨rest, last⟩) :=
      ih (separable.child embedded) further
    rw [List.cons_append, List.map_cons, List.intercalate_cons_of_ne_nil (by simp),
      resolver.search_of_cutFirst?_eq_some cut, named, String.ofList_toList,
      Entity.findField?_of_mem here.distinct declared]
    simp only [embeds, looked, below]
    rfl

/-- The joined names of a declared path are a reference to it. -/
theorem resolve_join (filled : resolver.delimiter ≠ "")
    (separable : resolver.schema.EveryEntity entity (Entity.Separable resolver.delimiter))
    {path : Path} (declared : resolver.schema.Declares entity path) :
    resolver.resolve entity (path.join resolver.delimiter) = .ok (some path) := by
  obtain ⟨fields, walk, rfl⟩ := declared
  have marked : resolver.delimiter.toList ≠ [] := by simpa using filled
  refine resolver.resolve_eq_some.mpr ⟨fields, ?_, rfl⟩
  unfold Resolver.fields
  rw [← resolver.search_joined marked separable walk, Path.join, String.toList_intercalate,
    Path.names_segments, List.map_map]
  rfl

/-! ### Main result -/

/-- Whatever a reference leads to is also what its declared names lead to, and so is every leaf
path. -/
theorem canonical_names_resolve (filled : resolver.delimiter ≠ "")
    (separable : resolver.schema.EveryEntity entity (Entity.Separable resolver.delimiter)) :
    (∀ reference path, resolver.resolve entity reference = .ok (some path) →
      resolver.resolve entity (path.join resolver.delimiter) = .ok (some path)) ∧
    ∀ path ∈ resolver.schema.leafPaths entity,
      resolver.resolve entity (path.join resolver.delimiter) = .ok (some path) := by
  constructor
  · intro reference path resolved
    apply resolver.resolve_join filled separable
    exact resolver.declares_of_resolve resolved
  · intro path listed
    apply resolver.resolve_join filled separable
    exact Schema.declares_of_mem_leafPaths listed

end Resolver

namespace Sample

theorem folders_separable :
    folders.schema.EveryEntity folder (Entity.Separable folders.delimiter) := by
  have folder_separable : folder.Separable folders.delimiter :=
    ⟨by decide, by decide, by simp [folder, folders]⟩
  exact .single folder_separable

theorem leafPaths_folder :
    folders.schema.leafPaths folder = [.one ⟨"name", none, .scalar .string⟩] := by
  unfold Schema.leafPaths Schema.leavesBelow
  rfl

/-- The name of the folder two above, by alias and in capitals, has a canonical reference, and so
has the one leaf of a folder. -/
theorem grandparent_canonical :
    ∃ path, folders.resolve folder "IN--Parent--NAME" = .ok (some path) ∧
      path.join "--" = "parent--parent--name" ∧
      folders.resolve folder "parent--parent--name" = .ok (some path) ∧
      folders.resolve folder "name" = .ok (some (.one ⟨"name", none, .scalar .string⟩)) := by
  have canonical := folders.canonical_names_resolve (by decide) folders_separable
  have leaf : Chain.one ⟨"name", none, .scalar .string⟩ ∈ folders.schema.leafPaths folder := by
    rw [leafPaths_folder]
    exact List.mem_cons_self
  exact ⟨_, rfl, rfl, canonical.1 "IN--Parent--NAME" _ rfl, canonical.2 _ leaf⟩

end Sample

end RecordQuery
