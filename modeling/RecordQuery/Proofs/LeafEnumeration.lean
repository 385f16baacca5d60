import RecordQuery.Proofs.CanonicalNames

/-!
# Enumerating leaf paths

The leaves below an entity are enumerated by entering embedded entities, but none that is on the way
already. However the entities of a schema embed each other, the enumeration ends, since each entity
that is entered leaves one name fewer to enter. It lists every way to a leaf on which no entity
occurs twice, once each, in the order of the declarations.
-/

namespace RecordQuery

namespace Schema

variable {schema : Schema}

/-! ### Runs -/

/-- A run of the enumeration over some fields, with the names of the entities that it has entered
and the segments that lead there. It comes to the paths that it lists. -/
inductive Enumerates (schema : Schema) :
    (visited : List String) → (before : List Segment) → List Field → List Path → Prop
  | done {visited : List String} {before : List Segment} : Enumerates schema visited before [] []
  | leaf {visited : List String} {before : List Segment} {field : Field} {rest : List Field}
    {listed : List Path} :
    schema.embeddedEntity? field = none → Enumerates schema visited before rest listed →
      Enumerates schema visited before (field :: rest) (⟨before, field.segment⟩ :: listed)
  | again {visited : List String} {before : List Segment} {field : Field} {rest : List Field}
    {child : Entity} {listed : List Path} :
    schema.embeddedEntity? field = some child → child.name ∈ visited →
      Enumerates schema visited before rest listed →
        Enumerates schema visited before (field :: rest) listed
  | enter {visited : List String} {before : List Segment} {field : Field} {rest : List Field}
    {child : Entity} {inside listed : List Path} :
    schema.embeddedEntity? field = some child → child.name ∉ visited →
      Enumerates schema (child.name :: visited) (before ++ [field.segment]) child.fields inside →
        Enumerates schema visited before rest listed →
          Enumerates schema visited before (field :: rest) (inside ++ listed)

variable {visited : List String} {before : List Segment} {fields : List Field}

/-- There is one list that a run can come to. -/
theorem Enumerates.unique {listed listed' : List Path}
    (run : schema.Enumerates visited before fields listed)
    (run' : schema.Enumerates visited before fields listed') : listed = listed' := by
  induction run generalizing listed' with
  | done => cases run'; rfl
  | leaf ends _ ih =>
    cases run' with
    | leaf _ rest' => rw [ih rest']
    | again embedded => cases ends.symm.trans embedded
    | enter embedded => cases ends.symm.trans embedded
  | again embedded old _ ih =>
    cases run' with
    | leaf ends => cases ends.symm.trans embedded
    | again _ _ rest' => exact ih rest'
    | enter embedded' new =>
      cases embedded.symm.trans embedded'
      exact absurd old new
  | enter embedded new _ _ inner outer =>
    cases run' with
    | leaf ends => cases ends.symm.trans embedded
    | again embedded' old =>
      cases embedded.symm.trans embedded'
      exact absurd old new
    | enter embedded' _ inside' rest' =>
      cases embedded.symm.trans embedded'
      rw [inner inside', outer rest']

/-- How many entities of the schema have a name that was not entered. -/
def unvisited (schema : Schema) (visited : List String) : Nat :=
  (schema.entities.values.filter fun entity => !visited.contains entity.name).length

/-- Entering an entity leaves fewer to enter. -/
theorem unvisited_cons_lt {child : Entity} (known : child ∈ schema.entities.values)
    (new : child.name ∉ visited) :
    schema.unvisited (child.name :: visited) < schema.unvisited visited := by
  have kept : (schema.entities.values.filter fun entity =>
        !(child.name :: visited).contains entity.name) =
      (schema.entities.values.filter fun entity => !visited.contains entity.name).filter
        fun entity => entity.name != child.name := by
    rw [List.filter_filter]
    apply List.filter_congr
    intro entity _
    rw [List.contains_cons, Bool.not_or, bne]
  unfold unvisited
  rw [kept]
  apply List.length_filter_lt_length_iff_exists.mpr
  exact ⟨child, List.mem_filter.mpr ⟨known, by simpa using new⟩, by simp⟩

section Steps

variable (room : Nat) {field : Field} {child : Entity}

theorem leavesBelow_nil : schema.leavesBelow room visited before [] = [] := by
  rw [leavesBelow, List.flatMap_nil]

theorem leavesBelow_cons (rest : List Field) :
    schema.leavesBelow room visited before (field :: rest) =
      schema.leavesBelow room visited before [field] ++
        schema.leavesBelow room visited before rest := by
  rw [leavesBelow, leavesBelow, leavesBelow, List.flatMap_cons, List.flatMap_singleton]

theorem leavesBelow_leaf (ends : schema.embeddedEntity? field = none) :
    schema.leavesBelow room visited before [field] = [⟨before, field.segment⟩] := by
  rw [leavesBelow, List.flatMap_singleton, ends]

theorem leavesBelow_again (embedded : schema.embeddedEntity? field = some child)
    (old : child.name ∈ visited) : schema.leavesBelow room visited before [field] = [] := by
  rw [leavesBelow, List.flatMap_singleton, embedded]
  exact if_pos (List.contains_iff_mem.mpr old)

theorem leavesBelow_enter (embedded : schema.embeddedEntity? field = some child)
    (new : child.name ∉ visited) :
    schema.leavesBelow (room + 1) visited before [field] =
      schema.leavesBelow room (child.name :: visited) (before ++ [field.segment])
        child.fields := by
  rw [leavesBelow, List.flatMap_singleton, embedded]
  exact if_neg (mt List.contains_iff_mem.mp new)

end Steps

/-- With room for all entities that are left, listing the leaves is a run. -/
theorem enumerates_leavesBelow {room : Nat} (enough : schema.unvisited visited ≤ room) :
    schema.Enumerates visited before fields (schema.leavesBelow room visited before fields) := by
  -- An entity that is entered takes one from the room and one from those that are left.
  induction room using Nat.strongRecOn generalizing visited before fields with
  | ind room inside =>
    induction fields with
    | nil =>
      rw [leavesBelow_nil]
      exact .done
    | cons field rest others =>
      rw [leavesBelow_cons]
      match found : schema.embeddedEntity? field with
      | none =>
        rw [leavesBelow_leaf room found]
        exact .leaf found others
      | some child =>
        by_cases old : child.name ∈ visited
        · rw [leavesBelow_again room found old]
          exact .again found old others
        · have fewer := unvisited_cons_lt (mem_of_embeddedEntity? found) old
          obtain ⟨less, rfl⟩ : ∃ less, room = less + 1 := ⟨room - 1, by omega⟩
          rw [leavesBelow_enter less found old]
          exact .enter found old (inside less (by omega) (by omega)) others

theorem unvisited_le (schema : Schema) (visited : List String) :
    schema.unvisited visited ≤ schema.entities.entries.length := by
  have kept := List.length_filter_le (fun entity : Entity => !visited.contains entity.name)
    schema.entities.values
  rwa [Dictionary.values, List.length_map] at kept

/-- Listing the leaves of an entity is a run. -/
theorem enumerates_leafPaths (schema : Schema) (entity : Entity) :
    schema.Enumerates [entity.name] [] entity.fields (schema.leafPaths entity) :=
  enumerates_leavesBelow (schema.unvisited_le [entity.name])

/-! ### Descents -/

end Schema

/-- The fields on a way to a leaf, and the place of each among the fields of its entity. -/
structure Descent where
  places : List Nat
  fields : Chain Field

namespace Descent

def path (descent : Descent) : Path := descent.fields.map Field.segment

/-- The path of a descent that goes on behind some segments. -/
def pathBehind (before : List Segment) (descent : Descent) : Path :=
  ⟨before ++ descent.path.before, descent.path.last⟩

/-- The descent behind a field that stands first. -/
def under (field : Field) (descent : Descent) : Descent :=
  ⟨0 :: descent.places, .cons field descent.fields⟩

/-- The descent when one more field stands before those that it begins at. -/
def later (descent : Descent) : Descent :=
  ⟨descent.places.modifyHead (· + 1), descent.fields⟩

theorem pathBehind_nil : pathBehind [] = path := rfl

/-- A field more before the others changes the places alone. -/
theorem map_pathBehind_later (before : List Segment) (descents : List Descent) :
    (descents.map later).map (pathBehind before) = descents.map (pathBehind before) := by
  rw [List.map_map]
  rfl

theorem pathBehind_under (before : List Segment) (field : Field) (descent : Descent) :
    (descent.under field).pathBehind before =
      descent.pathBehind (before ++ [field.segment]) := by
  simp [pathBehind, path, under, Chain.map, Chain.cons]

end Descent

namespace Schema

/-- The field is a leaf: it embeds nothing, or an entity that the schema does not have. -/
def EndsAt (schema : Schema) (field : Field) : Prop :=
  field.type.isComposite = false ∨
    ∃ name, field.type.embedded? = some name ∧ schema.entity? name = none

theorem endsAt_iff {schema : Schema} {field : Field} :
    schema.EndsAt field ↔ schema.embeddedEntity? field = none := by
  unfold EndsAt embeddedEntity? FieldType.isComposite
  cases field.type.embedded? <;> simp

/-- The descent leads from one of the fields through the entities to a leaf. -/
inductive Descends (schema : Schema) : List Field → (entered : List Entity) → Descent → Prop
  | ends {fields : List Field} {place : Nat} {field : Field} :
    fields[place]? = some field → schema.EndsAt field →
      Descends schema fields [] ⟨[place], .one field⟩
  | enters {fields : List Field} {place : Nat} {field : Field} {name : String} {child : Entity}
    {entered : List Entity} {descent : Descent} :
    fields[place]? = some field → field.type.embedded? = some name →
      schema.entity? name = some child → Descends schema child.fields entered descent →
        Descends schema fields (child :: entered)
          ⟨place :: descent.places, .cons field descent.fields⟩

/-- The entities have distinct names, and none of those that were entered before. -/
def Fresh (visited : List String) (entered : List Entity) : Prop :=
  (entered.map Entity.name).Nodup ∧ ∀ entity ∈ entered, entity.name ∉ visited

theorem fresh_cons {visited : List String} {child : Entity} {entered : List Entity} :
    Fresh visited (child :: entered) ↔
      child.name ∉ visited ∧ Fresh (child.name :: visited) entered := by
  simp only [Fresh, List.map_cons, List.nodup_cons, List.mem_map, List.mem_cons, not_or,
    forall_eq_or_imp, not_exists, not_and]
  constructor
  · rintro ⟨⟨new, distinct⟩, first, others⟩
    exact ⟨first, distinct, fun entity member => ⟨new entity member, others entity member⟩⟩
  · rintro ⟨first, distinct, others⟩
    exact ⟨⟨fun entity member => (others entity member).1, distinct⟩, first,
      fun entity member => (others entity member).2⟩

theorem fresh_singleton {entity : Entity} {entered : List Entity} :
    Fresh [entity.name] entered ↔ ((entity :: entered).map Entity.name).Nodup := by
  simp only [Fresh, List.map_cons, List.nodup_cons, List.mem_map, List.mem_singleton, not_exists,
    not_and]
  exact and_comm

section Lists

variable {schema : Schema} {visited : List String} {field : Field} {rest : List Field}
  {entered : List Entity} {descent : Descent}

/-- The descents are those from the fields through entities that were not entered before, in the
order of the declarations. -/
structure Lists (schema : Schema) (visited : List String) (fields : List Field)
    (descents : List Descent) : Prop where
  ascending : descents.Pairwise fun descent other => descent.places < other.places
  mem_iff : ∀ descent, descent ∈ descents ↔
    ∃ entered, schema.Descends fields entered descent ∧ Fresh visited entered

/-- Behind the first field the others stand as if it were not there. -/
theorem descends_later :
    schema.Descends (field :: rest) entered descent.later ↔
      schema.Descends rest entered descent := by
  obtain ⟨_ | ⟨place, more⟩, fields⟩ := descent
  · constructor <;> intro walk <;> cases walk
  · constructor
    · intro walk
      cases walk with
      | ends found leaf => exact .ends found leaf
      | enters found embeds known inside => exact .enters found embeds known inside
    · intro walk
      cases walk with
      | ends found leaf => exact .ends found leaf
      | enters found embeds known inside => exact .enters found embeds known inside

/-- A descent through the first field ends there or goes on in the entity that it embeds. -/
theorem descends_first (starts : descent.places.head? = some 0) :
    schema.Descends (field :: rest) entered descent ↔
      (schema.embeddedEntity? field = none ∧ entered = [] ∧ descent = ⟨[0], .one field⟩) ∨
        ∃ child others inside, schema.embeddedEntity? field = some child ∧
          entered = child :: others ∧ descent = inside.under field ∧
            schema.Descends child.fields others inside := by
  constructor
  · intro walk
    cases walk with
    | ends found leaf =>
      cases starts
      cases found
      exact .inl ⟨endsAt_iff.mp leaf, rfl, rfl⟩
    | enters found embeds known inside =>
      cases starts
      cases found
      exact .inr ⟨_, _, _, by simp [embeddedEntity?, embeds, known], rfl, rfl, inside⟩
  · rintro (⟨leaf, rfl, rfl⟩ | ⟨child, others, inside, embedded, rfl, rfl, walk⟩)
    · exact .ends rfl (endsAt_iff.mpr leaf)
    · obtain ⟨name, embeds, known⟩ := Option.bind_eq_some_iff.mp embedded
      exact .enters rfl embeds known walk

theorem places_ne_nil {fields : List Field} (walk : schema.Descends fields entered descent) :
    descent.places ≠ [] := by
  cases walk <;> exact List.cons_ne_nil _ _

theorem modifyHead_lt {places others : List Nat} (less : places < others) :
    places.modifyHead (· + 1) < others.modifyHead (· + 1) := by
  cases places with
  | nil =>
    cases others with
    | nil => exact absurd less (List.lt_irrefl [])
    | cons => exact List.nil_lt_cons _ _
  | cons place more =>
    cases others with
    | nil => exact absurd less (List.not_lt_nil _)
    | cons other others =>
      rw [List.modifyHead_cons, List.modifyHead_cons, List.cons_lt_cons_iff]
      exact (List.cons_lt_cons_iff.mp less).imp Nat.succ_lt_succ (And.imp_left (congrArg _))

/-- The descents through the first field come before those through the others. -/
theorem Lists.cons {firsts others : List Descent}
    (ascending : firsts.Pairwise fun descent other => descent.places < other.places)
    (mem_iff : ∀ descent, descent ∈ firsts ↔ descent.places.head? = some 0 ∧
      ∃ entered, schema.Descends (field :: rest) entered descent ∧ Fresh visited entered)
    (lists : schema.Lists visited rest others) :
    schema.Lists visited (field :: rest) (firsts ++ others.map Descent.later) where
  ascending := by
    refine List.pairwise_append.mpr ⟨ascending, ?_, ?_⟩
    · exact List.pairwise_map.mpr (lists.ascending.imp modifyHead_lt)
    · intro first here later there
      obtain ⟨descent, member, rfl⟩ := List.mem_map.mp there
      obtain ⟨_, walk, _⟩ := (lists.mem_iff descent).mp member
      obtain ⟨place, more, places⟩ := List.exists_cons_of_ne_nil (places_ne_nil walk)
      obtain ⟨more', places'⟩ := List.head?_eq_some_iff.mp ((mem_iff first).mp here).1
      rw [places', Descent.later, places, List.modifyHead_cons]
      exact List.cons_lt_cons_iff.mpr (.inl (Nat.succ_pos place))
  mem_iff := by
    intro descent
    rw [List.mem_append]
    constructor
    · rintro (first | later)
      · exact ((mem_iff descent).mp first).2
      · obtain ⟨descent, member, rfl⟩ := List.mem_map.mp later
        obtain ⟨entered, walk, fresh⟩ := (lists.mem_iff descent).mp member
        exact ⟨entered, descends_later.mpr walk, fresh⟩
    · rintro ⟨entered, walk, fresh⟩
      obtain ⟨_ | ⟨_ | place, more⟩, fields⟩ := descent
      · cases walk
      · exact .inl ((mem_iff _).mpr ⟨rfl, entered, walk, fresh⟩)
      · have listed := (lists.mem_iff ⟨place :: more, fields⟩).mpr
          ⟨entered, descends_later.mp walk, fresh⟩
        exact .inr (List.mem_map.mpr ⟨_, listed, rfl⟩)

theorem lists_nil : schema.Lists visited [] [] where
  ascending := .nil
  mem_iff := by
    intro descent
    constructor
    · intro listed
      cases listed
    · rintro ⟨_, walk, _⟩
      cases walk with
      | ends found => cases found
      | enters found => cases found

theorem Lists.leaf {others : List Descent} (ends : schema.embeddedEntity? field = none)
    (lists : schema.Lists visited rest others) :
    schema.Lists visited (field :: rest) (⟨[0], .one field⟩ :: others.map Descent.later) := by
  refine .cons (List.pairwise_singleton _ _) (fun descent => ?_) lists
  rw [List.mem_singleton]
  constructor
  · rintro rfl
    exact ⟨rfl, [], (descends_first rfl).mpr (.inl ⟨ends, rfl, rfl⟩), List.nodup_nil, by simp⟩
  · rintro ⟨starts, entered, walk, _⟩
    rcases (descends_first starts).mp walk with ⟨_, _, same⟩ | ⟨_, _, _, embedded, _⟩
    · exact same
    · cases ends.symm.trans embedded

theorem Lists.again {child : Entity} {others : List Descent}
    (embedded : schema.embeddedEntity? field = some child) (old : child.name ∈ visited)
    (lists : schema.Lists visited rest others) :
    schema.Lists visited (field :: rest) (others.map Descent.later) := by
  have none_first : ([] : List Descent).Pairwise fun descent other =>
      descent.places < other.places := .nil
  refine .cons none_first (fun descent => ?_) lists
  constructor
  · intro listed
    cases listed
  · rintro ⟨starts, entered, walk, fresh⟩
    rcases (descends_first starts).mp walk with ⟨ends, _⟩ | ⟨_, _, _, embedded', rfl, _⟩
    · cases ends.symm.trans embedded
    · cases embedded.symm.trans embedded'
      exact absurd old (fresh_cons.mp fresh).1

theorem Lists.enter {child : Entity} {inside others : List Descent}
    (embedded : schema.embeddedEntity? field = some child) (new : child.name ∉ visited)
    (inner : schema.Lists (child.name :: visited) child.fields inside)
    (lists : schema.Lists visited rest others) :
    schema.Lists visited (field :: rest)
      (inside.map (Descent.under field) ++ others.map Descent.later) := by
  refine .cons ?_ (fun descent => ?_) lists
  · refine List.pairwise_map.mpr (inner.ascending.imp fun less => ?_)
    exact List.cons_lt_cons_iff.mpr (.inr ⟨rfl, less⟩)
  · rw [List.mem_map]
    constructor
    · rintro ⟨descent, member, rfl⟩
      obtain ⟨entered, walk, fresh⟩ := (inner.mem_iff descent).mp member
      refine ⟨rfl, child :: entered, ?_, fresh_cons.mpr ⟨new, fresh⟩⟩
      exact (descends_first rfl).mpr (.inr ⟨child, entered, descent, embedded, rfl, rfl, walk⟩)
    · rintro ⟨starts, entered, walk, fresh⟩
      rcases (descends_first starts).mp walk with
        ⟨ends, _⟩ | ⟨child', entered, descent, embedded', rfl, rfl, below⟩
      · cases ends.symm.trans embedded
      · cases embedded.symm.trans embedded'
        exact ⟨descent, (inner.mem_iff descent).mpr ⟨entered, below, (fresh_cons.mp fresh).2⟩, rfl⟩

/-- A run comes to the paths of the descents in their order. -/
theorem Enumerates.lists {before : List Segment} {fields : List Field} {listed : List Path}
    (run : schema.Enumerates visited before fields listed) :
    ∃ descents, schema.Lists visited fields descents ∧
      listed = descents.map (Descent.pathBehind before) := by
  induction run with
  | done => exact ⟨[], lists_nil, rfl⟩
  | leaf ends _ ih =>
    obtain ⟨descents, lists, rfl⟩ := ih
    refine ⟨_, lists.leaf ends, ?_⟩
    rw [List.map_cons, Descent.map_pathBehind_later]
    simp [Descent.pathBehind, Descent.path, Chain.map, Chain.one]
  | again embedded old _ ih =>
    obtain ⟨descents, lists, rfl⟩ := ih
    exact ⟨_, lists.again embedded old, (Descent.map_pathBehind_later _ _).symm⟩
  | enter embedded new _ _ inner outer =>
    obtain ⟨inside, listsInside, rfl⟩ := inner
    obtain ⟨descents, lists, rfl⟩ := outer
    refine ⟨_, .enter embedded new listsInside lists, ?_⟩
    rw [List.map_append, Descent.map_pathBehind_later, List.map_map]
    congr 1
    apply List.map_congr_left
    intro descent _
    exact (Descent.pathBehind_under _ _ descent).symm

end Lists

/-! ### Distinct names -/

/-- Where names are distinct, a name stands at one place. -/
theorem same_place {fields : List Field} (distinct : (fields.map Field.name).Nodup)
    {place place' : Nat} {field field' : Field} (found : fields[place]? = some field)
    (found' : fields[place']? = some field') (named : field.name = field'.name) :
    place = place' ∧ field = field' := by
  have inside : place < (fields.map Field.name).length := by
    rw [List.length_map]
    exact (List.getElem?_eq_some_iff.mp found).1
  have same : place = place' := by
    apply (List.getElem?_inj inside distinct).mp
    rw [List.getElem?_map, List.getElem?_map, found, found', Option.map_some, Option.map_some,
      named]
  subst same
  exact ⟨rfl, Option.some_inj.mp (found.symm.trans found')⟩

/-- Where names are distinct in each entity, a descent whose names begin those of another one is
the other one: a leaf is not entered. -/
theorem Descends.eq_of_names_prefix {schema : Schema}
    (every : ∀ other ∈ schema.entities.values, (other.fields.map Field.name).Nodup)
    {fields : List Field} (distinct : (fields.map Field.name).Nodup)
    {entered entered' : List Entity} {above descent : Descent}
    (walk : schema.Descends fields entered above)
    (walk' : schema.Descends fields entered' descent)
    (begins : above.fields.toList.map Field.name <+: descent.fields.toList.map Field.name) :
    above = descent := by
  induction walk generalizing entered' descent with
  | ends found leaf =>
    cases walk' with
    | ends found' _ =>
      obtain ⟨rfl, rfl⟩ := same_place distinct found found' (List.cons_prefix_cons.mp begins).1
      rfl
    | enters found' embeds known _ =>
      obtain ⟨rfl, rfl⟩ := same_place distinct found found' (List.cons_prefix_cons.mp begins).1
      have ends := endsAt_iff.mp leaf
      simp [embeddedEntity?, embeds, known] at ends
  | enters found embeds known inside ih =>
    have child_distinct := every _ (mem_of_entity? known)
    cases walk' with
    | ends found' leaf =>
      obtain ⟨rfl, rfl⟩ := same_place distinct found found' (List.cons_prefix_cons.mp begins).1
      have ends := endsAt_iff.mp leaf
      simp [embeddedEntity?, embeds, known] at ends
    | enters found' embeds' known' inside' =>
      obtain ⟨named, further⟩ := List.cons_prefix_cons.mp begins
      obtain ⟨rfl, rfl⟩ := same_place distinct found found' named
      cases embeds.symm.trans embeds'
      cases known.symm.trans known'
      obtain rfl := ih child_distinct inside' further
      rfl

/-- Where names are distinct in each entity, listed descents have distinct paths, none of which lies
under another. -/
theorem Lists.paths_apart {schema : Schema} {visited : List String} {entity : Entity}
    {descents : List Descent} (lists : schema.Lists visited entity.fields descents)
    (distinct : schema.EveryEntity entity fun other => (other.fields.map Field.name).Nodup) :
    (descents.map Descent.path).Nodup ∧
      ∀ path ∈ descents.map Descent.path, ∀ above ∈ descents.map Descent.path,
        path.isUnder above = true → path = above := by
  have tells : ∀ above ∈ descents, ∀ descent ∈ descents,
      descent.path.isUnder above.path = true → above = descent := by
    intro above here descent there under
    obtain ⟨_, walk, _⟩ := (lists.mem_iff above).mp here
    obtain ⟨_, walk', _⟩ := (lists.mem_iff descent).mp there
    apply walk.eq_of_names_prefix distinct.2 distinct.1 walk'
    rwa [Path.isUnder, List.isPrefixOf_iff_prefix, Descent.path, Descent.path,
      Path.names_segments, Path.names_segments] at under
  constructor
  · -- Descents of one path would be one descent, but their places ascend.
    refine List.pairwise_map.mpr (lists.ascending.imp_of_mem ?_)
    intro descent other here there less equal
    have under : other.path.isUnder descent.path = true := by
      rw [equal, Path.isUnder]
      exact List.isPrefixOf_iff_prefix.mpr List.prefix_rfl
    obtain rfl := tells descent here other there under
    exact List.lt_irrefl _ less
  · intro path listed above listed' under
    obtain ⟨descent, there, rfl⟩ := List.mem_map.mp listed
    obtain ⟨above, here, rfl⟩ := List.mem_map.mp listed'
    obtain rfl := tells above here descent there under
    rfl

/-! ### Main result -/

/-- The leaf paths of an entity are what a run of the enumeration comes to, and there is always such
a run. They are those of the descents on which no entity occurs twice, the entity itself included,
in the order of the declarations. Where names are distinct in each entity, no leaf path occurs twice
or lies under another. -/
theorem leafPaths_enumerate (schema : Schema) (entity : Entity) :
    (∀ listed, schema.Enumerates [entity.name] [] entity.fields listed ↔
      listed = schema.leafPaths entity) ∧
    (∃ descents : List Descent,
      schema.leafPaths entity = descents.map Descent.path ∧
        (descents.Pairwise fun descent other => descent.places < other.places) ∧
        ∀ descent, descent ∈ descents ↔
          ∃ entered, schema.Descends entity.fields entered descent ∧
            ((entity :: entered).map Entity.name).Nodup) ∧
    ((schema.EveryEntity entity fun other => (other.fields.map Field.name).Nodup) →
      (schema.leafPaths entity).Nodup ∧
        ∀ path ∈ schema.leafPaths entity, ∀ above ∈ schema.leafPaths entity,
          path.isUnder above = true → path = above) := by
  have run := schema.enumerates_leafPaths entity
  obtain ⟨descents, lists, same⟩ := run.lists
  rw [Descent.pathBehind_nil] at same
  refine ⟨fun listed => ⟨fun other => other.unique run, fun listed => listed ▸ run⟩,
    ⟨descents, same, lists.ascending, fun descent => ?_⟩, fun distinct => ?_⟩
  · rw [lists.mem_iff]
    simp only [fresh_singleton]
  · rw [same]
    exact lists.paths_apart distinct

end Schema

namespace Sample

/-- An author with posts. The home is of an entity that no schema below has. -/
def author : Entity where
  name := "Author"
  identity := "name"
  fields :=
    [{ name := "name", type := .scalar .string },
     { name := "posts", type := .arrayOfEmbedded "Post" },
     { name := "home", type := .embedded "Home" }]

/-- A post, which has its author. -/
def post : Entity where
  name := "Post"
  identity := "title"
  fields :=
    [{ name := "author", type := .embedded "Author" },
     { name := "title", type := .scalar .string }]

/-- Authors and posts, which embed each other. -/
def authors : Schema := .ofEntities 1 [author, post]

theorem leafPaths_author :
    (authors.leafPaths author).map Path.text = ["name", "posts.title", "home"] := by
  unfold Schema.leafPaths Schema.leavesBelow Schema.leavesBelow
  rfl

/-- The leaves of an author and of the author's posts are told apart. The enumeration does not come
back to the author. -/
theorem author_leaves_distinct :
    (authors.leafPaths author).map Path.text = ["name", "posts.title", "home"] ∧
      authors.Enumerates ["Author"] [] author.fields (authors.leafPaths author) ∧
      (authors.leafPaths author).Nodup ∧
      ∀ path ∈ authors.leafPaths author, ∀ above ∈ authors.leafPaths author,
        path.isUnder above = true → path = above := by
  have enumerated := authors.leafPaths_enumerate author
  have distinct : authors.EveryEntity author fun other => (other.fields.map Field.name).Nodup := by
    refine ⟨by decide, fun other member => ?_⟩
    rcases List.mem_pair.mp (show other ∈ [author, post] from member) with rfl | rfl <;> decide
  exact ⟨leafPaths_author, (enumerated.1 _).mpr rfl, enumerated.2.2 distinct⟩

end Sample

end RecordQuery
