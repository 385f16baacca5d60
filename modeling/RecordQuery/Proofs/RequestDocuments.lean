import RecordQuery.Proofs.FoldedKeys
import RecordQuery.Proofs.Nodes
import RecordQuery.Request.Document

/-!
# Requests read back

A request that is written as a document is read back as the same request, whatever its condition
tree looks like. Null entries, empty lists and absent parts stay apart: a record lists its parts
with those that are absent, and reading it finds each of them again. Only real numbers that are not
finite have no form in documents.
-/

namespace RecordQuery

open Json (present)

namespace Json

/-! ### Parts read back -/

/-- Items are read one by one. -/
theorem list?_folded {α : Type} {read : Json → Option α} {write : α → Json} {values : List α}
    (back : ∀ value ∈ values, read (write value).folded = some value) :
    list? read (list (values.map write)).folded = some values := by
  rw [folded, foldedItems_eq_map, List.map_map]
  exact list?_map back

/-- What is absent is read as absent, whether its entry is left out or null. -/
theorem nullable?_folded {α : Type} {read : Json → Option α} {write : α → Json} {part : Option α}
    (back : ∀ value, part = some value →
      (write value).folded ≠ .null ∧ read (write value).folded = some value) :
    nullable? read (orNull (part.map write)).folded = some part := by
  cases part with
  | none => simp [orNull, folded, nullable?]
  | some value =>
    obtain ⟨present, found⟩ := back value rfl
    simp only [Option.map_some, orNull]
    cases written : (write value).folded with
    | null => exact absurd written present
    | _ => simp [nullable?, ← written, found]

theorem optional_folded {α : Type} {read : Json → Option α} {write : α → Json} {part : Option α}
    (back : ∀ value, part = some value →
      (write value).folded ≠ .null ∧ read (write value).folded = some value) :
    optional read (part.map (folded ∘ write)) = some part := by
  have nullable := nullable?_folded back
  cases part with
  | none => rfl
  | some value => exact nullable

theorem optional_string (part : Option String) :
    optional string? (part.map (folded ∘ string)) = some part := by
  apply optional_folded
  intro text _
  simp [folded, string?]

theorem listOrNone_folded {α : Type} {read : Json → Option α} (write : α → Json)
    {values : List α} (back : ∀ value ∈ values, read (write value).folded = some value) :
    listOrNone read (some (list (values.map write)).folded) = some values := by
  have items := list?_folded back
  rw [folded] at items ⊢
  simp [listOrNone, optional, withDefault, nullable?, items]

/-- A list that is left out when it is empty is empty when it is left out. -/
theorem listOrNone_unlessEmpty {α : Type} {read : Json → Option α} (write : α → Json)
    {values : List α} (back : ∀ value ∈ values, read (write value).folded = some value) :
    listOrNone read
      (Option.map folded (if values = [] then none else some (.list (values.map write)))) =
      some values := by
  split
  next empty =>
    rw [empty]
    rfl
  next => exact listOrNone_folded write back

/-- A member nests less deeply than the list of its group. -/
theorem depth_listed_lt {α : Type} (write : α → Json) {values : List (Option α)} {value : α}
    (listed : some value ∈ values) :
    (write value).folded.depth <
      (list (values.map fun value => orNull (value.map write))).folded.depth :=
  depth_item_lt (List.mem_map.mpr ⟨some value, listed, rfl⟩)

end Json

/-! ### Literals and parts of conditions -/

namespace Literal

/-- Documents have no form for infinities and for what is no number. -/
def isFinite : Literal → Bool
  | .real value => value.isFinite
  | _ => true

theorem keysApart_toJson (literal : Literal) : literal.toJson.KeysApart := by
  cases literal with
  | real value =>
    rw [toJson]
    split <;> exact .leaf trivial rfl
  | _ => exact .leaf trivial rfl

theorem ofJson?_folded {literal : Literal} (finite : literal.isFinite = true) :
    ofJson? literal.toJson.folded = some literal := by
  cases literal with
  | bool value => simp [toJson, Json.folded, ofJson?]
  | integer value => simp [toJson, Json.folded, ofJson?, Width.int64?_toInt]
  | real value =>
    have written : toJson (.real value) = .real value := if_pos finite
    simp [written, Json.folded, ofJson?]
  | string value => simp [toJson, Json.folded, ofJson?]

theorem toJson_ne_null {literal : Literal} (finite : literal.isFinite = true) :
    literal.toJson.folded ≠ .null := by
  intro null
  have found := ofJson?_folded finite
  rw [null] at found
  cases found

end Literal

/-- A group as a document. -/
def GroupOf.toJson (group : Group) : Json :=
  .object (present
    [("logicalOperator", group.operator.map .string),
     ("conditions", some (.list (Condition.membersToJson group.members)))])

namespace Condition

/-- The parts of a condition in their declared order. -/
def parts (condition : Condition) : List (String × Option Json) :=
  [("field", condition.field.map .string),
   ("comparisonOperator", condition.operator.map .string),
   ("value", condition.value.map Literal.toJson),
   ("values",
     if condition.values.isEmpty then none else some (.list (condition.values.map Literal.toJson))),
   ("groupedConditions", condition.groups.map fun groups => .list (groupsToJson groups))]

theorem toJson_eq (condition : Condition) :
    condition.toJson = .object (present condition.parts) := by
  obtain ⟨field, operator, value, values, groups⟩ := condition
  cases field <;> cases operator <;> cases value <;> cases values <;> cases groups <;>
    simp [toJson, present, parts, Json.entry?]

theorem membersToJson_eq (members : List (Option Condition)) :
    membersToJson members = members.map fun member => Json.orNull (member.map toJson) := by
  induction members with
  | nil => simp [membersToJson]
  | cons member rest ih => cases member <;> simp [membersToJson, Json.orNull, ih]

theorem groupsToJson_eq (groups : List (Option Group)) :
    groupsToJson groups = groups.map fun group => Json.orNull (group.map GroupOf.toJson) := by
  induction groups with
  | nil => simp [groupsToJson]
  | cons group rest ih =>
    rcases group with _ | ⟨operator, members⟩
    · simp [groupsToJson, Json.orNull, ih]
    · cases operator <;> simp [groupsToJson, Json.orNull, GroupOf.toJson, present, Json.entry?, ih]

theorem small_keys :
    ["field", "comparisonOperator", "value", "values", "groupedConditions"].map Text.lowercase =
      keys := by
  decide +kernel

theorem small_groupKeys : ["logicalOperator", "conditions"].map Text.lowercase = groupKeys := by
  decide +kernel

theorem nodup_keys : keys.Nodup := by decide

theorem nodup_groupKeys : groupKeys.Nodup := by decide

/-- Every literal of the tree has a form in documents. -/
inductive Finite : Condition → Prop
  | node {condition : Condition}
    (value : ∀ literal, condition.value = some literal → literal.isFinite = true)
    (values : ∀ literal ∈ condition.values, literal.isFinite = true)
    (children : ∀ child, condition.HasChild child → child.Finite) : Finite condition

/-! ### Keys of written conditions -/

theorem keysApart_group {group : Group}
    (apart : ∀ member, some member ∈ group.members → member.toJson.KeysApart) :
    group.toJson.KeysApart := by
  refine Json.keysApart_present (small_groupKeys ▸ nodup_groupKeys) ?_
  intro part listed value written
  simp only [List.mem_cons, List.not_mem_nil, or_false] at listed
  rcases listed with rfl | rfl
  · exact .of_map written fun _ _ => .leaf trivial rfl
  · cases written
    rw [membersToJson_eq]
    refine .list_map trivial fun member listed => .orNull trivial ?_
    rintro condition rfl
    exact apart condition listed

/-- The keys of a written condition stay apart in small letters. -/
theorem keysApart_toJson (condition : Condition) : condition.toJson.KeysApart := by
  induction condition using of_children with
  | step condition children =>
    rw [toJson_eq]
    refine Json.keysApart_present (small_keys ▸ nodup_keys) ?_
    intro part listed value written
    simp only [parts, List.mem_cons, List.not_mem_nil, or_false] at listed
    rcases listed with rfl | rfl | rfl | rfl | rfl
    · exact .of_map written fun _ _ => .leaf trivial rfl
    · exact .of_map written fun _ _ => .leaf trivial rfl
    · exact .of_map written fun literal _ => literal.keysApart_toJson
    · split at written
      · cases written
      · cases written
        exact .list_map trivial fun literal _ => literal.keysApart_toJson
    · refine .of_map written fun groups held => ?_
      rw [groupsToJson_eq]
      refine .list_map trivial fun group listed => .orNull trivial ?_
      rintro group rfl
      apply keysApart_group
      intro member belongs
      exact children member ⟨groups, group, held, listed, belongs⟩

/-! ### Conditions read back -/

theorem toJson_folded_ne_null (condition : Condition) : condition.toJson.folded ≠ .null := by
  rw [toJson_eq, Json.folded]
  exact Json.noConfusion

theorem readGroup?_folded {group : Group} {depth : Nat}
    (deep : group.toJson.folded.depth ≤ depth)
    (back : ∀ member, some member ∈ group.members → ∀ depth,
      member.toJson.folded.depth ≤ depth → read? depth member.toJson.folded = some member) :
    readGroup? depth group.toJson.folded = some group := by
  obtain ⟨operator, members⟩ := group
  have part : ("conditions", some (Json.list (membersToJson members))) ∈
      [("logicalOperator", operator.map Json.string),
        ("conditions", some (.list (membersToJson members)))] := by simp
  have list_lt : (Json.list (membersToJson members)).folded.depth < depth :=
    Nat.lt_of_lt_of_le (Json.depth_part_lt (small_groupKeys ▸ nodup_groupKeys) part) deep
  obtain ⟨depth, rfl⟩ := Nat.exists_eq_add_one_of_ne_zero (Nat.ne_zero_of_lt list_lt)
  -- One level is spent on the group; the members stand below the level of their list.
  have items : Json.listOrNone (Json.nullable? (read? depth))
      (some (Json.list (membersToJson members)).folded) = some members := by
    rw [membersToJson_eq] at list_lt ⊢
    apply Json.listOrNone_folded _
    intro member listed
    apply Json.nullable?_folded
    rintro condition rfl
    have shallow := Json.depth_listed_lt toJson listed
    exact ⟨condition.toJson_folded_ne_null, back condition listed depth (by omega)⟩
  have fields := Json.fields?_folded
    [("logicalOperator", operator.map Json.string),
      ("conditions", some (.list (membersToJson members)))] small_groupKeys nodup_groupKeys
  rw [readGroup?, GroupOf.toJson, fields]
  simp [Json.optional_string, items]

/-- A condition with finite literals is read back. -/
theorem read?_folded {condition : Condition} (finite : condition.Finite) {depth : Nat}
    (deep : condition.toJson.folded.depth ≤ depth) :
    read? depth condition.toJson.folded = some condition := by
  induction finite generalizing depth with
  | @node condition value values children ih =>
    have fields := Json.fields?_folded condition.parts small_keys nodup_keys
    rw [toJson_eq] at deep ⊢
    obtain ⟨field, operator, comparand, set, groups⟩ := condition
    have positive : 0 < depth := by
      rw [Json.folded, Json.depth] at deep
      omega
    obtain ⟨depth, rfl⟩ := Nat.exists_eq_add_one_of_ne_zero (Nat.ne_zero_of_lt positive)
    -- Each part is read for itself: the comparand, the set, and the groups.
    have comparand_read : Json.optional Literal.ofJson?
        (comparand.map (Json.folded ∘ Literal.toJson)) = some comparand := by
      apply Json.optional_folded
      intro literal held
      have finite := value literal held
      exact ⟨literal.toJson_ne_null finite, Literal.ofJson?_folded finite⟩
    have set_read := Json.listOrNone_unlessEmpty Literal.toJson fun literal listed =>
      Literal.ofJson?_folded (values literal listed)
    have groups_read : Json.optional (Json.list? (Json.nullable? (readGroup? depth)))
        (groups.map (Json.folded ∘ fun groups => .list (groupsToJson groups))) = some groups := by
      apply Json.optional_folded
      rintro held rfl
      refine ⟨by simp [Json.folded], ?_⟩
      -- The groups stand inside the condition and inside their list.
      have part : ("groupedConditions", some (Json.list (groupsToJson held))) ∈
          parts ⟨field, operator, comparand, set, some held⟩ := by simp [parts]
      have list_lt := Json.depth_part_lt (small_keys ▸ nodup_keys) part
      rw [groupsToJson_eq] at list_lt ⊢
      apply Json.list?_folded
      intro group listed
      apply Json.nullable?_folded
      rintro group rfl
      have shallow := Json.depth_listed_lt GroupOf.toJson listed
      refine ⟨by simp [GroupOf.toJson, Json.folded], readGroup?_folded (by omega) ?_⟩
      intro member belongs inner inside
      exact ih member ⟨held, group, rfl, listed, belongs⟩ inside
    rw [read?, fields]
    simp [parts, Json.optional_string, comparand_read, set_read, groups_read]

end Condition

/-! ### Queries read back -/

namespace OrderKey

def parts (key : OrderKey) : List (String × Option Json) :=
  [("field", some (Json.orNull (key.field.map .string))),
   ("isDescending", key.descending.map .bool)]

theorem toJson_eq (key : OrderKey) : key.toJson = .object (present key.parts) := by
  obtain ⟨field, descending⟩ := key
  cases descending <;> simp [toJson, parts, present, Json.entry?]

theorem small_keys : ["field", "isDescending"].map Text.lowercase = keys := by decide +kernel

theorem nodup_keys : keys.Nodup := by decide

theorem keysApart_toJson (key : OrderKey) : key.toJson.KeysApart := by
  rw [toJson_eq]
  refine Json.keysApart_present (small_keys ▸ nodup_keys) ?_
  intro part listed value written
  simp only [parts, List.mem_cons, List.not_mem_nil, or_false] at listed
  rcases listed with rfl | rfl
  · cases written
    exact .orNull trivial fun _ _ => .leaf trivial rfl
  · exact .of_map written fun _ _ => .leaf trivial rfl

theorem ofSmallKeys?_folded (key : OrderKey) : ofSmallKeys? key.toJson.folded = some key := by
  have fields := Json.fields?_folded key.parts small_keys nodup_keys
  obtain ⟨field, descending⟩ := key
  have field_read : Json.optional Json.string?
      (some (Json.orNull (field.map .string)).folded) = some field := by
    apply Json.nullable?_folded
    intro text _
    simp [Json.folded, Json.string?]
  have descending_read : Json.optional Json.bool?
      (descending.map (Json.folded ∘ Json.bool)) = some descending := by
    apply Json.optional_folded
    intro flag _
    simp [Json.folded, Json.bool?]
  rw [ofSmallKeys?, toJson_eq, fields]
  simp [parts, field_read, descending_read]

end OrderKey

namespace Query

def parts (query : Query) : List (String × Option Json) :=
  [("includes", some (Json.texts query.includes)), ("excludes", some (Json.texts query.excludes)),
   ("where", query.condition.map Condition.toJson),
   ("orderBy", some (.list (query.order.map OrderKey.toJson))),
   ("limit", query.limit.map fun n => .integer n.toInt),
   ("skip", query.skip.map fun n => .integer n.toInt)]

theorem toJson_eq (query : Query) : query.toJson = .object (present query.parts) := by
  obtain ⟨includes, excludes, condition, order, limit, skip⟩ := query
  cases condition <;> cases limit <;> cases skip <;> simp [toJson, parts, present, Json.entry?]

theorem small_keys :
    ["includes", "excludes", "where", "orderBy", "limit", "skip"].map Text.lowercase = keys := by
  decide +kernel

theorem nodup_keys : keys.Nodup := by decide

/-- Every literal of the query has a form in documents. -/
def Finite (query : Query) : Prop :=
  ∀ condition, query.condition = some condition → condition.Finite

theorem keysApart_toJson (query : Query) : query.toJson.KeysApart := by
  rw [toJson_eq]
  refine Json.keysApart_present (small_keys ▸ nodup_keys) ?_
  intro part listed value written
  simp only [parts, List.mem_cons, List.not_mem_nil, or_false] at listed
  rcases listed with rfl | rfl | rfl | rfl | rfl | rfl
  · cases written
    exact .list_map trivial fun _ _ => .leaf trivial rfl
  · cases written
    exact .list_map trivial fun _ _ => .leaf trivial rfl
  · exact .of_map written fun condition _ => condition.keysApart_toJson
  · cases written
    exact .list_map trivial fun key _ => key.keysApart_toJson
  · exact .of_map written fun _ _ => .leaf trivial rfl
  · exact .of_map written fun _ _ => .leaf trivial rfl

theorem ofSmallKeys?_folded {query : Query} (finite : query.Finite) :
    ofSmallKeys? query.toJson.folded = some query := by
  have fields := Json.fields?_folded query.parts small_keys nodup_keys
  obtain ⟨includes, excludes, condition, order, limit, skip⟩ := query
  have texts (values : List String) :
      Json.listOrNone Json.string? (some (Json.texts values).folded) = some values := by
    apply Json.listOrNone_folded _
    intro text _
    simp [Json.folded, Json.string?]
  have bound (limit : Option Int64) : Json.optional Json.int64?
      (limit.map (Json.folded ∘ fun n => Json.integer n.toInt)) = some limit := by
    apply Json.optional_folded
    intro n _
    simp [Json.folded, Json.int64?, Width.int64?_toInt]
  have condition_read : Json.optional Condition.ofSmallKeys?
      (condition.map (Json.folded ∘ Condition.toJson)) = some condition := by
    apply Json.optional_folded
    intro held here
    exact ⟨held.toJson_folded_ne_null, Condition.read?_folded (finite held here) (Nat.le_refl _)⟩
  have order_read := Json.listOrNone_folded OrderKey.toJson
    fun key (_ : key ∈ order) => key.ofSmallKeys?_folded
  rw [ofSmallKeys?, toJson_eq, fields]
  simp [parts, texts, bound, condition_read, order_read]

end Query

/-! ### Main result -/

/-- Documents whose keys stay apart are read alike before and after their entries are settled. -/
theorem readFolded_eq {α : Type} {read : Json → Option α} {document : Json} {value : α}
    (apart : document.KeysApart) (back : read document.folded = some value) :
    readFolded read document = .ok value ∧ readFolded read document.settle = .ok value := by
  have settled : document.settle.foldKeys = .ok document.folded := by
    rw [Json.foldKeys_eq (Json.keysApart_settle apart), Json.folded_settle apart]
  unfold readFolded
  rw [Json.foldKeys_eq apart, settled]
  simp [back]

/-- A request with finite literals is read back from its document, whether the entries stand in
their declared order or in that of their keys. -/
theorem requests_read_back :
    (∀ query : Query, query.Finite →
      Query.ofJson query.toJson = .ok query ∧ Query.ofJson query.toJson.settle = .ok query) ∧
    ∀ condition : Condition, condition.Finite →
      Condition.ofJson condition.toJson = .ok condition ∧
        Condition.ofJson condition.toJson.settle = .ok condition := by
  constructor
  · intro query finite
    exact readFolded_eq query.keysApart_toJson (Query.ofSmallKeys?_folded finite)
  · intro condition finite
    exact readFolded_eq condition.keysApart_toJson (Condition.read?_folded finite (Nat.le_refl _))

/-! ### A request that no check accepts -/

namespace Sample

/-- A comparison with a set beside a group that holds null. -/
def scattered : Condition where
  field := some "id"
  values := [.integer 3, .real (Binary.ofInt .double 3)]
  groups := some
    [none, some ⟨none, [none, some (.compared "name" "EQ" (.bool true))]⟩, some ⟨none, []⟩]

/-- A request for a page of unlikely size, in an order by nothing. -/
def scatteredQuery : Query where
  includes := ["id"]
  condition := some scattered
  order := [⟨none, some false⟩]
  limit := some (-1)

theorem scattered_finite : scattered.Finite := by
  refine .node (fun literal held => by cases held) (by decide) ?_
  intro child below
  obtain ⟨group, listed, member⟩ := Condition.hasChild_groups.mp below
  have only : child = .compared "name" "EQ" (.bool true) := by
    simp only [List.mem_cons, List.not_mem_nil, or_false, reduceCtorEq, false_or,
      Option.some.injEq] at listed
    rcases listed with rfl | rfl
    · simpa using member
    · cases member
  subst only
  refine .node ?_ (by decide) ?_
  · rintro literal held
    cases held
    rfl
  · rintro inner ⟨_, _, held, _⟩
    cases held

theorem scattered_read_back :
    Query.ofJson scatteredQuery.toJson.settle = .ok scatteredQuery ∧
      Condition.ofJson scattered.toJson.settle = .ok scattered := by
  have finite : scatteredQuery.Finite := by
    intro condition held
    cases held
    exact scattered_finite
  exact ⟨(requests_read_back.1 scatteredQuery finite).2,
    (requests_read_back.2 scattered scattered_finite).2⟩

end Sample

end RecordQuery
