import RecordQuery.Proofs.Permission

/-!
# What is required of a query

The check of a query goes through its parts one after the other and stops at the first violation. It
passes exactly the queries that meet a list of requirements, in which the order of the parts has no
role. One of them is left open: whose policy a comparison has to obey. The check asks the field that
the declared names of the reference lead to, and where an entity declares two fields of one name,
this may be another field than the one that the reference selects.
-/

namespace RecordQuery

namespace Validator

variable (validator : Validator) (entity : Entity)

/-! ### Policies -/

/-- Does the field that was selected refuse the comparison? -/
def ownPolicy (fields : Chain Field) (comparison : Comparison) : Bool :=
  fields.last.disallows comparison

/-- Does the field that the declared names of the selected fields lead to refuse the comparison? -/
def namedPolicy (fields : Chain Field) (comparison : Comparison) : Bool :=
  refusesAt validator.schema comparison entity (Path.names (fields.map Field.segment))

/-- Of the fields that references select, both policies refuse the same enabled comparisons. -/
def PoliciesAgree (refuses refuses' : Chain Field → Comparison → Bool) : Prop :=
  ∀ reference fields, validator.resolver.fields entity reference = .ok (some fields) →
    ∀ comparison, validator.settings.disables comparison = false →
      refuses fields comparison = refuses' fields comparison

/-- Where names are distinct, the field whose policy is asked is the one that was selected. -/
theorem policiesAgree_of_distinctNames (distinct : validator.schema.DistinctNames)
    (member : entity ∈ validator.schema.entities.values) :
    validator.PoliciesAgree entity (validator.namedPolicy entity) ownPolicy :=
  fun _ _ selected comparison _ =>
    validator.resolver.refusesAt_of_fields distinct member selected comparison

/-! ### The requirements -/

variable (refuses : Chain Field → Comparison → Bool)

/-- The reference selects the fields, and the operator is the comparison. Neither the settings nor
the policy refuse it, and a text to look for holds letters and digits only. -/
structure AllowsComparison (field : String) (operator : Option String) (value : Option Literal)
    (fields : Chain Field) (comparison : Comparison) : Prop where
  selected : validator.resolver.fields entity field = .ok (some fields)
  known : operator.bind Comparison.ofSpelling? = some comparison
  enabled : validator.settings.disables comparison = false
  allowed : refuses fields comparison = false
  plain : comparison.isPattern = true → ∀ literal, value = some literal →
    Text.lettersAndDigits literal.text.toList = true

/-- A node is a comparison that is allowed, or has groups that are well formed and no operator of
its own. What stands in the groups is no part of this. -/
structure AllowsNode (node : Condition) : Prop where
  one_kind : node.field = none ↔ node.groups ≠ none
  comparison : ∀ field, node.field = some field → ∃ fields comparison,
    validator.AllowsComparison entity refuses field node.operator node.value fields comparison
  no_operator : node.groups ≠ none → node.operator = none
  some_group : node.groups ≠ some []
  no_null : ∀ groups, node.groups = some groups → none ∉ groups
  well_formed : ∀ groups, node.groups = some groups →
    ∀ group, some group ∈ groups → group.WellFormed

/-- What is required of a query for records of the entity under the policy. -/
structure Meets (query : Query) : Prop where
  one_list : query.includes = [] ∨ query.excludes = []
  projected : ∀ field ∈ query.includes ++ query.excludes,
    ∃ path, validator.resolver.resolve entity field = .ok (some path)
  shallow : ∀ condition, query.condition = some condition →
    ∀ place node, condition.NodeAt 1 place node →
      ∀ limit, validator.settings.maxDepth = some limit → place ≤ limit
  nodes : ∀ condition, query.condition = some condition →
    ∀ place node, condition.NodeAt 1 place node → validator.AllowsNode entity refuses node
  ordered : ∀ key ∈ query.order, ∃ field, key.field = some field ∧
    ∃ path, validator.resolver.resolve entity field = .ok (some path)
  limit : ∀ n, query.limit = some n → 0 ≤ n.toInt
  skip : ∀ n, query.skip = some n → 0 ≤ n.toInt

/-! ### Single nodes -/

theorem checkComparison_eq_ok_iff_allows {field : String} {operator : Option String}
    {value : Option Literal} :
    validator.checkComparison entity field operator value = .ok () ↔
      ∃ fields comparison,
        validator.AllowsComparison entity (validator.namedPolicy entity) field operator value fields
          comparison := by
  rw [checkComparison_eq_ok]
  constructor
  · rintro ⟨path, comparison, resolved, known, ⟨enabled, allowed⟩, plain⟩
    obtain ⟨fields, selected, rfl⟩ := validator.resolver.resolve_eq_some.mp resolved
    exact ⟨fields, comparison, selected, known, enabled, allowed, plain⟩
  · rintro ⟨fields, comparison, allows⟩
    have resolved := validator.resolver.resolve_eq_some.mpr ⟨fields, allows.selected, rfl⟩
    exact ⟨_, comparison, resolved, allows.known, ⟨allows.enabled, allows.allowed⟩, allows.plain⟩

theorem allowsNode_field_iff {field : String} {operator : Option String} {value : Option Literal}
    {values : List Literal} :
    validator.AllowsNode entity refuses ⟨some field, operator, value, values, none⟩ ↔
      ∃ fields comparison,
        validator.AllowsComparison entity refuses field operator value fields comparison := by
  constructor
  · intro allows
    exact allows.comparison field rfl
  · intro allowed
    constructor
    · simp
    · rintro _ ⟨⟩
      exact allowed
    · simp
    · simp
    · rintro _ ⟨⟩
    · rintro _ ⟨⟩

theorem allowsNode_groups_iff {operator : Option String} {value : Option Literal}
    {values : List Literal} {groups : List (Option Group)} :
    validator.AllowsNode entity refuses ⟨none, operator, value, values, some groups⟩ ↔
      operator = none ∧ groups ≠ [] ∧ none ∉ groups ∧
        ∀ group, some group ∈ groups → group.WellFormed := by
  constructor
  · intro allows
    have filled : groups ≠ [] := fun empty => allows.some_group (congrArg some empty)
    exact ⟨allows.no_operator (by simp), filled, allows.no_null groups rfl,
      allows.well_formed groups rfl⟩
  · rintro ⟨absent, filled, whole, form⟩
    constructor
    · simp
    · rintro _ ⟨⟩
    · exact fun _ => absent
    · simpa using filled
    · rintro _ ⟨⟩
      exact whole
    · rintro _ ⟨⟩
      exact form

/-- The check of a condition is that of its root and, one level deeper, of its children. -/
theorem checkCondition_eq_ok {depth : Nat} {condition : Condition} :
    validator.checkCondition entity depth condition = .ok () ↔
      validator.checkDepth depth = .ok () ∧
        validator.AllowsNode entity (validator.namedPolicy entity) condition ∧
        ∀ child, condition.HasChild child →
          validator.checkCondition entity (depth + 1) child = .ok () := by
  obtain ⟨field, operator, value, values, groups⟩ := condition
  cases field with
  | none =>
    cases groups with
    | none =>
      constructor
      · intro passed
        simp [checkCondition] at passed
      · rintro ⟨_, allows, _⟩
        exact absurd rfl (allows.one_kind.mp rfl)
    | some groups =>
      rw [checkCondition_groups_eq_ok, checkGroups_eq_ok, allowsNode_groups_iff]
      constructor
      · rintro ⟨shallow, absent, filled, whole, passed⟩
        have form (group : Group) (listed : some group ∈ groups) : group.WellFormed :=
          (passed group listed).1
        refine ⟨shallow, ⟨absent, filled, whole, form⟩, fun child below => ?_⟩
        obtain ⟨group, listed, member⟩ := Condition.hasChild_groups.mp below
        exact (passed group listed).2 child member
      · rintro ⟨shallow, ⟨absent, filled, whole, form⟩, children⟩
        refine ⟨shallow, absent, filled, whole, fun group listed => ?_⟩
        refine ⟨form group listed, fun child member => ?_⟩
        exact children child (Condition.hasChild_groups.mpr ⟨group, listed, member⟩)
  | some field =>
    cases groups with
    | none =>
      have no_child (child : Condition) :
          ¬ Condition.HasChild ⟨some field, operator, value, values, none⟩ child :=
        Condition.not_hasChild_of_ungrouped rfl child
      rw [checkCondition_field_eq_ok, checkComparison_eq_ok_iff_allows, allowsNode_field_iff]
      constructor
      · rintro ⟨shallow, allowed⟩
        exact ⟨shallow, allowed, fun child below => absurd below (no_child child)⟩
      · rintro ⟨shallow, allowed, _⟩
        exact ⟨shallow, allowed⟩
    | some groups =>
      constructor
      · intro passed
        simp [checkCondition] at passed
      · rintro ⟨_, allows, _⟩
        cases allows.one_kind.mpr (by simp)

/-! ### Whole queries -/

/-- A condition is accepted exactly when each of its nodes is allowed and not too deep. -/
theorem checkCondition_eq_ok_iff_nodes (condition : Condition) (depth : Nat) :
    validator.checkCondition entity depth condition = .ok () ↔
      ∀ place node, condition.NodeAt depth place node →
        (∀ limit, validator.settings.maxDepth = some limit → place ≤ limit) ∧
          validator.AllowsNode entity (validator.namedPolicy entity) node := by
  -- The depth changes from a condition to its children, so it is general in the induction.
  induction condition using Condition.of_children generalizing depth with
  | step condition ih =>
    rw [checkCondition_eq_ok, checkDepth_eq_ok]
    constructor
    · rintro ⟨shallow, allows, children⟩ place node located
      cases located with
      | root => exact ⟨shallow, allows⟩
      | inner below further => exact (ih _ below (depth + 1)).mp (children _ below) _ _ further
    · intro every
      obtain ⟨shallow, allows⟩ := every depth condition .root
      refine ⟨shallow, allows, fun child below => (ih child below (depth + 1)).mpr ?_⟩
      exact fun place node further => every place node (.inner below further)

theorem checkQuery_eq_ok_iff_meets {query : Query} :
    validator.checkQuery entity query = .ok () ↔
      validator.Meets entity (validator.namedPolicy entity) query := by
  have conditional (condition : Option Condition) :
      validator.checkOptional entity condition = .ok () ↔
        ∀ given, condition = some given → validator.checkCondition entity 1 given = .ok () := by
    cases condition <;> simp [checkOptional]
  rw [checkQuery_eq_ok]
  constructor
  · rintro ⟨one_list, accepted⟩
    have included := each_eq_ok.mp accepted.includes
    have excluded := each_eq_ok.mp accepted.excludes
    have ordered := each_eq_ok.mp accepted.order
    have nodes {condition : Condition} (given : query.condition = some condition) :=
      (validator.checkCondition_eq_ok_iff_nodes entity condition 1).mp
        ((conditional _).mp accepted.condition condition given)
    constructor
    · exact one_list
    · intro field listed
      rcases List.mem_append.mp listed with included_here | excluded_here
      · exact (validator.checkField_eq_ok entity).mp (included field included_here)
      · exact (validator.checkField_eq_ok entity).mp (excluded field excluded_here)
    · exact fun condition given place node located => (nodes given place node located).1
    · exact fun condition given place node located => (nodes given place node located).2
    · exact fun key listed => (validator.checkOrderKey_eq_ok entity).mp (ordered key listed)
    · exact checkBound_eq_ok.mp accepted.limit
    · exact checkBound_eq_ok.mp accepted.skip
  · intro meets
    refine ⟨meets.one_list, ?_⟩
    constructor
    · refine each_eq_ok.mpr fun field listed => (validator.checkField_eq_ok entity).mpr ?_
      exact meets.projected field (List.mem_append_left _ listed)
    · refine each_eq_ok.mpr fun field listed => (validator.checkField_eq_ok entity).mpr ?_
      exact meets.projected field (List.mem_append_right _ listed)
    · refine (conditional _).mpr fun condition given => ?_
      refine (validator.checkCondition_eq_ok_iff_nodes entity condition 1).mpr ?_
      exact fun place node located =>
        ⟨meets.shallow condition given place node located,
          meets.nodes condition given place node located⟩
    · exact each_eq_ok.mpr fun key listed =>
        (validator.checkOrderKey_eq_ok entity).mpr (meets.ordered key listed)
    · exact checkBound_eq_ok.mpr meets.limit
    · exact checkBound_eq_ok.mpr meets.skip

/-! ### Under another policy -/

variable {validator entity refuses} {refuses' : Chain Field → Comparison → Bool}

theorem PoliciesAgree.symm (agree : validator.PoliciesAgree entity refuses refuses') :
    validator.PoliciesAgree entity refuses' refuses :=
  fun reference fields selected comparison enabled =>
    (agree reference fields selected comparison enabled).symm

theorem AllowsNode.of_agree {node : Condition}
    (agree : validator.PoliciesAgree entity refuses refuses')
    (allows : validator.AllowsNode entity refuses node) :
    validator.AllowsNode entity refuses' node := by
  refine { allows with comparison := fun field named => ?_ }
  obtain ⟨fields, comparison, allows⟩ := allows.comparison field named
  have same := agree field fields allows.selected comparison allows.enabled
  exact ⟨fields, comparison, { allows with allowed := same ▸ allows.allowed }⟩

/-- Policies that agree make no difference, nor does any policy where no condition is shallow
enough. -/
theorem Meets.of_agree {query : Query}
    (agree : validator.settings.maxDepth = some 0 ∨
      validator.PoliciesAgree entity refuses refuses')
    (meets : validator.Meets entity refuses query) : validator.Meets entity refuses' query := by
  refine { meets with nodes := fun condition given place node located => ?_ }
  rcases agree with flat | agree
  · have shallow : 1 ≤ 0 := meets.shallow condition given 1 condition .root 0 flat
    omega
  · exact (meets.nodes condition given place node located).of_agree agree

/-- A query with a single comparison and no value is refused by its policy or not at all. -/
theorem meets_valueless {reference : String} {fields : Chain Field} {comparison : Comparison}
    (deep : validator.settings.maxDepth ≠ some 0)
    (selected : validator.resolver.fields entity reference = .ok (some fields))
    (enabled : validator.settings.disables comparison = false) :
    validator.Meets entity refuses
        { condition := some (.valueless reference comparison.name) } ↔
      refuses fields comparison = false := by
  constructor
  · intro meets
    obtain ⟨fields', comparison', allows⟩ := (meets.nodes _ rfl _ _ .root).comparison reference rfl
    cases selected.symm.trans allows.selected
    cases (Comparison.ofSpelling?_name comparison).symm.trans allows.known
    exact allows.allowed
  · intro allowed
    constructor
    · exact .inl rfl
    · simp
    · rintro _ ⟨⟩ place node located limit limited
      obtain ⟨rfl, rfl⟩ := located.eq_root_of_ungrouped rfl
      have positive : limit ≠ 0 := fun flat => deep (flat ▸ limited)
      omega
    · rintro _ ⟨⟩ place node located
      obtain ⟨rfl, rfl⟩ := located.eq_root_of_ungrouped rfl
      refine (validator.allowsNode_field_iff entity refuses).mpr ⟨fields, comparison, ?_⟩
      exact ⟨selected, Comparison.ofSpelling?_name comparison, enabled, allowed, by simp⟩
    · simp
    · simp
    · simp

/-- Two policies admit the same queries exactly when they agree, or when no condition is shallow
enough. -/
theorem meets_alike_iff :
    (∀ query, validator.Meets entity refuses query ↔ validator.Meets entity refuses' query) ↔
      validator.settings.maxDepth = some 0 ∨
        validator.PoliciesAgree entity refuses refuses' := by
  constructor
  · intro alike
    by_cases flat : validator.settings.maxDepth = some 0
    · exact .inl flat
    · -- The query with this comparison alone tells apart policies that differ on it.
      refine .inr fun reference fields selected comparison enabled => ?_
      have single := alike { condition := some (.valueless reference comparison.name) }
      rw [meets_valueless flat selected enabled, meets_valueless flat selected enabled] at single
      exact Bool.eq_iff_iff.mpr (by simpa using not_congr single)
  · intro agree query
    exact ⟨.of_agree agree, .of_agree (agree.imp_right .symm)⟩

end Validator

/-! ### Rearranged queries -/

namespace Condition

/-- The same condition with groups, or members of groups, in another order, at any depth. -/
inductive Rearranged : Condition → Condition → Prop
  | refl (condition : Condition) : Rearranged condition condition
  | groups {field operator : Option String} {value : Option Literal} {values : List Literal}
    {groups groups' : List (Option Group)} (reordered : groups.Perm groups') :
    Rearranged ⟨field, operator, value, values, some groups⟩
      ⟨field, operator, value, values, some groups'⟩
  | members {field operator : Option String} {value : Option Literal} {values : List Literal}
    {before after : List (Option Group)} {joint : Option String}
    {members members' : List (Option Condition)} (reordered : members.Perm members') :
    Rearranged
      ⟨field, operator, value, values, some (before ++ some ⟨joint, members⟩ :: after)⟩
      ⟨field, operator, value, values, some (before ++ some ⟨joint, members'⟩ :: after)⟩
  | child {field operator : Option String} {value : Option Literal} {values : List Literal}
    {before after : List (Option Group)} {joint : Option String}
    {left right : List (Option Condition)} {child child' : Condition}
    (inside : Rearranged child child') :
    Rearranged
      ⟨field, operator, value, values,
        some (before ++ some ⟨joint, left ++ some child :: right⟩ :: after)⟩
      ⟨field, operator, value, values,
        some (before ++ some ⟨joint, left ++ some child' :: right⟩ :: after)⟩
  | trans {condition middle condition' : Condition} (first : Rearranged condition middle)
    (second : Rearranged middle condition') : Rearranged condition condition'

end Condition

/-- The same query with its parts in another order. -/
structure Query.Rearranged (query query' : Query) : Prop where
  includes : query.includes.Perm query'.includes
  excludes : query.excludes.Perm query'.excludes
  condition : Option.Rel Condition.Rearranged query.condition query'.condition
  order : query.order.Perm query'.order
  limit : query.limit = query'.limit
  skip : query.skip = query'.skip

namespace Validator

variable (validator : Validator) (entity : Entity)

theorem each_eq_ok_of_perm {α : Type} {check : α → Except Violation Unit} {values values' : List α}
    (reordered : values.Perm values') :
    each check values = .ok () ↔ each check values' = .ok () := by
  rw [each_eq_ok, each_eq_ok]
  exact forall_congr' fun value => by rw [reordered.mem_iff]

theorem empty_iff_of_perm {α : Type} {values values' : List α} (reordered : values.Perm values') :
    values = [] ↔ values' = [] := by
  rw [← List.isEmpty_iff, ← List.isEmpty_iff, reordered.isEmpty_eq]

/-- Groups that pass alike make the conditions that they are the groups of pass alike. -/
theorem checkCondition_congr_groups {field operator : Option String} {value : Option Literal}
    {values : List Literal} {groups groups' : List (Option Group)} {depth : Nat}
    (filled : groups = [] ↔ groups' = [])
    (alike : validator.checkGroups entity (depth + 1) groups = .ok () ↔
      validator.checkGroups entity (depth + 1) groups' = .ok ()) :
    validator.checkCondition entity depth ⟨field, operator, value, values, some groups⟩ = .ok () ↔
      validator.checkCondition entity depth ⟨field, operator, value, values, some groups'⟩ =
        .ok () := by
  cases field with
  | none =>
    rw [checkCondition_groups_eq_ok, checkCondition_groups_eq_ok, alike, ne_eq, ne_eq, filled]
  | some field =>
    -- A condition with a field and with groups is never accepted.
    simp [checkCondition]

/-- One group may be put in the place of another that passes alike. -/
theorem checkGroups_replace {depth : Nat} {before after : List (Option Group)}
    {group group' : Group}
    (alike : validator.PassesGroup entity depth group ↔
      validator.PassesGroup entity depth group') :
    validator.checkGroups entity depth (before ++ some group :: after) = .ok () ↔
      validator.checkGroups entity depth (before ++ some group' :: after) = .ok () := by
  simp only [checkGroups_eq_ok, List.mem_append, List.mem_cons, reduceCtorEq, false_or,
    Option.some.injEq]
  refine and_congr_right fun _ => ?_
  constructor
  · rintro passed other (there | rfl | there)
    · exact passed other (.inl there)
    · exact alike.mp (passed group (.inr (.inl rfl)))
    · exact passed other (.inr (.inr there))
  · rintro passed other (there | rfl | there)
    · exact passed other (.inl there)
    · exact alike.mpr (passed group' (.inr (.inl rfl)))
    · exact passed other (.inr (.inr there))

theorem passesGroup_of_perm {depth : Nat} {joint : Option String}
    {members members' : List (Option Condition)} (reordered : members.Perm members')
    (passes : validator.PassesGroup entity depth ⟨joint, members⟩) :
    validator.PassesGroup entity depth ⟨joint, members'⟩ := by
  obtain ⟨form, passed⟩ := passes
  refine ⟨⟨form.known, ?_, ?_⟩, ?_⟩
  · exact fun empty => form.filled ((empty_iff_of_perm reordered).mpr empty)
  · exact fun null => form.whole (reordered.mem_iff.mpr null)
  · exact fun member listed => passed member (reordered.mem_iff.mpr listed)

theorem passesGroup_replace {depth : Nat} {joint : Option String}
    {left right : List (Option Condition)} {child child' : Condition}
    (alike : validator.checkCondition entity depth child = .ok () →
      validator.checkCondition entity depth child' = .ok ())
    (passes : validator.PassesGroup entity depth ⟨joint, left ++ some child :: right⟩) :
    validator.PassesGroup entity depth ⟨joint, left ++ some child' :: right⟩ := by
  obtain ⟨form, passed⟩ := passes
  refine ⟨⟨form.known, by simp, ?_⟩, ?_⟩
  · have whole := form.whole
    simpa using whole
  · intro member listed
    simp only [List.mem_append, List.mem_cons, Option.some.injEq] at listed
    rcases listed with there | rfl | there
    · exact passed member (List.mem_append_left _ there)
    · exact alike (passed child (by simp))
    · exact passed member (List.mem_append_right _ (List.mem_cons_of_mem _ there))

/-- A rearranged condition is accepted when the condition is, at any depth. -/
theorem checkCondition_rearranged {condition condition' : Condition}
    (rearranged : condition.Rearranged condition') (depth : Nat) :
    validator.checkCondition entity depth condition = .ok () ↔
      validator.checkCondition entity depth condition' = .ok () := by
  induction rearranged generalizing depth with
  | refl => rfl
  | groups reordered =>
    refine validator.checkCondition_congr_groups entity (empty_iff_of_perm reordered) ?_
    rw [checkGroups_eq_ok, checkGroups_eq_ok, reordered.mem_iff]
    exact and_congr_right fun _ => forall_congr' fun group => by rw [reordered.mem_iff]
  | members reordered =>
    refine validator.checkCondition_congr_groups entity (by simp) ?_
    refine validator.checkGroups_replace entity ⟨?_, ?_⟩
    · exact validator.passesGroup_of_perm entity reordered
    · exact validator.passesGroup_of_perm entity reordered.symm
  | child _ ih =>
    refine validator.checkCondition_congr_groups entity (by simp) ?_
    refine validator.checkGroups_replace entity ⟨?_, ?_⟩
    · exact validator.passesGroup_replace entity (ih (depth + 1)).mp
    · exact validator.passesGroup_replace entity (ih (depth + 1)).mpr
  | trans _ _ ih ih' => exact (ih depth).trans (ih' depth)

theorem checkQuery_rearranged {query query' : Query} (rearranged : query.Rearranged query') :
    validator.checkQuery entity query = .ok () ↔
      validator.checkQuery entity query' = .ok () := by
  have conditional : validator.checkOptional entity query.condition = .ok () ↔
      validator.checkOptional entity query'.condition = .ok () := by
    have alike := rearranged.condition
    revert alike
    generalize query.condition = condition, query'.condition = condition'
    rintro (inside | _)
    · exact validator.checkCondition_rearranged entity inside 1
    · rfl
  have included : each (validator.checkField entity .includes) query.includes = .ok () ↔
      each (validator.checkField entity .includes) query'.includes = .ok () :=
    each_eq_ok_of_perm rearranged.includes
  have excluded : each (validator.checkField entity .excludes) query.excludes = .ok () ↔
      each (validator.checkField entity .excludes) query'.excludes = .ok () :=
    each_eq_ok_of_perm rearranged.excludes
  have ordered : each (validator.checkOrderKey entity) query.order = .ok () ↔
      each (validator.checkOrderKey entity) query'.order = .ok () :=
    each_eq_ok_of_perm rearranged.order
  have accepted : validator.Accepts entity query ↔ validator.Accepts entity query' := by
    constructor
    · intro accepted
      exact ⟨included.mp accepted.includes, excluded.mp accepted.excludes,
        conditional.mp accepted.condition, ordered.mp accepted.order,
        rearranged.limit ▸ accepted.limit, rearranged.skip ▸ accepted.skip⟩
    · intro accepted
      exact ⟨included.mpr accepted.includes, excluded.mpr accepted.excludes,
        conditional.mpr accepted.condition, ordered.mpr accepted.order,
        rearranged.limit ▸ accepted.limit, rearranged.skip ▸ accepted.skip⟩
  rw [checkQuery_eq_ok, checkQuery_eq_ok, accepted, empty_iff_of_perm rearranged.includes,
    empty_iff_of_perm rearranged.excludes]

/-- A query is acceptable exactly when its entity is known and it meets the requirements under the
policy that is asked. The policy of the selected field may stand in its place for all queries
exactly when the two agree, which they do where names are distinct. A rearranged query is as
acceptable. -/
theorem query_accepted_iff (name : String) :
    (∀ query, validator.validateQuery name query = .ok () ↔
      ∃ entity, validator.schema.entity? name = some entity ∧
        validator.Meets entity (validator.namedPolicy entity) query) ∧
    (∀ entity, validator.schema.entity? name = some entity →
      ((∀ query, validator.validateQuery name query = .ok () ↔
          validator.Meets entity ownPolicy query) ↔
        validator.settings.maxDepth = some 0 ∨
          validator.PoliciesAgree entity (validator.namedPolicy entity) ownPolicy)) ∧
    (validator.schema.DistinctNames → ∀ query,
      (validator.validateQuery name query = .ok () ↔
        ∃ entity, validator.schema.entity? name = some entity ∧
          validator.Meets entity ownPolicy query)) ∧
    (∀ query query', query.Rearranged query' →
      (validator.validateQuery name query = .ok () ↔
        validator.validateQuery name query' = .ok ())) := by
  have accepted_iff (query : Query) : validator.validateQuery name query = .ok () ↔
      ∃ entity, validator.schema.entity? name = some entity ∧
        validator.Meets entity (validator.namedPolicy entity) query := by
    rw [validateQuery_eq_ok]
    exact exists_congr fun entity => and_congr_right fun _ =>
      validator.checkQuery_eq_ok_iff_meets entity
  refine ⟨accepted_iff, fun entity known => ?_, fun distinct query => ?_,
    fun query query' rearranged => ?_⟩
  · -- The entity is known, so this compares two policies on all queries.
    rw [← meets_alike_iff]
    refine forall_congr' fun query => iff_congr ?_ Iff.rfl
    rw [accepted_iff]
    simp [known]
  · rw [accepted_iff]
    refine exists_congr fun entity => and_congr_right fun known => ?_
    have agree := validator.policiesAgree_of_distinctNames entity distinct
      (Schema.mem_of_entity? known)
    exact meets_alike_iff.mpr (.inr agree) query
  · rw [validateQuery_eq_ok, validateQuery_eq_ok]
    refine exists_congr fun entity => and_congr_right fun _ => ?_
    exact validator.checkQuery_rearranged entity rearranged

end Validator

/-! ### A query in two orders -/

namespace Sample

/-- Titles and authors of the posts about a topic. -/
def titles : Query where
  includes := ["title", "author.name"]
  condition := aboutTopic.condition
  order := [.ascendingBy "author.name", .descendingBy "heading"]
  limit := some 10

/-- The same with every list in its other order. -/
def titlesReordered : Query where
  includes := ["author.name", "title"]
  condition := some (.grouped [.all
    [.compared "author.friend.NAME" "startswith" (.string "Ada"),
     .compared "HEADING" "contains" (.string "Lean4")]])
  order := [.descendingBy "heading", .ascendingBy "author.name"]
  limit := some 10

theorem titles_rearranged : titles.Rearranged titlesReordered where
  includes := .swap ..
  excludes := .refl _
  condition := .some (@Condition.Rearranged.members _ _ _ _ [] [] _ _ _ (.swap ..))
  order := .swap ..
  limit := rfl
  skip := rfl

theorem titles_accepted_alike :
    (Validator.mk forum {}).validateQuery "post" titlesReordered = .ok () ∧
      ∃ entity, forum.entity? "post" = some entity ∧
        (Validator.mk forum {}).Meets entity Validator.ownPolicy titles ∧
        ∀ query, (Validator.mk forum {}).validateQuery "post" query = .ok () ↔
          (Validator.mk forum {}).Meets entity Validator.ownPolicy query := by
  have accepted : (Validator.mk forum {}).validateQuery "post" titles = .ok () := rfl
  obtain ⟨-, exactly_iff, distinct_iff, alike⟩ := (Validator.mk forum {}).query_accepted_iff "post"
  obtain ⟨entity, known, meets⟩ := (distinct_iff forum_distinct titles).mp accepted
  have agree := (Validator.mk forum {}).policiesAgree_of_distinctNames entity forum_distinct
    (Schema.mem_of_entity? known)
  exact ⟨(alike _ _ titles_rearranged).mp accepted, entity, known, meets,
    (exactly_iff entity known).mpr (.inr agree)⟩

/-! ### Two fields of one name -/

/-- Parcels declare two codes. The one with an alias refuses equality. -/
def parcels : Schema :=
  .ofEntities 1
    [{ name := "Parcel", identity := "Code",
       fields :=
         [{ name := "Code", type := .scalar .string },
          .denyComparisons [.equal]
            { name := "Code", aliasName := some "Barcode", type := .scalar .string }] }]

/-- The parcel with a barcode. -/
def byBarcode : Query where
  condition := some (.compared "Barcode" "EQ" (.string "x"))

/-- The query is accepted, although the field that its reference selects refuses the comparison: the
other code is asked in its place. -/
theorem byBarcode_accepted :
    (Validator.mk parcels {}).validateQuery "Parcel" byBarcode = .ok () ∧
      ∃ entity fields, parcels.entity? "Parcel" = some entity ∧
        (Validator.mk parcels {}).resolver.fields entity "Barcode" = .ok (some fields) ∧
        fields.last.disallows .equal = true ∧
        ¬ (Validator.mk parcels {}).Meets entity Validator.ownPolicy byBarcode := by
  refine ⟨rfl, _, _, rfl, rfl, rfl, fun meets => ?_⟩
  obtain ⟨fields, comparison, allows⟩ := (meets.nodes _ rfl _ _ .root).comparison "Barcode" rfl
  cases allows.selected
  cases allows.known
  cases allows.allowed

end Sample

end RecordQuery
