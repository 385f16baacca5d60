import RecordQuery.Proofs.Refusals
import RecordQuery.Proofs.Requirements

/-!
# Spellings

Operators have several spellings and fields several references. Queries that differ in these alone
have the same plans, and they are refused for the same reasons up to the field that is named there.
-/

namespace RecordQuery

/-! ### Respelled queries -/

/-- The references select the same path, or they are equal. -/
def Resolver.SameReference (resolver : Resolver) (entity : Entity) (field field' : String) : Prop :=
  field = field' ∨ ∃ path, resolver.resolve entity field = .ok (some path) ∧
    resolver.resolve entity field' = .ok (some path)

/-- The spellings are those of one operator, or they are equal. -/
def SameOperator {Operator : Type} (ofSpelling? : String → Option Operator)
    (spelling spelling' : String) : Prop :=
  spelling = spelling' ∨
    ∃ operator, ofSpelling? spelling = some operator ∧ ofSpelling? spelling' = some operator

namespace Condition

mutual

/-- Conditions of the same shape and with the same literals, whose fields are the same in some sense
and whose operators are the same. -/
inductive Respells (same : String → String → Prop) : Condition → Condition → Prop
  | comparison {field field' operator operator' : Option String} {value : Option Literal}
    {values : List Literal} (fields : Option.Rel same field field')
    (operators : Option.Rel (SameOperator Comparison.ofSpelling?) operator operator') :
    Respells same ⟨field, operator, value, values, none⟩ ⟨field', operator', value, values, none⟩
  | groups {field field' operator operator' : Option String} {value : Option Literal}
    {values : List Literal} {groups groups' : List (Option Group)}
    (fields : Option.Rel same field field')
    (operators : Option.Rel (SameOperator Comparison.ofSpelling?) operator operator')
    (inside : RespellsGroups same groups groups') :
    Respells same ⟨field, operator, value, values, some groups⟩
      ⟨field', operator', value, values, some groups'⟩

inductive RespellsGroups (same : String → String → Prop) :
    List (Option Group) → List (Option Group) → Prop
  | nil : RespellsGroups same [] []
  | null {groups groups' : List (Option Group)} (rest : RespellsGroups same groups groups') :
    RespellsGroups same (none :: groups) (none :: groups')
  | group {operator operator' : Option String} {members members' : List (Option Condition)}
    {groups groups' : List (Option Group)}
    (operators : Option.Rel (SameOperator Connective.ofSpelling?) operator operator')
    (inside : RespellsMembers same members members')
    (rest : RespellsGroups same groups groups') :
    RespellsGroups same (some ⟨operator, members⟩ :: groups)
      (some ⟨operator', members'⟩ :: groups')

inductive RespellsMembers (same : String → String → Prop) :
    List (Option Condition) → List (Option Condition) → Prop
  | nil : RespellsMembers same [] []
  | null {members members' : List (Option Condition)}
    (rest : RespellsMembers same members members') :
    RespellsMembers same (none :: members) (none :: members')
  | condition {condition condition' : Condition} {members members' : List (Option Condition)}
    (here : Respells same condition condition') (rest : RespellsMembers same members members') :
    RespellsMembers same (some condition :: members) (some condition' :: members')

end

variable {same : String → String → Prop}

theorem RespellsGroups.isEmpty_eq {groups groups' : List (Option Group)}
    (respelled : RespellsGroups same groups groups') : groups.isEmpty = groups'.isEmpty := by
  cases respelled <;> rfl

theorem RespellsMembers.isEmpty_eq {members members' : List (Option Condition)}
    (respelled : RespellsMembers same members members') : members.isEmpty = members'.isEmpty := by
  cases respelled <;> rfl

end Condition

/-- Sort keys of the same direction on fields that are the same in some sense. -/
structure OrderKey.Respells (same : String → String → Prop) (key key' : OrderKey) : Prop where
  field : Option.Rel same key.field key'.field
  descending : key.descending = key'.descending

/-- Queries of the same shape and with the same literals, whose fields are the same in some sense
and whose operators are the same. -/
structure Query.Respells (same : String → String → Prop) (query query' : Query) : Prop where
  includes : List.Forall₂ same query.includes query'.includes
  excludes : List.Forall₂ same query.excludes query'.excludes
  condition : Option.Rel (Condition.Respells same) query.condition query'.condition
  order : List.Forall₂ (OrderKey.Respells same) query.order query'.order
  limit : query.limit = query'.limit
  skip : query.skip = query'.skip

/-! ### Outcomes up to the field that is named -/

/-- The violation without the field that it names, if a resolved reference may be named there. -/
def Violation.unnamed : Violation → Violation
  | .shape (.noOperator _) => .shape (.noOperator "")
  | .refused _ comparison origin => .refused "" comparison origin
  | .patternValue _ comparison => .patternValue "" comparison
  | violation => violation

/-- The fault without the field that it names. -/
def CoercionFault.unnamed : CoercionFault → CoercionFault
  | .invalid _ text target => .invalid "" text target
  | .missingValue _ comparison => .missingValue "" comparison
  | .nonTextPattern _ comparison type => .nonTextPattern "" comparison type
  | .nonComparable _ type => .nonComparable "" type

/-- The fault without the field that it names, if a resolved reference may be named there. -/
def PlanFault.unnamed : PlanFault → PlanFault
  | .coercion fault => .coercion fault.unnamed
  | .malformed (.noOperator _) => .malformed (.noOperator "")
  | fault => fault

/-- The outcomes are equal, faults up to what `blank` takes from them. -/
def EqualUpTo {ε α : Type} (blank : ε → ε) (left right : Except ε α) : Prop :=
  left.mapError blank = right.mapError blank

namespace EqualUpTo

variable {ε α β : Type} {blank : ε → ε}

theorem of_eq {left right : Except ε α} (same : left = right) : EqualUpTo blank left right :=
  congrArg (Except.mapError blank) same

theorem of_faults {fault fault' : ε} (same : blank fault = blank fault') :
    EqualUpTo blank (Except.error fault : Except ε α) (.error fault') :=
  congrArg Except.error same

/-- Both outcomes are faults or both are the same value. -/
theorem both {left right : Except ε α} (same : EqualUpTo blank left right) :
    (∃ fault fault', left = .error fault ∧ right = .error fault' ∧ blank fault = blank fault') ∨
      ∃ value, left = .ok value ∧ right = .ok value := by
  cases left with
  | error fault =>
    cases right with
    | error fault' => exact .inl ⟨fault, fault', rfl, rfl, Except.error.inj same⟩
    | ok value' => cases same
  | ok value =>
    cases right with
    | error fault' => cases same
    | ok value' =>
      cases Except.ok.inj same
      exact .inr ⟨value, rfl, rfl⟩

theorem eq_ok {left right : Except ε α} {value : α} (same : EqualUpTo blank left right)
    (success : left = .ok value) : right = .ok value := by
  rcases same.both with ⟨_, _, failed, _⟩ | ⟨_, here, there⟩
  · cases failed.symm.trans success
  · cases here.symm.trans success
    exact there

theorem bind {left right : Except ε α} {next next' : α → Except ε β}
    (first : EqualUpTo blank left right)
    (second : ∀ value, EqualUpTo blank (next value) (next' value)) :
    EqualUpTo blank (left >>= next) (right >>= next') := by
  rcases first.both with ⟨_, _, rfl, rfl, faults⟩ | ⟨value, rfl, rfl⟩
  · exact of_faults faults
  · exact second value

theorem map {left right : Except ε α} (change : α → β) (same : EqualUpTo blank left right) :
    EqualUpTo blank (left.map change) (right.map change) := by
  rcases same.both with ⟨_, _, rfl, rfl, faults⟩ | ⟨value, rfl, rfl⟩
  · exact of_faults faults
  · rfl

theorem mapM {step step' : α → Except ε β}
    (each : ∀ value, EqualUpTo blank (step value) (step' value))
    (values : List α) : EqualUpTo blank (values.mapM step) (values.mapM step') := by
  induction values with
  | nil => rfl
  | cons value rest ih =>
    rw [List.mapM_cons, List.mapM_cons]
    exact (each value).bind fun first => ih.bind fun others => rfl

end EqualUpTo

/-! ### Steps on lists -/

theorem mapM_eq_of_forall₂ {ε α β : Type} {step : α → Except ε β} {values values' : List α}
    (pairs : List.Forall₂ (fun value value' => step value = step value') values values') :
    values.mapM step = values'.mapM step := by
  induction pairs with
  | nil => rfl
  | cons here _ ih => rw [List.mapM_cons, List.mapM_cons, here, ih]

theorem Validator.each_eq_of_forall₂ {α : Type} {check : α → Except Violation Unit}
    {values values' : List α}
    (pairs : List.Forall₂ (fun value value' => check value = check value') values values') :
    each check values = each check values' := by
  induction pairs with
  | nil => rfl
  | cons here _ ih => rw [each, each, here, ih]

theorem isEmpty_eq_of_forall₂ {α β : Type} {related : α → β → Prop} {values : List α}
    {values' : List β} (pairs : List.Forall₂ related values values') :
    values.isEmpty = values'.isEmpty := by
  cases pairs <;> rfl

theorem isSome_eq_of_rel {α β : Type} {related : α → β → Prop} {value : Option α}
    {value' : Option β} (pair : Option.Rel related value value') :
    value.isSome = value'.isSome := by
  cases pair <;> rfl

/-! ### The check -/

namespace Validator

variable (validator : Validator) (entity : Entity) {field field' : String}

theorem resolve_eq_of_same {location : Location}
    (same : validator.resolver.SameReference entity field field') :
    validator.resolve entity location field = validator.resolve entity location field' := by
  rcases same with rfl | ⟨path, found, found'⟩
  · rfl
  · rw [(validator.resolve_eq_ok entity).mpr found, (validator.resolve_eq_ok entity).mpr found']

theorem checkField_eq_of_same {location : Location}
    (same : validator.resolver.SameReference entity field field') :
    validator.checkField entity location field = validator.checkField entity location field' := by
  rw [checkField, checkField, validator.resolve_eq_of_same entity same]

theorem equal_comparison {operator operator' : Option String} (field field' : String)
    (operators : Option.Rel (SameOperator Comparison.ofSpelling?) operator operator') :
    EqualUpTo Violation.unnamed (comparison field operator) (comparison field' operator') := by
  cases operators with
  | none => rfl
  | some same =>
    -- An operator that is not known is named, and then the spellings are equal.
    rcases same with rfl | ⟨found, known, known'⟩
    · rfl
    · simp only [comparison, known, known']
      rfl

theorem equal_checkPermitted (field field' : String) (path : Path) (comparison : Comparison) :
    EqualUpTo Violation.unnamed (validator.checkPermitted entity field path comparison)
      (validator.checkPermitted entity field' path comparison) := by
  unfold checkPermitted
  split
  · rfl
  · split <;> rfl

theorem equal_checkPattern (field field' : String) (comparison : Comparison)
    (value : Option Literal) :
    EqualUpTo Violation.unnamed (checkPattern field comparison value)
      (checkPattern field' comparison value) := by
  unfold checkPattern
  split
  · split <;> rfl
  · rfl

theorem equal_checkComparison {operator operator' : Option String} (value : Option Literal)
    (reference : validator.resolver.SameReference entity field field')
    (operators : Option.Rel (SameOperator Comparison.ofSpelling?) operator operator') :
    EqualUpTo Violation.unnamed (validator.checkComparison entity field operator value)
      (validator.checkComparison entity field' operator' value) := by
  have resolved : EqualUpTo Violation.unnamed (validator.resolve entity .condition field)
      (validator.resolve entity .condition field') :=
    .of_eq (validator.resolve_eq_of_same entity reference)
  refine resolved.bind fun path => (equal_comparison field field' operators).bind ?_
  intro comparison
  exact (validator.equal_checkPermitted entity field field' path comparison).bind
    fun _ => equal_checkPattern field field' comparison value

theorem checkConnective_eq_of_same {operator operator' : Option String}
    (operators : Option.Rel (SameOperator Connective.ofSpelling?) operator operator') :
    checkConnective operator = checkConnective operator' := by
  cases operators with
  | none => rfl
  | some same =>
    rcases same with rfl | ⟨found, known, known'⟩
    · rfl
    · simp only [checkConnective, known, known', Option.isSome_some, if_true]

mutual

/-- By recursion on how one condition respells the other, which gives both the same form. -/
theorem equal_checkCondition (validator : Validator) (entity : Entity) :
    ∀ {condition condition' : Condition},
      condition.Respells (validator.resolver.SameReference entity) condition' →
        ∀ depth, EqualUpTo Violation.unnamed (validator.checkCondition entity depth condition)
          (validator.checkCondition entity depth condition')
  | _, _, .comparison fields operators, depth => by
    cases fields with
    | none =>
      rw [checkCondition, checkCondition]
      rfl
    | some reference =>
      rw [checkCondition, checkCondition]
      refine EqualUpTo.bind rfl fun _ => ?_
      exact validator.equal_checkComparison entity _ reference operators
  | _, _, .groups fields operators inside, depth => by
    have deeper := equal_checkGroups validator entity inside (depth + 1)
    cases fields with
    | none =>
      rw [checkCondition, checkCondition, isSome_eq_of_rel operators, inside.isEmpty_eq]
      refine EqualUpTo.bind rfl fun _ => ?_
      split
      · rfl
      · split
        · rfl
        · exact deeper
    | some reference =>
      rw [checkCondition, checkCondition]
      rfl

theorem equal_checkGroups (validator : Validator) (entity : Entity) :
    ∀ {groups groups' : List (Option Group)},
      Condition.RespellsGroups (validator.resolver.SameReference entity) groups groups' →
        ∀ depth, EqualUpTo Violation.unnamed (validator.checkGroups entity depth groups)
          (validator.checkGroups entity depth groups')
  | _, _, .nil, depth => rfl
  | _, _, .null rest, depth => rfl
  | _, _, .group operators inside rest, depth => by
    have members := equal_checkMembers validator entity inside depth
    have later := equal_checkGroups validator entity rest depth
    rw [checkGroups, checkGroups, checkConnective_eq_of_same operators, inside.isEmpty_eq]
    refine EqualUpTo.bind rfl fun _ => ?_
    split
    · rfl
    · exact members.bind fun _ => later

theorem equal_checkMembers (validator : Validator) (entity : Entity) :
    ∀ {members members' : List (Option Condition)},
      Condition.RespellsMembers (validator.resolver.SameReference entity) members members' →
        ∀ depth, EqualUpTo Violation.unnamed (validator.checkMembers entity depth members)
          (validator.checkMembers entity depth members')
  | _, _, .nil, depth => rfl
  | _, _, .null rest, depth => rfl
  | _, _, .condition here rest, depth => by
    have first := equal_checkCondition validator entity here depth
    have later := equal_checkMembers validator entity rest depth
    rw [checkMembers, checkMembers]
    exact first.bind fun _ => later

end

theorem equal_checkOptional {condition condition' : Option Condition}
    (respelled : Option.Rel (Condition.Respells (validator.resolver.SameReference entity))
      condition condition') :
    EqualUpTo Violation.unnamed (validator.checkOptional entity condition)
      (validator.checkOptional entity condition') := by
  cases respelled with
  | none => rfl
  | some here => exact equal_checkCondition validator entity here 1

theorem checkOrderKey_eq_of_respells {key key' : OrderKey}
    (respelled : key.Respells (validator.resolver.SameReference entity) key') :
    validator.checkOrderKey entity key = validator.checkOrderKey entity key' := by
  obtain ⟨field, descending⟩ := key
  obtain ⟨field', descending'⟩ := key'
  cases respelled.field with
  | none => rfl
  | some reference => exact validator.checkField_eq_of_same entity reference

theorem equal_checkQuery {query query' : Query}
    (respelled : query.Respells (validator.resolver.SameReference entity) query') :
    EqualUpTo Violation.unnamed (validator.checkQuery entity query)
      (validator.checkQuery entity query') := by
  have included : each (validator.checkField entity .includes) query.includes =
      each (validator.checkField entity .includes) query'.includes :=
    each_eq_of_forall₂ (respelled.includes.imp fun _ _ => validator.checkField_eq_of_same entity)
  have excluded : each (validator.checkField entity .excludes) query.excludes =
      each (validator.checkField entity .excludes) query'.excludes :=
    each_eq_of_forall₂ (respelled.excludes.imp fun _ _ => validator.checkField_eq_of_same entity)
  have ordered : each (validator.checkOrderKey entity) query.order =
      each (validator.checkOrderKey entity) query'.order :=
    each_eq_of_forall₂
      (respelled.order.imp fun _ _ => validator.checkOrderKey_eq_of_respells entity)
  have conditional := validator.equal_checkOptional entity respelled.condition
  -- Of all parts only the condition may be refused in two ways.
  rw [checkQuery_eq, checkQuery_eq, isEmpty_eq_of_forall₂ respelled.includes,
    isEmpty_eq_of_forall₂ respelled.excludes, included, excluded, ordered, respelled.limit,
    respelled.skip]
  split
  · rfl
  · refine EqualUpTo.bind rfl fun _ => EqualUpTo.bind rfl fun _ => ?_
    exact conditional.bind fun _ => rfl

end Validator

/-! ### The plan -/

namespace Planner

section Operands

variable (field field' : String)

theorem equal_read (type : FieldType) (text : String) :
    EqualUpTo CoercionFault.unnamed (type.read field text) (type.read field' text) := by
  cases type with
  | scalar inner | optionalScalar inner | arrayOfScalar inner =>
    cases read : inner.read? text <;> simp only [FieldType.read, read] <;> rfl
  | enumeration name variants | optionalEnumeration name variants =>
    cases read : FieldType.variant? variants text <;>
      simp only [FieldType.read, read, Option.map_some, Option.map_none] <;> rfl
  | embedded _ | optionalEmbedded _ | arrayOfEmbedded _ => rfl

theorem equal_patternText (type : FieldType) (comparison : Comparison) (literal : Literal) :
    EqualUpTo CoercionFault.unnamed (type.patternText field comparison literal)
      (type.patternText field' comparison literal) := by
  unfold FieldType.patternText
  split <;> rfl

theorem equal_coerced {α : Type} {conversion conversion' : Except CoercionFault α}
    (same : EqualUpTo CoercionFault.unnamed conversion conversion') :
    EqualUpTo PlanFault.unnamed (coerced conversion) (coerced conversion') := by
  rcases same.both with ⟨_, _, rfl, rfl, faults⟩ | ⟨value, rfl, rfl⟩
  · exact .of_faults (congrArg PlanFault.coercion faults)
  · rfl

/-- A field gives its name to the faults of an operand and to nothing else. -/
theorem equal_operand (type : FieldType) (comparison : Comparison) (value : Option Literal)
    (values : List Literal) :
    EqualUpTo PlanFault.unnamed (operand type field comparison value values)
      (operand type field' comparison value values) := by
  have coerce (literal : Literal) : EqualUpTo CoercionFault.unnamed (type.coerce field literal)
      (type.coerce field' literal) := equal_read field field' type literal.text
  unfold operand
  split
  · split
    · rfl
    · exact (equal_coerced (coerce _)).bind fun _ => rfl
    · exact (equal_coerced (EqualUpTo.mapM coerce values)).bind fun _ => rfl
  · split
    · split <;> rfl
    · split
      · exact (equal_coerced (equal_patternText field field' type comparison _)).bind fun _ => rfl
      · exact (equal_coerced (coerce _)).bind fun _ => rfl

end Operands

variable {Emitted Order Fields : Type} (planner : Planner Emitted Order Fields) (entity : Entity)
  {field field' : String}

theorem resolve_eq_of_same (same : planner.resolver.SameReference entity field field') :
    planner.resolve entity field = planner.resolve entity field' := by
  rcases same with rfl | ⟨path, found, found'⟩
  · rfl
  · simp only [resolve, found, found']

theorem equal_comparison {operator operator' : Option String} (field field' : String)
    (operators : Option.Rel (SameOperator Comparison.ofSpelling?) operator operator') :
    EqualUpTo PlanFault.unnamed (comparison field operator) (comparison field' operator') := by
  cases operators with
  | none => rfl
  | some same =>
    rcases same with rfl | ⟨found, known, known'⟩
    · rfl
    · simp only [comparison, known, known']
      rfl

theorem equal_planComparison {operator operator' : Option String} (value : Option Literal)
    (values : List Literal) (reference : planner.resolver.SameReference entity field field')
    (operators : Option.Rel (SameOperator Comparison.ofSpelling?) operator operator') :
    EqualUpTo PlanFault.unnamed (planner.planComparison entity field operator value values)
      (planner.planComparison entity field' operator' value values) := by
  unfold planComparison
  rw [planner.resolve_eq_of_same entity reference]
  refine (equal_comparison field field' operators).bind fun comparison => ?_
  refine EqualUpTo.bind rfl fun path => ?_
  exact (equal_operand field field' path.type comparison value values).bind fun operand => rfl

theorem connective_eq_of_same {operator operator' : Option String}
    (operators : Option.Rel (SameOperator Connective.ofSpelling?) operator operator') :
    connective operator = connective operator' := by
  cases operators with
  | none => rfl
  | some same =>
    rcases same with rfl | ⟨found, known, known'⟩
    · rfl
    · simp only [connective, known, known']

mutual

/-- By recursion on how one condition respells the other, which gives both the same form. -/
theorem equal_planCondition (planner : Planner Emitted Order Fields) (entity : Entity) :
    ∀ {condition condition' : Condition},
      condition.Respells (planner.resolver.SameReference entity) condition' →
        EqualUpTo PlanFault.unnamed (planner.planCondition entity condition)
          (planner.planCondition entity condition')
  | _, _, .comparison fields operators => by
    cases fields with
    | none =>
      rw [planCondition, planCondition]
      · rfl
      all_goals simp
    | some reference =>
      rw [planCondition, planCondition]
      exact planner.equal_planComparison entity _ _ reference operators
  | _, _, .groups fields operators inside => by
    have groups := equal_planGroups planner entity inside
    cases fields with
    | none =>
      rw [planCondition, planCondition]
      exact groups.bind fun parts => rfl
    | some reference =>
      rw [planCondition, planCondition]
      · rfl
      all_goals simp

theorem equal_planGroups (planner : Planner Emitted Order Fields) (entity : Entity) :
    ∀ {groups groups' : List (Option Group)},
      Condition.RespellsGroups (planner.resolver.SameReference entity) groups groups' →
        EqualUpTo PlanFault.unnamed (planner.planGroups entity groups)
          (planner.planGroups entity groups')
  | _, _, .nil => rfl
  | _, _, .null rest => rfl
  | _, _, .group operators inside rest => by
    have members := equal_planMembers planner entity inside
    have later := equal_planGroups planner entity rest
    rw [planGroups, planGroups, connective_eq_of_same operators]
    refine EqualUpTo.bind rfl fun joint => members.bind fun parts => ?_
    split
    · rfl
    · exact later.bind fun others => rfl

theorem equal_planMembers (planner : Planner Emitted Order Fields) (entity : Entity) :
    ∀ {members members' : List (Option Condition)},
      Condition.RespellsMembers (planner.resolver.SameReference entity) members members' →
        EqualUpTo PlanFault.unnamed (planner.planMembers entity members)
          (planner.planMembers entity members')
  | _, _, .nil => rfl
  | _, _, .null rest => rfl
  | _, _, .condition here rest => by
    have first := equal_planCondition planner entity here
    have later := equal_planMembers planner entity rest
    rw [planMembers, planMembers]
    exact first.bind fun part => later.bind fun others => rfl

end

theorem equal_planOptional {condition condition' : Option Condition}
    (respelled : Option.Rel (Condition.Respells (planner.resolver.SameReference entity))
      condition condition') :
    EqualUpTo PlanFault.unnamed (planner.planOptional entity condition)
      (planner.planOptional entity condition') := by
  cases respelled with
  | none => rfl
  | some here => exact (equal_planCondition planner entity here).map some

theorem sortKey_eq_of_respells {key key' : OrderKey}
    (respelled : key.Respells (planner.resolver.SameReference entity) key') :
    planner.sortKey entity key = planner.sortKey entity key' := by
  obtain ⟨field, descending⟩ := key
  obtain ⟨field', descending'⟩ := key'
  obtain ⟨fields, rfl⟩ := respelled
  cases fields with
  | none => rfl
  | some reference => simp only [sortKey, planner.resolve_eq_of_same entity reference]; rfl

theorem projection?_eq_of_respells {query query' : Query}
    (respelled : query.Respells (planner.resolver.SameReference entity) query') :
    planner.projection? entity query = planner.projection? entity query' := by
  have included : query.includes.mapM (planner.resolve entity) =
      query'.includes.mapM (planner.resolve entity) :=
    mapM_eq_of_forall₂ (respelled.includes.imp fun _ _ => planner.resolve_eq_of_same entity)
  have excluded : query.excludes.mapM (planner.resolve entity) =
      query'.excludes.mapM (planner.resolve entity) :=
    mapM_eq_of_forall₂ (respelled.excludes.imp fun _ _ => planner.resolve_eq_of_same entity)
  simp only [projection?, included, excluded, isEmpty_eq_of_forall₂ respelled.includes,
    isEmpty_eq_of_forall₂ respelled.excludes]

theorem equal_planEntity {query query' : Query}
    (respelled : query.Respells (planner.resolver.SameReference entity) query') :
    EqualUpTo PlanFault.unnamed (planner.planEntity entity query)
      (planner.planEntity entity query') := by
  have sorted : query.order.mapM (planner.sortKey entity) =
      query'.order.mapM (planner.sortKey entity) :=
    mapM_eq_of_forall₂ (respelled.order.imp fun _ _ => planner.sortKey_eq_of_respells entity)
  rw [planEntity_eq, planEntity_eq, sorted, planner.projection?_eq_of_respells entity respelled,
    respelled.limit, respelled.skip]
  exact (planner.equal_planOptional entity respelled.condition).bind fun filter => rfl

theorem equal_planQuery {name : String} {query query' : Query}
    (respelled : ∀ entity, planner.schema.entity? name = some entity →
      query.Respells (planner.resolver.SameReference entity) query') :
    EqualUpTo PlanFault.unnamed (planner.planQuery name query)
      (planner.planQuery name query') := by
  unfold planQuery
  cases known : planner.schema.entity? name with
  | none =>
    rw [Planner.entity, known]
    rfl
  | some entity =>
    rw [planner.entity_eq_ok.mpr known]
    exact planner.equal_planEntity entity (respelled entity known)

end Planner

/-! ### Whole queries -/

theorem Validator.equal_validateQuery (validator : Validator) {name : String}
    {query query' : Query}
    (respelled : ∀ entity, validator.schema.entity? name = some entity →
      query.Respells (validator.resolver.SameReference entity) query') :
    EqualUpTo Violation.unnamed (validator.validateQuery name query)
      (validator.validateQuery name query') := by
  unfold validateQuery
  cases known : validator.schema.entity? name with
  | none =>
    rw [Validator.entity, known]
    rfl
  | some entity =>
    rw [validator.entity_eq_ok.mpr known]
    exact validator.equal_checkQuery entity (respelled entity known)

/-- Queries that differ in the spelling of operators and in references to the same fields are both
accepted or refused for the same reason, and on each backend they have the same plan or none for the
same reason, the text of a reference apart. -/
theorem respelled_queries_alike (schema : Schema) (settings : Settings) (name : String)
    {query query' : Query}
    (respelled : ∀ entity, schema.entity? name = some entity →
      query.Respells (Resolver.SameReference ⟨schema, settings.delimiter⟩ entity) query') :
    ((Validator.mk schema settings).validateQuery name query).mapError Violation.unnamed =
        ((Validator.mk schema settings).validateQuery name query').mapError Violation.unnamed ∧
      ((Planner.forTables schema settings).planQuery name query).mapError PlanFault.unnamed =
        ((Planner.forTables schema settings).planQuery name query').mapError PlanFault.unnamed ∧
      ((Planner.forDocuments schema settings).planQuery name query).mapError PlanFault.unnamed =
        ((Planner.forDocuments schema settings).planQuery name query').mapError
          PlanFault.unnamed :=
  ⟨(Validator.mk schema settings).equal_validateQuery respelled,
    (Planner.forTables schema settings).equal_planQuery respelled,
    (Planner.forDocuments schema settings).equal_planQuery respelled⟩

/-! ### A query in two spellings -/

namespace Sample

/-- Titles and authors of the posts about a topic, in other spellings. -/
def titlesRespelled : Query where
  includes := ["Heading", "AUTHOR.name"]
  condition := some (.grouped [.joined "&&"
    [.compared "title" "LIKE" (.string "Lean4"),
     .compared "Author.Friend.name" "BeginsWith" (.string "Ada")]])
  order := [.ascendingBy "Author.Name", .descendingBy "TITLE"]
  limit := some 10

theorem titles_respelled {entity : Entity} (known : forum.entity? "post" = some entity) :
    titles.Respells (Resolver.SameReference ⟨forum, "."⟩ entity) titlesRespelled := by
  cases known
  constructor
  · exact .cons (.inr ⟨_, rfl, rfl⟩) (.cons (.inr ⟨_, rfl, rfl⟩) .nil)
  · exact .nil
  · refine .some (.groups .none .none (.group (.some (.inr ⟨.conjunction, rfl, rfl⟩)) ?_ .nil))
    refine .condition ?_ (.condition ?_ .nil)
    · exact .comparison (.some (.inr ⟨_, rfl, rfl⟩)) (.some (.inr ⟨.contains, rfl, rfl⟩))
    · exact .comparison (.some (.inr ⟨_, rfl, rfl⟩)) (.some (.inr ⟨.startsWith, rfl, rfl⟩))
  · refine .cons ⟨.some ?_, rfl⟩ (.cons ⟨.some ?_, rfl⟩ .nil)
    · exact .inr ⟨_, rfl, rfl⟩
    · exact .inr ⟨_, rfl, rfl⟩
  · rfl
  · rfl

/-- Posts by the name of their author, in other spellings. -/
def searchedAuthorRespelled : Query where
  condition := some (.compared "AUTHOR.Name" "like" (.string "Ada"))

theorem searchedAuthor_respelled {entity : Entity} (known : forum.entity? "post" = some entity) :
    searchedAuthor.Respells (Resolver.SameReference ⟨forum, "."⟩ entity)
      searchedAuthorRespelled := by
  cases known
  refine ⟨.nil, .nil, .some ?_, .nil, rfl, rfl⟩
  exact .comparison (.some (.inr ⟨_, rfl, rfl⟩)) (.some (.inr ⟨.contains, rfl, rfl⟩))

/-- The first query is planned alike in both spellings, the second one is refused alike, with the
reference as it was given. -/
theorem respelled_alike :
    (∃ plan, (Planner.forTables forum {}).planQuery "post" titles = .ok plan ∧
        (Planner.forTables forum {}).planQuery "post" titlesRespelled = .ok plan) ∧
      (∃ plan, (Planner.forDocuments forum {}).planQuery "post" titles = .ok plan ∧
        (Planner.forDocuments forum {}).planQuery "post" titlesRespelled = .ok plan) ∧
      (Validator.mk forum {}).validateQuery "post" searchedAuthor =
        .error (.refused "author.name" .contains .field) ∧
      (Validator.mk forum {}).validateQuery "post" searchedAuthorRespelled =
        .error (.refused "AUTHOR.Name" .contains .field) ∧
      ((Validator.mk forum {}).validateQuery "post" searchedAuthor).mapError Violation.unnamed =
        ((Validator.mk forum {}).validateQuery "post" searchedAuthorRespelled).mapError
          Violation.unnamed := by
  obtain ⟨_, tables, documents⟩ :=
    respelled_queries_alike forum {} "post" fun _ => titles_respelled
  obtain ⟨checks, _, _⟩ :=
    respelled_queries_alike forum {} "post" fun _ => searchedAuthor_respelled
  exact ⟨⟨_, rfl, EqualUpTo.eq_ok tables rfl⟩, ⟨_, rfl, EqualUpTo.eq_ok documents rfl⟩, rfl, rfl,
    checks⟩

end Sample

end RecordQuery
