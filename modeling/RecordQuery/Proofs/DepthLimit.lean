import Mathlib.Order.Bounds.Defs
import Mathlib.Order.MinMax
import RecordQuery.Proofs.Requirements

/-!
# The limit of nesting

A limit of nesting refuses exactly the conditions that nest more deeply. It changes nothing else:
whatever the check finds in a condition within the limit, it finds without a limit too.
-/

namespace RecordQuery

/-! ### Nesting -/

namespace Condition

mutual

/-- The number of conditions from the root of a tree down to its deepest one. -/
def nesting : Condition → Nat
  | ⟨_, _, _, _, groups⟩ =>
    match groups with
    | none => 1
    | some groups => nestingOfGroups groups + 1

def nestingOfGroups : List (Option Group) → Nat
  | [] => 0
  | none :: rest => nestingOfGroups rest
  | some ⟨_, members⟩ :: rest => max (nestingOfMembers members) (nestingOfGroups rest)

def nestingOfMembers : List (Option Condition) → Nat
  | [] => 0
  | none :: rest => nestingOfMembers rest
  | some condition :: rest => max condition.nesting (nestingOfMembers rest)

end

theorem nesting_pos (condition : Condition) : 0 < condition.nesting := by
  obtain ⟨field, operator, value, values, groups⟩ := condition
  cases groups with
  | none => exact Nat.one_pos
  | some groups => exact Nat.succ_pos _

theorem lt_nestingOfMembers_iff {n : Nat} {members : List (Option Condition)} :
    n < nestingOfMembers members ↔ ∃ member, some member ∈ members ∧ n < member.nesting := by
  induction members with
  | nil => simp [nestingOfMembers]
  | cons first rest ih =>
    cases first with
    | none => simp [nestingOfMembers, ih]
    | some condition => simp [nestingOfMembers, ih, or_and_right, exists_or]

theorem lt_nestingOfGroups_iff {n : Nat} {groups : List (Option Group)} :
    n < nestingOfGroups groups ↔
      ∃ group, some group ∈ groups ∧ n < nestingOfMembers group.members := by
  induction groups with
  | nil => simp [nestingOfGroups]
  | cons first rest ih =>
    cases first with
    | none => simp [nestingOfGroups, ih]
    | some group => simp [nestingOfGroups, ih, or_and_right, exists_or]

/-- A tree goes on below its root as far as its children go. -/
theorem succ_lt_nesting_iff {n : Nat} {condition : Condition} :
    n + 1 < condition.nesting ↔ ∃ child, condition.HasChild child ∧ n < child.nesting := by
  obtain ⟨field, operator, value, values, groups⟩ := condition
  cases groups with
  | none => simp [nesting, HasChild]
  | some groups =>
    simp only [nesting, Nat.add_lt_add_iff_right, lt_nestingOfGroups_iff, lt_nestingOfMembers_iff,
      hasChild_groups]
    constructor
    · rintro ⟨group, listed, child, member, deep⟩
      exact ⟨child, ⟨group, listed, member⟩, deep⟩
    · rintro ⟨child, ⟨group, listed, member⟩, deep⟩
      exact ⟨group, listed, child, member, deep⟩

theorem NodeAt.place_lt {depth place : Nat} {tree node : Condition}
    (located : tree.NodeAt depth place node) : place < depth + tree.nesting := by
  induction located with
  | root => exact Nat.lt_add_of_pos_right (nesting_pos _)
  | @inner depth place tree child _ below _ ih =>
    have positive := child.nesting_pos
    have deeper : child.nesting - 1 + 1 < tree.nesting :=
      succ_lt_nesting_iff.mpr ⟨child, below, by omega⟩
    omega

theorem exists_nodeAt {n : Nat} {tree : Condition} (deep : n < tree.nesting) (depth : Nat) :
    ∃ node, tree.NodeAt depth (depth + n) node := by
  induction n generalizing tree depth with
  | zero => exact ⟨tree, .root⟩
  | succ n ih =>
    obtain ⟨child, below, further⟩ := succ_lt_nesting_iff.mp deep
    obtain ⟨node, located⟩ := ih further (depth + 1)
    rw [Nat.add_right_comm] at located
    exact ⟨node, .inner below located⟩

/-- The nesting of a tree is the greatest depth of its nodes, the root having depth 1. -/
theorem isGreatest_nesting (tree : Condition) :
    IsGreatest {place | ∃ node, tree.NodeAt 1 place node} tree.nesting := by
  have positive := tree.nesting_pos
  constructor
  · obtain ⟨node, located⟩ := exists_nodeAt (Nat.sub_one_lt_of_lt positive) 1
    rw [Nat.add_sub_cancel' positive] at located
    exact ⟨node, located⟩
  · rintro place ⟨node, located⟩
    have less := located.place_lt
    omega

/-! ### Wrapping -/

/-- The outer condition has the inner one alone in a group, and so on for some number of levels. The
operator of each group is absent or known. -/
inductive Wraps (inner : Condition) : (levels : Nat) → (outer : Condition) → Prop
  | itself : Wraps inner 0 inner
  | further {levels : Nat} {outer : Condition} {joint : Option String} {value : Option Literal}
    {values : List Literal} (wraps : Wraps inner levels outer)
    (known : ∀ spelling, joint = some spelling → (Connective.ofSpelling? spelling).isSome) :
    Wraps inner (levels + 1) ⟨none, none, value, values, some [some ⟨joint, [some outer]⟩]⟩

theorem Wraps.nesting {levels : Nat} {inner outer : Condition}
    (wraps : inner.Wraps levels outer) : outer.nesting = inner.nesting + levels := by
  induction wraps with
  | itself => rfl
  | further _ _ ih => simp [Condition.nesting, nestingOfGroups, nestingOfMembers, ih, Nat.add_assoc]

end Condition

namespace Validator

variable (validator : Validator) (entity : Entity)

/-- The validator with another limit of nesting, or with none. -/
def withLimit (limit : Option Nat) : Validator :=
  { validator with settings := { validator.settings with maxDepth := limit } }

/-! ### Within the limit -/

mutual

/-- A condition within the limit is checked as without limit, at whatever depth that is. -/
theorem checkCondition_within (validator : Validator) (entity : Entity) {limit depth : Nat}
    (depth' : Nat) : ∀ condition : Condition, depth + condition.nesting ≤ limit + 1 →
      (validator.withLimit (some limit)).checkCondition entity depth condition =
        (validator.withLimit none).checkCondition entity depth' condition
  | ⟨field, operator, value, values, groups⟩, fits => by
    have positive := Condition.nesting_pos ⟨field, operator, value, values, groups⟩
    have shallow : (validator.withLimit (some limit)).checkDepth depth = .ok () :=
      if_neg (by omega)
    have unlimited : (validator.withLimit none).checkDepth depth' = .ok () := rfl
    match field, groups with
    | none, none => simp only [checkCondition, shallow, unlimited]
    | some _, some _ => simp only [checkCondition, shallow, unlimited]
    | some _, none =>
      simp only [checkCondition, shallow, unlimited]
      rfl
    | none, some groups =>
      rw [Condition.nesting] at fits
      have same := checkGroups_within validator entity (depth' + 1) groups
        (by omega : depth + 1 + Condition.nestingOfGroups groups ≤ limit + 1)
      simp only [checkCondition, shallow, unlimited, same]

theorem checkGroups_within (validator : Validator) (entity : Entity) {limit depth : Nat}
    (depth' : Nat) : ∀ groups : List (Option Group),
      depth + Condition.nestingOfGroups groups ≤ limit + 1 →
        (validator.withLimit (some limit)).checkGroups entity depth groups =
          (validator.withLimit none).checkGroups entity depth' groups
  | [], _ => rfl
  | none :: _, _ => rfl
  | some ⟨operator, members⟩ :: rest, fits => by
    rw [Condition.nestingOfGroups] at fits
    have first : depth + Condition.nestingOfMembers members ≤ limit + 1 := by omega
    have others : depth + Condition.nestingOfGroups rest ≤ limit + 1 := by omega
    rw [checkGroups, checkGroups, checkMembers_within validator entity depth' members first,
      checkGroups_within validator entity depth' rest others]

theorem checkMembers_within (validator : Validator) (entity : Entity) {limit depth : Nat}
    (depth' : Nat) : ∀ members : List (Option Condition),
      depth + Condition.nestingOfMembers members ≤ limit + 1 →
        (validator.withLimit (some limit)).checkMembers entity depth members =
          (validator.withLimit none).checkMembers entity depth' members
  | [], _ => rfl
  | none :: _, _ => rfl
  | some condition :: rest, fits => by
    rw [Condition.nestingOfMembers] at fits
    have first : depth + condition.nesting ≤ limit + 1 := by omega
    have others : depth + Condition.nestingOfMembers rest ≤ limit + 1 := by omega
    rw [checkMembers, checkMembers, checkCondition_within validator entity depth' condition first,
      checkMembers_within validator entity depth' rest others]

end

/-- Without limit a condition is checked alike at every depth. -/
theorem checkCondition_unlimited (condition : Condition) (depth depth' : Nat) :
    (validator.withLimit none).checkCondition entity depth condition =
      (validator.withLimit none).checkCondition entity depth' condition := by
  have fits : 0 + condition.nesting ≤ condition.nesting + 1 := by omega
  exact (validator.checkCondition_within entity depth condition fits).symm.trans
    (validator.checkCondition_within entity depth' condition fits)

/-! ### At the limit -/

/-- What a limit lets pass are the conditions that nest no more deeply and pass without limit. -/
theorem checkCondition_limited_iff {limit : Nat} {condition : Condition} :
    (validator.withLimit (some limit)).checkCondition entity 1 condition = .ok () ↔
      condition.nesting ≤ limit ∧
        (validator.withLimit none).checkCondition entity 1 condition = .ok () := by
  have alike (fits : condition.nesting ≤ limit) :
      (validator.withLimit (some limit)).checkCondition entity 1 condition =
        (validator.withLimit none).checkCondition entity 1 condition :=
    validator.checkCondition_within entity 1 condition (by omega)
  constructor
  · intro passed
    -- The deepest node has passed the check of its depth.
    obtain ⟨node, located⟩ := condition.isGreatest_nesting.1
    have nodes := (checkCondition_eq_ok_iff_nodes _ entity condition 1).mp passed
    have fits : condition.nesting ≤ limit := (nodes _ node located).1 limit rfl
    exact ⟨fits, alike fits ▸ passed⟩
  · rintro ⟨fits, passed⟩
    exact (alike fits).trans passed

/-- Without limit a condition passes alone in groups when it passes by itself. -/
theorem checkCondition_wraps {levels : Nat} {inner outer : Condition}
    (wraps : inner.Wraps levels outer) (depth : Nat) :
    (validator.withLimit none).checkCondition entity depth outer =
      (validator.withLimit none).checkCondition entity depth inner := by
  induction wraps generalizing depth with
  | itself => rfl
  | @further _ outer joint _ _ _ known ih =>
    have spelled : checkConnective joint = .ok () := checkConnective_eq_ok.mpr known
    have unlimited : (validator.withLimit none).checkDepth depth = .ok () := rfl
    simp only [checkCondition, checkGroups, checkMembers, unlimited, spelled, ok_bind,
      bind_ok_unit, Option.isSome_none, List.isEmpty_cons, Bool.false_eq_true, if_false]
    rw [ih]
    exact validator.checkCondition_unlimited entity inner _ _

/-- A limit of nesting is exact and changes nothing else: a condition that nests no more deeply has
the result that it has without limit, and one that nests more deeply fails. A condition that is
wrapped in further levels is accepted under a limit that grows by as many. -/
theorem depth_limit_exact (name : String) (condition : Condition) :
    IsGreatest {place | ∃ node, condition.NodeAt 1 place node} condition.nesting ∧
    (∀ limit, condition.nesting ≤ limit →
      (validator.withLimit (some limit)).validateCondition name condition =
        (validator.withLimit none).validateCondition name condition) ∧
    (∀ limit, limit < condition.nesting → ∃ violation,
      (validator.withLimit (some limit)).validateCondition name condition = .error violation) ∧
    ∀ levels wrapped, condition.Wraps levels wrapped → ∀ limit,
      ((validator.withLimit (some (limit + levels))).validateCondition name wrapped = .ok () ↔
        (validator.withLimit (some limit)).validateCondition name condition = .ok ()) := by
  have entity_eq (limit : Option Nat) :
      (validator.withLimit limit).entity name = validator.entity name := rfl
  simp only [validateCondition, entity_eq]
  refine ⟨condition.isGreatest_nesting, ?_⟩
  cases validator.entity name with
  | error violation => exact ⟨fun _ _ => rfl, fun _ _ => ⟨violation, rfl⟩, fun _ _ _ _ => .rfl⟩
  | ok entity =>
    simp only [ok_bind]
    refine ⟨fun limit fits => ?_, fun limit deep => ?_, fun levels wrapped wraps limit => ?_⟩
    · exact validator.checkCondition_within entity 1 condition (by omega)
    · cases failed : (validator.withLimit (some limit)).checkCondition entity 1 condition with
      | error violation => exact ⟨violation, rfl⟩
      | ok =>
        have passed := (validator.checkCondition_limited_iff entity).mp failed
        exact absurd passed.1 (Nat.not_le_of_lt deep)
    · rw [checkCondition_limited_iff, checkCondition_limited_iff, wraps.nesting,
        Nat.add_le_add_iff_right, validator.checkCondition_wraps entity wraps]

end Validator

/-! ### Posts of three levels -/

namespace Sample

/-- The posts about a topic, or those whose author and a friend of whom have some names. -/
def wanted : Condition :=
  .grouped [.any
    [.compared "heading" "contains" (.string "Lean4"),
     .grouped [.all
       [.compared "author.name" "eq" (.string "Ada"),
        .compared "author.friend.name" "eq" (.string "Grace")]]]]

/-- The same alone in a group with an operator, and that alone in a group without one. -/
def wantedWrapped : Condition := .grouped [.implicit [.grouped [.joined "OrElse" [wanted]]]]

theorem wanted_wraps : wanted.Wraps 2 wantedWrapped :=
  .further (.further .itself (by rintro _ ⟨⟩; decide)) (by rintro _ ⟨⟩)

theorem wanted_limited :
    ((Validator.mk forum {}).withLimit (some 3)).validateCondition "post" wanted =
        ((Validator.mk forum {}).withLimit none).validateCondition "post" wanted ∧
      (∃ violation, ((Validator.mk forum {}).withLimit (some 2)).validateCondition "post" wanted =
        .error violation) ∧
      ((Validator.mk forum {}).withLimit (some 5)).validateCondition "post" wantedWrapped =
        .ok () := by
  obtain ⟨_, alike, refused, wrapped⟩ := (Validator.mk forum {}).depth_limit_exact "post" wanted
  have accepted :
      ((Validator.mk forum {}).withLimit (some 3)).validateCondition "post" wanted = .ok () := rfl
  exact ⟨alike 3 (by decide), refused 2 (by decide), (wrapped 2 _ wanted_wraps 3).mpr accepted⟩

end Sample

end RecordQuery
