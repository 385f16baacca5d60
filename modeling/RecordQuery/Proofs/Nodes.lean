import RecordQuery.Operator
import RecordQuery.Request.Condition

/-!
# Nodes of condition trees

The conditions inside a condition, each at its depth, and induction from the inner conditions to the
outer ones.
-/

namespace RecordQuery

/-- The operator of the group is absent or known, and the group has members, none of them null. -/
structure GroupOf.WellFormed {Member : Type} (group : GroupOf Member) : Prop where
  known : ∀ spelling, group.operator = some spelling → (Connective.ofSpelling? spelling).isSome
  filled : group.members ≠ []
  whole : none ∉ group.members

namespace Condition

/-- The inner condition is a member of a group of the outer one. -/
def HasChild (outer inner : Condition) : Prop :=
  ∃ groups group, outer.groups = some groups ∧ some group ∈ groups ∧ some inner ∈ group.members

/-- The node stands at some place in the tree whose root stands at `depth`. -/
inductive NodeAt : (depth : Nat) → (tree : Condition) → (place : Nat) → (node : Condition) → Prop
  | root {depth : Nat} {tree : Condition} : NodeAt depth tree depth tree
  | inner {depth place : Nat} {tree child node : Condition} (below : tree.HasChild child)
    (further : NodeAt (depth + 1) child place node) : NodeAt depth tree place node

theorem hasChild_groups {field operator : Option String} {value : Option Literal}
    {values : List Literal} {groups : List (Option Group)} {child : Condition} :
    HasChild ⟨field, operator, value, values, some groups⟩ child ↔
      ∃ group, some group ∈ groups ∧ some child ∈ group.members := by
  constructor
  · rintro ⟨_, group, held, listed, member⟩
    cases held
    exact ⟨group, listed, member⟩
  · rintro ⟨group, listed, member⟩
    exact ⟨groups, group, rfl, listed, member⟩

theorem not_hasChild_of_ungrouped {condition : Condition} (ungrouped : condition.groups = none)
    (child : Condition) : ¬ condition.HasChild child := by
  rintro ⟨_, _, held, _⟩
  cases ungrouped.symm.trans held

/-- The only node of a condition without groups is its root. -/
theorem NodeAt.eq_root_of_ungrouped {depth place : Nat} {condition node : Condition}
    (ungrouped : condition.groups = none) (located : condition.NodeAt depth place node) :
    place = depth ∧ node = condition := by
  cases located with
  | root => exact ⟨rfl, rfl⟩
  | inner below _ => exact absurd below (not_hasChild_of_ungrouped ungrouped _)

/-! ### Induction -/

theorem HasChild.sizeOf_lt {outer inner : Condition} (below : outer.HasChild inner) :
    sizeOf inner < sizeOf outer := by
  obtain ⟨field, operator, value, values, groups⟩ := outer
  obtain ⟨held, ⟨joint, members⟩, rfl, listed, member⟩ := below
  have in_members : sizeOf (some inner) < sizeOf members := List.sizeOf_lt_of_mem member
  have in_groups : sizeOf (some (GroupOf.mk joint members)) < sizeOf held :=
    List.sizeOf_lt_of_mem listed
  simp only [mk.sizeOf_spec, GroupOf.mk.sizeOf_spec, Option.some.sizeOf_spec]
    at in_members in_groups ⊢
  omega

/-- What passes from the children of a condition to the condition holds of every condition. -/
theorem of_children {motive : Condition → Prop}
    (step : ∀ condition, (∀ child, condition.HasChild child → motive child) → motive condition)
    (condition : Condition) : motive condition := by
  induction held : sizeOf condition using Nat.strongRecOn generalizing condition with
  | _ size smaller =>
    refine step condition fun child below => ?_
    have less : sizeOf child < size := held ▸ below.sizeOf_lt
    exact smaller _ less child rfl

end Condition

end RecordQuery
