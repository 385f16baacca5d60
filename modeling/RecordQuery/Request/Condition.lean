import RecordQuery.Request.Literal

/-!
# Condition trees

A condition is a comparison of a field, or a list of groups of further conditions. The tree is kept
as a request gives it: parts may be missing or contradict each other, and null entries stay. Which
trees are acceptable is decided elsewhere.
-/

namespace RecordQuery

/-- Members joined by a logical operator, by conjunction when it is absent. -/
structure GroupOf (Member : Type) where
  operator : Option String
  members : List (Option Member)
  deriving DecidableEq

/-- A node of a condition tree. -/
structure Condition where
  -- The field of a comparison.
  field : Option String := none
  -- The comparison operator, in any accepted spelling.
  operator : Option String := none
  -- What is compared with.
  value : Option Literal := none
  -- The set that an operator of membership compares with.
  values : List Literal := []
  -- The groups of a composite condition.
  groups : Option (List (Option (GroupOf Condition))) := none

abbrev Group := GroupOf Condition

namespace Condition

/-! ### Equality -/

mutual

def same : Condition → Condition → Bool
  | ⟨field, operator, value, values, groups⟩, ⟨field', operator', value', values', groups'⟩ =>
    field == field' && operator == operator' && value == value' && values == values' &&
      match groups, groups' with
      | none, none => true
      | some groups, some groups' => sameGroups groups groups'
      | _, _ => false

def sameGroups : List (Option Group) → List (Option Group) → Bool
  | [], [] => true
  | none :: rest, none :: rest' => sameGroups rest rest'
  | some ⟨operator, members⟩ :: rest, some ⟨operator', members'⟩ :: rest' =>
    operator == operator' && sameMembers members members' && sameGroups rest rest'
  | _, _ => false

def sameMembers : List (Option Condition) → List (Option Condition) → Bool
  | [], [] => true
  | none :: rest, none :: rest' => sameMembers rest rest'
  | some condition :: rest, some condition' :: rest' =>
    condition.same condition' && sameMembers rest rest'
  | _, _ => false

end

mutual

theorem same_iff : ∀ left right : Condition, left.same right = true ↔ left = right
  | ⟨field, operator, value, values, none⟩, right => by
    obtain ⟨field', operator', value', values', groups'⟩ := right
    cases groups' <;> simp [same, and_assoc]
  | ⟨field, operator, value, values, some groups⟩, right => by
    obtain ⟨field', operator', value', values', groups'⟩ := right
    cases groups' <;> simp [same, sameGroups_iff groups, and_assoc]

theorem sameGroups_iff :
    ∀ left right : List (Option Group), sameGroups left right = true ↔ left = right
  | [], right => by cases right <;> simp [sameGroups]
  | none :: rest, right => by
    rcases right with _ | ⟨_ | group, right⟩ <;> simp [sameGroups, sameGroups_iff rest]
  | some ⟨operator, members⟩ :: rest, right => by
    rcases right with _ | ⟨_ | ⟨operator', members'⟩, right⟩ <;>
      simp [sameGroups, sameMembers_iff members, sameGroups_iff rest]

theorem sameMembers_iff :
    ∀ left right : List (Option Condition), sameMembers left right = true ↔ left = right
  | [], right => by cases right <;> simp [sameMembers]
  | none :: rest, right => by
    rcases right with _ | ⟨_ | condition, right⟩ <;> simp [sameMembers, sameMembers_iff rest]
  | some condition :: rest, right => by
    rcases right with _ | ⟨_ | condition', right⟩ <;>
      simp [sameMembers, same_iff condition, sameMembers_iff rest]

end

instance : DecidableEq Condition := fun left right => decidable_of_iff _ (same_iff left right)

/-! ### Making conditions -/

def compared (field operator : String) (value : Literal) : Condition :=
  { field := some field, operator := some operator, value := some value }

def amongst (field operator : String) (values : List Literal) : Condition :=
  { field := some field, operator := some operator, values := values }

def valueless (field operator : String) : Condition :=
  { field := some field, operator := some operator }

def grouped (groups : List Group) : Condition :=
  { groups := some (groups.map some) }

end Condition

namespace GroupOf

def joined (operator : String) (members : List Condition) : Group :=
  ⟨some operator, members.map some⟩

def implicit (members : List Condition) : Group := ⟨none, members.map some⟩

def all (members : List Condition) : Group := joined "AND" members

def any (members : List Condition) : Group := joined "OR" members

end GroupOf

end RecordQuery
