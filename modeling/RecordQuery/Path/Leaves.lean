import RecordQuery.Path.Basic

/-!
# Leaf paths

The leaves of an entity are the fields that are not replaced by fields of their own. They are listed
depth first in declared order. An entity that is already on the way from the root is not entered
again, so entities that embed each other in a circle have finitely many leaves.
-/

namespace RecordQuery.Schema

/-- The leaves below the fields `before`. The entities entered so far are `visited`; no more than
`room` further ones can be. -/
def leavesBelow (schema : Schema) :
    (room : Nat) → (visited : List String) → (before : List Segment) → List Field → List Path
  | room, visited, before, fields =>
    fields.flatMap fun field =>
      match schema.embeddedEntity? field with
      | none => [⟨before, field.segment⟩]
      | some child =>
        if visited.contains child.name then []
        else
          match room with
          | 0 => []
          | room + 1 =>
            leavesBelow schema room (child.name :: visited) (before ++ [field.segment]) child.fields

/-- The leaf paths of an entity. Every entity entered below it is one of the schema's, and none is
entered twice. -/
def leafPaths (schema : Schema) (entity : Entity) : List Path :=
  leavesBelow schema schema.entities.entries.length [entity.name] [] entity.fields

end RecordQuery.Schema
