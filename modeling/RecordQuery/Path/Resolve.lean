import RecordQuery.Path.Basic
import RecordQuery.Text.Pieces

/-!
# Resolving references

A reference is cut at the delimiter. Each piece but the last must name a field that embeds an
entity, in which the next piece is looked up; the last piece names any field. A name that is not
found, also that of an embedded entity, leaves the reference unresolved; an empty piece before a
delimiter and a field without fields of its own are faults.
-/

namespace RecordQuery

/-- What is wrong with the form of a reference. -/
inductive PathFault where
  -- A piece is empty although a delimiter follows.
  | leadingDelimiter (reference : String)
  -- A field that embeds nothing has a piece behind it.
  | scalarParent (reference segment : String) (type : FieldType)
  deriving DecidableEq, Repr

namespace PathFault

def message : PathFault → String
  | .leadingDelimiter reference =>
    s!"Field '{reference}' is invalid: a path cannot begin with a delimiter."
  | .scalarParent reference segment type =>
    s!"Field '{reference}' is invalid: '{segment}' of type {type.text} cannot have child properties."

end PathFault

/-- Where references are resolved: a schema and the delimiter. -/
structure Resolver where
  schema : Schema
  delimiter : String

namespace Resolver

/-- The fields that a text selects from an entity on. The reference that the text is the end of is
named in faults. -/
@[semireducible]
def search (resolver : Resolver) (reference : String) (entity : Entity) (text : List Char) :
    Except PathFault (Option (Chain Field)) :=
  match _ : Text.cutFirst? resolver.delimiter.toList text with
  | none => .ok ((entity.findField? (String.ofList text)).map Chain.one)
  | some (before, behind) =>
    if before.isEmpty then .error (.leadingDelimiter reference)
    else
      match entity.findField? (String.ofList before) with
      | none => .ok none
      | some field =>
        match field.type.embedded? with
        | none => .error (.scalarParent reference field.name field.type)
        | some name =>
          match resolver.schema.entity? name with
          | none => .ok none
          | some child =>
            (resolver.search reference child behind).map (·.map (Chain.cons field))
termination_by text.length
decreasing_by exact Text.length_behind_lt ‹_›

/-- The fields that a reference selects from an entity on. -/
def fields (resolver : Resolver) (entity : Entity) (reference : String) :
    Except PathFault (Option (Chain Field)) :=
  resolver.search reference entity reference.toList

def resolve (resolver : Resolver) (entity : Entity) (reference : String) :
    Except PathFault (Option Path) :=
  (resolver.fields entity reference).map (·.map (Chain.map Field.segment))

def hasField (resolver : Resolver) (entity : Entity) (reference : String) : Bool :=
  match resolver.resolve entity reference with
  | .ok (some _) => true
  | _ => false

def hasFields (resolver : Resolver) (entity : Entity) (references : List String) : Bool :=
  references.all (resolver.hasField entity)

end Resolver

end RecordQuery
