import RecordQuery.Text.LetterCase

/-!
# Operations on records

A record type may deny operations. A broad operation stands for its variants: a type that denies
reading denies reading by identifier, by filter, by query and counting. A list of denials that is
there but empty denies everything.
-/

namespace RecordQuery

/-- What is done to records. -/
inductive Operation where
  | create
  | read
  | readById
  | readByFilter
  | readByQuery
  | readCount
  | update
  | partialUpdate
  | partialUpdateById
  | partialUpdateByFilter
  | delete
  | deleteById
  | deleteByFilter
  | deleteByQuery
  deriving DecidableEq, Repr

namespace Operation

def all : List Operation :=
  [.create, .read, .readById, .readByFilter, .readByQuery, .readCount, .update, .partialUpdate,
   .partialUpdateById, .partialUpdateByFilter, .delete, .deleteById, .deleteByFilter,
   .deleteByQuery]

def name : Operation → String
  | .create => "Create"
  | .read => "Read"
  | .readById => "ReadById"
  | .readByFilter => "ReadByFilter"
  | .readByQuery => "ReadByQuery"
  | .readCount => "ReadCount"
  | .update => "Update"
  | .partialUpdate => "PartialUpdate"
  | .partialUpdateById => "PartialUpdateById"
  | .partialUpdateByFilter => "PartialUpdateByFilter"
  | .delete => "Delete"
  | .deleteById => "DeleteById"
  | .deleteByFilter => "DeleteByFilter"
  | .deleteByQuery => "DeleteByQuery"

/-- The broad operation that an operation is a variant of. -/
def broader? : Operation → Option Operation
  | .readById => some .read
  | .readByFilter => some .read
  | .readByQuery => some .read
  | .readCount => some .read
  | .partialUpdateById => some .partialUpdate
  | .partialUpdateByFilter => some .partialUpdate
  | .deleteById => some .delete
  | .deleteByFilter => some .delete
  | .deleteByQuery => some .delete
  | .create => none
  | .read => none
  | .update => none
  | .partialUpdate => none
  | .delete => none

def ofName? (name : String) : Option Operation := all.find? (·.name == name)

/-- A name that no operation has. -/
structure UnknownName where
  name : String
  deriving DecidableEq, Repr

def UnknownName.message (unknown : UnknownName) : String :=
  s!"unknown CRUD operation: {unknown.name}"

/-- The operation of a name in any case. -/
def ofAnyCase (name : String) : Except UnknownName Operation :=
  match all.find? fun operation => Text.sameName operation.name name with
  | some operation => .ok operation
  | none => .error ⟨name⟩

/-- Is the operation permitted by a list of denials? Without a list everything is. -/
def isPermitted (denied : Option (List Operation)) (operation : Operation) : Bool :=
  match denied with
  | none => true
  | some denied =>
    !denied.isEmpty && !denied.contains operation &&
      match operation.broader? with
      | some broad => !denied.contains broad
      | none => true

theorem mem_all (operation : Operation) : operation ∈ all := by
  cases operation <;> decide

theorem ofName?_name (operation : Operation) : ofName? operation.name = some operation := by
  cases operation <;> rfl

end Operation

end RecordQuery
