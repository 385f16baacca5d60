import RecordQuery.Schema.Entity

/-!
# Paths

A path leads from an entity through fields that embed other entities to a last field. It has at
least that one segment. Each segment keeps the declared name, the alias and the type of its field.
-/

namespace RecordQuery

/-- A list with a last element that is kept apart, so that it is never empty. -/
structure Chain (α : Type) where
  before : List α
  last : α
  deriving DecidableEq, Repr

namespace Chain

variable {α β : Type}

def one (last : α) : Chain α := ⟨[], last⟩

def cons (first : α) (chain : Chain α) : Chain α := { chain with before := first :: chain.before }

def toList (chain : Chain α) : List α := chain.before ++ [chain.last]

def map (f : α → β) (chain : Chain α) : Chain β := ⟨chain.before.map f, f chain.last⟩

@[simp] theorem toList_one (last : α) : (one last).toList = [last] := rfl

@[simp] theorem toList_cons (first : α) (chain : Chain α) :
    (cons first chain).toList = first :: chain.toList := rfl

@[simp] theorem toList_map (f : α → β) (chain : Chain α) :
    (chain.map f).toList = chain.toList.map f := by
  simp [toList, map]

theorem toList_injective {left right : Chain α} (same : left.toList = right.toList) :
    left = right := by
  obtain ⟨before, last⟩ := left
  obtain ⟨before', last'⟩ := right
  have parts := List.append_inj' same rfl
  simp_all

end Chain

/-- What a path keeps of a field. -/
structure Segment where
  name : String
  aliasName : Option String
  type : FieldType
  deriving DecidableEq, Repr

def Field.segment (field : Field) : Segment := ⟨field.name, field.aliasName, field.type⟩

/-- The fields from an entity to a value. -/
abbrev Path := Chain Segment

namespace Path

def names (path : Path) : List String := path.toList.map (·.name)

def name (path : Path) : String := path.last.name

def type (path : Path) : FieldType := path.last.type

/-- Does the path lead into an embedded entity? -/
def isNested (path : Path) : Bool := !path.before.isEmpty

/-- Does a segment hold a collection, the last one included? -/
def crossesCollection (path : Path) : Bool := path.toList.any (·.type.isArray)

/-- The declared names with a separator between them. -/
def join (separator : String) (path : Path) : String := separator.intercalate path.names

def text (path : Path) : String := path.join "."

/-- Is the path equal to another one or below it? Only names are compared. -/
def isUnder (path above : Path) : Bool := above.names.isPrefixOf path.names

end Path

end RecordQuery
