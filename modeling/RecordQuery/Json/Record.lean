import RecordQuery.Json.Keys
import RecordQuery.Json.Written
import RecordQuery.Number.Width

/-!
# Records in documents

A record is an object whose known keys stand at most once, other keys being ignored, or a list of
the fields in their declared order that may stop early. Reading it gives for each field the part
found there, or nothing. In a document as written only the fields have to have a value: what stands
at another key need not.
-/

namespace RecordQuery.Json

/-- How often a key stands among the entries. -/
def occurrences {α : Type} (key : String) (entries : List (String × α)) : Nat :=
  entries.countP (·.1 == key)

/-- The fields among the entries of an object. -/
def fieldsByName? {α : Type} (names : List String) (entries : List (String × α)) :
    Option (List (Option α)) :=
  if names.any fun name => 1 < occurrences name entries then none
  else some (names.map (entryAt? · entries))

/-- The fields that the items of a list are. -/
def fieldsInOrder? {α : Type} (names : List String) (items : List α) :
    Option (List (Option α)) :=
  if names.length < items.length then none
  else some (items.map some ++ List.replicate (names.length - items.length) none)

def fields? (names : List String) : Json → Option (List (Option Json))
  | .list items => fieldsInOrder? names items
  | .object entries => fieldsByName? names entries
  | _ => none

/-! ### Leaves -/

def bool? : Json → Option Bool
  | .bool value => some value
  | _ => none

def string? : Json → Option String
  | .string value => some value
  | _ => none

/-- An integer of 64 bits with sign. -/
def int64? : Json → Option Int64
  | .integer n => Width.int64? n
  | _ => none

/-- An integer of 32 bits with sign. -/
def int32? : Json → Option Int32
  | .integer n => Width.int32? n
  | _ => none

/-- An integer of 64 bits without sign. -/
def uint64? : Json → Option UInt64
  | .integer n => Width.uint64? n
  | _ => none

def uint8? : Json → Option UInt8
  | .integer n => Width.uint8? n
  | _ => none

/-- A number in a binary format, rounded if it has to be. -/
def number? (format : FloatFormat) : Json → Option (Binary format)
  | .integer n => some (Binary.ofInt format n)
  | .real x => some (x.convert format)
  | _ => none

/-- A list whose items are all readable. -/
def list? {α : Type} (read : Json → Option α) : Json → Option (List α)
  | .list items => items.mapM read
  | _ => none

/-- Nothing for null, otherwise a value. -/
def nullable? {α : Type} (read : Json → Option α) : Json → Option (Option α)
  | .null => some none
  | document => (read document).map some

/-! ### Fields -/

/-- A field that must be there. -/
def required {α β : Type} (read : β → Option α) : Option β → Option α
  | some part => read part
  | none => none

/-- A field with a value for when it is absent. -/
def withDefault {α β : Type} (default : α) (read : β → Option α) : Option β → Option α
  | some part => read part
  | none => some default

/-- A field that may be absent or null. -/
def optional {α : Type} (read : Json → Option α) : Option Json → Option (Option α) :=
  withDefault none (nullable? read)

/-- A list that is empty when it is absent or null. -/
def listOrNone {α : Type} (read : Json → Option α) (field : Option Json) : Option (List α) :=
  (optional (list? read) field).map (·.getD [])

/-! ### Records as written -/

namespace Written

/-- The entries of an object, whose keys must all have a value. -/
def entries? : Written → Option (List (String × Written))
  | .object entries => entries.mapM fun (key, part) => key.map fun key => (key, part)
  | _ => none

def namedFields? (names : List String) (document : Written) : Option (List (Option Written)) :=
  document.entries?.bind (fieldsByName? names)

def fields? (names : List String) : Written → Option (List (Option Written))
  | .list items => fieldsInOrder? names items
  | document => document.namedFields? names

/-- Reads a part that must have a value. -/
def as? {α : Type} (read : Json → Option α) (part : Written) : Option α := part.value?.bind read

/-- A list whose items are all readable. -/
def list? {α : Type} (read : Written → Option α) : Written → Option (List α)
  | .list items => items.mapM read
  | _ => none

/-- A field that may be absent or null. -/
def optional {α : Type} (read : Written → Option α) : Option Written → Option (Option α)
  | some (.leaf (some .null)) => some none
  | some part => (read part).map some
  | none => some none

end Written

end RecordQuery.Json
