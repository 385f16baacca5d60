import RecordQuery.Json.Reader
import RecordQuery.Json.Record
import RecordQuery.Operator

/-!
# Settings

What holds for every query: the pattern comparisons that are switched off, the delimiter of nested
field references and the deepest nesting of conditions.
-/

namespace RecordQuery

/-- Settings for all queries. -/
structure Settings where
  disableContains : Bool := false
  disableStartsWith : Bool := false
  disableEndsWith : Bool := false
  -- What stands between a field and a field of its own.
  delimiter : String := "."
  -- The deepest nesting of conditions, if there is a limit.
  maxDepth : Option Nat := some 64
  deriving DecidableEq, Repr

namespace Settings

/-- Is the comparison switched off for every field? -/
def disables (settings : Settings) : Comparison → Bool
  | .contains => settings.disableContains
  | .startsWith => settings.disableStartsWith
  | .endsWith => settings.disableEndsWith
  | _ => false

/-- The keys in documents, in their declared order. -/
def keys : List String :=
  ["disable_contains", "disable_starts_with", "disable_ends_with", "child_delimiter",
   "max_condition_depth"]

/-- A limit of nesting. -/
def readDepth? (document : Json) : Option Nat := document.uint64?.map UInt64.toNat

/-- Settings from a document. What is absent has its default. -/
def ofWritten? (document : Json.Written) : Option Settings := do
  let standard : Settings := {}
  match ← document.fields? keys with
  | [contains, startsWith, endsWith, delimiter, maxDepth] =>
    let disableContains ← Json.withDefault standard.disableContains (·.as? Json.bool?) contains
    let disableStartsWith ←
      Json.withDefault standard.disableStartsWith (·.as? Json.bool?) startsWith
    let disableEndsWith ← Json.withDefault standard.disableEndsWith (·.as? Json.bool?) endsWith
    let delimiter ← Json.withDefault standard.delimiter (·.as? Json.string?) delimiter
    let maxDepth ←
      Json.withDefault standard.maxDepth (·.as? (Json.nullable? readDepth?)) maxDepth
    pure { disableContains, disableStartsWith, disableEndsWith, delimiter, maxDepth }
  | _ => none

/-- The settings written by a text. -/
def ofText? (text : String) : Option Settings := (Json.Written.ofText? text).bind ofWritten?

def toJson (settings : Settings) : Json :=
  .object
    [("disable_contains", .bool settings.disableContains),
     ("disable_starts_with", .bool settings.disableStartsWith),
     ("disable_ends_with", .bool settings.disableEndsWith),
     ("child_delimiter", .string settings.delimiter),
     ("max_condition_depth", Json.orNull (settings.maxDepth.map fun n => .integer n))]

end Settings

end RecordQuery
