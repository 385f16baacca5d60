import RecordQuery.Dictionary
import RecordQuery.Request.Condition

/-!
# Queries and filters

A query asks for records of one type: which fields of them, under which condition, in which order
and which page. A filter is the short form for reading or changing by equality: a value, or null,
for each of some fields.
-/

namespace RecordQuery

/-- A field to order by, ascending unless it says otherwise. -/
structure OrderKey where
  field : Option String
  descending : Option Bool
  deriving DecidableEq

namespace OrderKey

def ascendingBy (field : String) : OrderKey := ⟨some field, none⟩

def descendingBy (field : String) : OrderKey := ⟨some field, some true⟩

/-- Does the key order downward? -/
def isDescending (key : OrderKey) : Bool := key.descending.getD false

end OrderKey

/-- A request for records of one type. -/
structure Query where
  -- The only fields to return, if there are any.
  includes : List String := []
  -- The fields to leave out.
  excludes : List String := []
  condition : Option Condition := none
  -- The fields to order by, the first one first.
  order : List OrderKey := []
  -- The greatest number of records to return.
  limit : Option Int64 := none
  -- The number of records to pass over.
  skip : Option Int64 := none
  deriving DecidableEq

/-- A value or null for each of some fields. -/
abbrev Filter := Dictionary (Option Literal)

end RecordQuery
