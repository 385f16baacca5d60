import RecordQuery.Dictionary
import RecordQuery.Json.Basic
import RecordQuery.Text.LetterCase

/-!
# Keys of objects

Entries are put in ascending order of their keys, characters compared by code point, the last of
equal keys winning. Folding makes every key small and fails where two keys of one object become
the same.
-/

namespace RecordQuery

namespace Json

mutual

/-- Every object with its entries in order of keys, of equal keys the last. -/
def settle : Json → Json
  | .list items => .list (settleItems items)
  | .object entries => .object (putEntries (settleEntries entries))
  | .null => .null
  | .bool value => .bool value
  | .integer value => .integer value
  | .real value => .real value
  | .string value => .string value

def settleItems : List Json → List Json
  | [] => []
  | item :: rest => item.settle :: settleItems rest

def settleEntries : List (String × Json) → List (String × Json)
  | [] => []
  | (key, value) :: rest => (key, value.settle) :: settleEntries rest

end

/-- A key that becomes equal to an earlier one of its object when letter case is ignored. -/
structure Clash where
  key : String
  deriving DecidableEq, Repr

mutual

/-- Every key in small letters, or the first key that clashes with one before it. -/
def foldKeys : Json → Except Clash Json
  | .list items => (foldItems items).map .list
  | .object entries => (foldEntries [] entries).map .object
  | .null => .ok .null
  | .bool value => .ok (.bool value)
  | .integer value => .ok (.integer value)
  | .real value => .ok (.real value)
  | .string value => .ok (.string value)

def foldItems : List Json → Except Clash (List Json)
  | [] => .ok []
  | item :: rest => do
    let item ← item.foldKeys
    let rest ← foldItems rest
    pure (item :: rest)

/-- Folds the entries behind those already held. -/
def foldEntries (held : List (String × Json)) :
    List (String × Json) → Except Clash (List (String × Json))
  | [] => .ok held
  | (key, value) :: rest =>
    let folded := Text.lowercase key
    if (entryAt? folded held).isSome then .error ⟨key⟩
    else do
      let value ← value.foldKeys
      foldEntries (putEntry folded value held) rest

end

end Json

end RecordQuery
