import RecordQuery.Number.Binary

/-!
# Documents

A document is a tree of lists and objects over null, truth values, integers, real numbers and
text. An object keeps its entries in the order in which they were written, repeated keys
included; what a repeated key means is decided by whoever reads the object.
-/

namespace RecordQuery

/-- A document. A number written without fraction and exponent is an integer, any other is
real. -/
inductive Json where
  | null
  | bool (value : Bool)
  | integer (value : Int)
  | real (value : Double)
  | string (value : String)
  | list (items : List Json)
  | object (entries : List (String × Json))

namespace Json

instance : Inhabited Json := ⟨.null⟩

/-! ### Equality -/

mutual

def same : Json → Json → Bool
  | .null, .null => true
  | .bool left, .bool right => left == right
  | .integer left, .integer right => left == right
  | .real left, .real right => left == right
  | .string left, .string right => left == right
  | .list left, .list right => sameItems left right
  | .object left, .object right => sameEntries left right
  | _, _ => false

def sameItems : List Json → List Json → Bool
  | [], [] => true
  | left :: lefts, right :: rights => left.same right && sameItems lefts rights
  | _, _ => false

def sameEntries : List (String × Json) → List (String × Json) → Bool
  | [], [] => true
  | (leftKey, left) :: lefts, (rightKey, right) :: rights =>
    leftKey == rightKey && left.same right && sameEntries lefts rights
  | _, _ => false

end

mutual

theorem same_iff : ∀ left right : Json, left.same right = true ↔ left = right
  | .null, right => by cases right <;> simp [same]
  | .bool _, right => by cases right <;> simp [same]
  | .integer _, right => by cases right <;> simp [same]
  | .real _, right => by cases right <;> simp [same]
  | .string _, right => by cases right <;> simp [same]
  | .list items, right => by cases right <;> simp [same, sameItems_iff items]
  | .object entries, right => by cases right <;> simp [same, sameEntries_iff entries]

theorem sameItems_iff : ∀ left right : List Json, sameItems left right = true ↔ left = right
  | [], right => by cases right <;> simp [sameItems]
  | item :: rest, right => by cases right <;> simp [sameItems, same_iff item, sameItems_iff rest]

theorem sameEntries_iff :
    ∀ left right : List (String × Json), sameEntries left right = true ↔ left = right
  | [], right => by cases right <;> simp [sameEntries]
  | (key, value) :: rest, right => by
    cases right <;>
      simp [sameEntries, Prod.ext_iff, same_iff value, sameEntries_iff rest]

end

instance : DecidableEq Json := fun left right => decidable_of_iff _ (same_iff left right)

/-! ### Making documents -/

/-- An object with one entry. -/
def single (key : String) (value : Json) : Json := .object [(key, value)]

/-- An optional part of a document, null when it is absent. -/
def orNull : Option Json → Json
  | some value => value
  | none => .null

/-- An entry that is left out of its object when it has no value. -/
def entry? (key : String) : Option Json → List (String × Json)
  | some value => [(key, value)]
  | none => []

def texts (values : List String) : Json := .list (values.map .string)

mutual

/-- The nesting of lists and objects, a leaf having none. -/
def depth : Json → Nat
  | .list items => depthItems items + 1
  | .object entries => depthEntries entries + 1
  | _ => 0

def depthItems : List Json → Nat
  | [] => 0
  | item :: rest => max item.depth (depthItems rest)

def depthEntries : List (String × Json) → Nat
  | [] => 0
  | (_, value) :: rest => max value.depth (depthEntries rest)

end

end Json

end RecordQuery
