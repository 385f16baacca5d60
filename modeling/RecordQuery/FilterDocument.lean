import RecordQuery.Json.Keys
import RecordQuery.Plan.Basic

/-!
# Filter documents

The backend of stores that take filters as documents. A comparison is an object at the path of the
field, whose names are joined by points, and conditions are joined by lists at `$and` and `$or`.
Values that documents have no form for are wrapped, so that they keep their type.
-/

namespace RecordQuery.FilterDocument

def name : String := "document"

/-- A real number, null when it is not finite. -/
def encodeReal (x : Double) : Json := if x.isFinite then .real x else .null

/-- A value in a document. Numbers of 32 bits are widened. -/
def encode : Value → Json
  | .null => .null
  | .bool value => .bool value
  | .int32 value => .integer value.toInt
  | .int64 value => .integer value.toInt
  | .float32 value => encodeReal (value.convert .double)
  | .float64 value => encodeReal value
  | .string value => .string value
  | .timestamp micros =>
    match Timestamp.text? micros with
    | some text => Json.single "$date" (.string text)
    | none =>
      Json.single "$date" (Json.single "$numberLong"
        (.string (String.ofList (Digits.integer micros.toInt))))
  | .uuid value => Json.single "$uuid" (.string value.text)

def key (path : Path) : String := path.join "."

/-! ### Patterns -/

/-- Has the character a meaning of its own in a regular expression? -/
def isSpecial (c : Char) : Bool := "\\.+*?()|[]\x7b\x7d^$#&-~".toList.contains c

/-- The regular expression that matches a text alone. -/
def escape (text : List Char) : List Char :=
  text.flatMap fun c => if isSpecial c then ['\\', c] else [c]

/-- The regular expression of a pattern comparison. -/
def pattern? (comparison : Comparison) (text : String) : Option String :=
  let escaped := escape text.toList
  match comparison with
  | .contains => some (String.ofList escaped)
  | .startsWith => some (String.ofList ('^' :: escaped))
  | .endsWith => some (String.ofList (escaped ++ ['$']))
  | _ => none

/-! ### The backend -/

/-- The key of a comparison with a single value. -/
def singleKey? : Comparison → Option String
  | .equal => some "$eq"
  | .notEqual => some "$ne"
  | .greater => some "$gt"
  | .greaterOrEqual => some "$gte"
  | .less => some "$lt"
  | .lessOrEqual => some "$lte"
  | _ => none

/-- The key of a comparison with null. -/
def nullKey? : Comparison → Option String
  | .equal => some "$eq"
  | .notEqual => some "$ne"
  | _ => none

/-- The key of a comparison with a set. -/
def manyKey? : Comparison → Option String
  | .among => some "$in"
  | .notAmong => some "$nin"
  | _ => none

/-- What stands at the path of a comparison. -/
def test? (comparison : Comparison) : Operand → Option Json
  | .null => (nullKey? comparison).map (Json.single · .null)
  | .single value => (singleKey? comparison).map (Json.single · (encode value))
  | .many values => (manyKey? comparison).map (Json.single · (.list (values.map encode)))
  | .pattern text =>
    (pattern? comparison text).map fun regex => Json.single "$regex" (.string regex)

def compare (path : Path) (comparison : Comparison) (operand : Operand) :
    Except PlanFault Json :=
  match test? comparison operand with
  | some test => .ok (Json.single (key path) test)
  | none => .error (.unsupported name comparison)

def joinKey : Connective → String
  | .conjunction => "$and"
  | .disjunction => "$or"

/-- The fields to return or to leave out, each once. -/
def project (projection : Projection) : Json :=
  let flag : Int := match projection.kind with
    | .include => 1
    | .exclude => 0
  .object (putEntries (projection.fields.map fun field => (key field, .integer flag)))

/-- Plans as filter documents. The order is the paths with 1 upward and -1 downward. -/
def backend : Backend Json (List (String × Int)) Json where
  name := name
  supports _ := true
  checkPath _ := .ok ()
  compare := compare
  join connective parts := Json.single (joinKey connective) (.list parts)
  order keys := keys.map fun sort => (key sort.path, if sort.descending then -1 else 1)
  project := project

/-- The parts of a plan by name, in the order of their names. -/
def planParts (plan : Plan Json (List (String × Int)) Json) : List (String × Json) :=
  [("filter", Json.orNull plan.filter),
   ("limit", Json.orNull (plan.limit.map fun n => .integer n)),
   ("projection", Json.orNull plan.fields),
   ("skip", Json.orNull (plan.skip.map fun n => .integer n)),
   ("sort", .list (plan.order.map fun (path, direction) => Json.single path (.integer direction)))]

end RecordQuery.FilterDocument
