import RecordQuery.Json.Reader
import RecordQuery.Json.Record
import RecordQuery.Request.Query

/-!
# Requests as documents

Requests are read from documents whose keys may be in any letter case, and written with keys in
camel case. Reading first makes every key small, which fails when two keys of one object become
equal, and then reads the records; parts that may be empty are left out when they are written.
-/

namespace RecordQuery

/-- Why a request cannot be read. -/
inductive RequestFault where
  -- The text is no document, or not one of the right shape.
  | unreadable
  -- Two keys of an object differ only in case.
  | duplicateKey (key : String)
  deriving DecidableEq, Repr

namespace RequestFault

def message : RequestFault → String
  | .unreadable => "invalid request body"
  | .duplicateKey key =>
    s!"invalid request body: key '{key}' is given more than once (keys are case-insensitive)"

end RequestFault

/-! ### Literals -/

namespace Literal

/-- Integers beyond 64 bits are taken as real numbers. -/
def ofJson? : Json → Option Literal
  | .bool value => some (.bool value)
  | .integer n =>
    match Width.int64? n with
    | some narrow => some (.integer narrow)
    | none => some (.real (Binary.ofInt .double n))
  | .real value => some (.real value)
  | .string value => some (.string value)
  | .null => none
  | .list _ => none
  | .object _ => none

def toJson : Literal → Json
  | .bool value => .bool value
  | .integer value => .integer value.toInt
  | .real value => if value.isFinite then .real value else .null
  | .string value => .string value

end Literal

/-! ### Conditions -/

namespace Condition

/-- The small keys of a condition, in their declared order. -/
def keys : List String :=
  ["field", "comparisonoperator", "value", "values", "groupedconditions"]

/-- The small keys of a group. -/
def groupKeys : List String := ["logicaloperator", "conditions"]

mutual

/-- A condition from a document that nests no deeper than `depth`. -/
def read? : (depth : Nat) → Json → Option Condition
  | 0, _ => none
  | depth + 1, document => do
    match ← document.fields? keys with
    | [field, operator, value, values, groups] =>
      let field ← Json.optional Json.string? field
      let operator ← Json.optional Json.string? operator
      let value ← Json.optional Literal.ofJson? value
      let values ← Json.listOrNone Literal.ofJson? values
      let groups ← Json.optional (Json.list? (Json.nullable? (readGroup? depth))) groups
      pure { field, operator, value, values, groups }
    | _ => none

/-- A group from a document that nests no deeper than `depth`. -/
def readGroup? : (depth : Nat) → Json → Option Group
  | 0, _ => none
  | depth + 1, document => do
    match ← document.fields? groupKeys with
    | [operator, members] =>
      let operator ← Json.optional Json.string? operator
      let members ← Json.listOrNone (Json.nullable? (read? depth)) members
      pure { operator, members }
    | _ => none

end

/-- A condition from a document with small keys. -/
def ofSmallKeys? (document : Json) : Option Condition := read? document.depth document

mutual

def toJson : Condition → Json
  | ⟨field, operator, value, values, groups⟩ =>
    .object <|
      Json.entry? "field" (field.map .string) ++
      Json.entry? "comparisonOperator" (operator.map .string) ++
      Json.entry? "value" (value.map Literal.toJson) ++
      (if values.isEmpty then [] else [("values", .list (values.map Literal.toJson))]) ++
      match groups with
      | none => []
      | some groups => [("groupedConditions", .list (groupsToJson groups))]

def groupsToJson : List (Option Group) → List Json
  | [] => []
  | none :: rest => .null :: groupsToJson rest
  | some ⟨operator, members⟩ :: rest =>
    .object (Json.entry? "logicalOperator" (operator.map .string) ++
      [("conditions", .list (membersToJson members))]) :: groupsToJson rest

def membersToJson : List (Option Condition) → List Json
  | [] => []
  | none :: rest => .null :: membersToJson rest
  | some condition :: rest => condition.toJson :: membersToJson rest

end

end Condition

/-! ### Queries -/

namespace OrderKey

/-- The small keys of an order key. -/
def keys : List String := ["field", "isdescending"]

/-- An order key from a document with small keys. -/
def ofSmallKeys? (document : Json) : Option OrderKey := do
  match ← document.fields? keys with
  | [field, descending] =>
    let field ← Json.optional Json.string? field
    let descending ← Json.optional Json.bool? descending
    pure { field, descending }
  | _ => none

def toJson (key : OrderKey) : Json :=
  .object (("field", Json.orNull (key.field.map .string)) ::
    Json.entry? "isDescending" (key.descending.map .bool))

end OrderKey

namespace Query

/-- The small keys of a query. -/
def keys : List String := ["includes", "excludes", "where", "orderby", "limit", "skip"]

/-- A query from a document with small keys. -/
def ofSmallKeys? (document : Json) : Option Query := do
  match ← document.fields? keys with
  | [includes, excludes, condition, order, limit, skip] =>
    let includes ← Json.listOrNone Json.string? includes
    let excludes ← Json.listOrNone Json.string? excludes
    let condition ← Json.optional Condition.ofSmallKeys? condition
    let order ← Json.listOrNone OrderKey.ofSmallKeys? order
    let limit ← Json.optional Json.int64? limit
    let skip ← Json.optional Json.int64? skip
    pure { includes, excludes, condition, order, limit, skip }
  | _ => none

def toJson (query : Query) : Json :=
  .object <|
    [("includes", Json.texts query.includes), ("excludes", Json.texts query.excludes)] ++
    Json.entry? "where" (query.condition.map Condition.toJson) ++
    [("orderBy", .list (query.order.map OrderKey.toJson))] ++
    Json.entry? "limit" (query.limit.map fun n => .integer n.toInt) ++
    Json.entry? "skip" (query.skip.map fun n => .integer n.toInt)

end Query

/-! ### Reading -/

/-- Reads a document after making its keys small. -/
def readFolded {α : Type} (read : Json → Option α) (document : Json) : Except RequestFault α :=
  match document.foldKeys with
  | .error clash => .error (.duplicateKey clash.key)
  | .ok folded =>
    match read folded with
    | some value => .ok value
    | none => .error .unreadable

/-- Reads a text as a document with settled keys, and the document by `read`. -/
def readText {α : Type} (read : Json → Except RequestFault α) (text : String) :
    Except RequestFault α :=
  match Json.ofText? text with
  | some document => read document.settle
  | none => .error .unreadable

/-- The query of a document. -/
def Query.ofJson : Json → Except RequestFault Query := readFolded Query.ofSmallKeys?

/-- The query written by a text. -/
def Query.ofText : String → Except RequestFault Query := readText Query.ofJson

/-- The condition of a document. -/
def Condition.ofJson : Json → Except RequestFault Condition := readFolded Condition.ofSmallKeys?

/-- The condition written by a text. -/
def Condition.ofText : String → Except RequestFault Condition := readText Condition.ofJson

/-- The filter of a document: an object of literals and nulls, the last of equal keys winning. -/
def Filter.ofJson? : Json → Option Filter
  | .object entries => do
    let entries ← entries.mapM fun (key, value) =>
      (Json.nullable? Literal.ofJson? value).map fun value => (key, value)
    pure (Dictionary.ofList entries)
  | _ => none

/-- The filter written by a text. -/
def Filter.ofText (text : String) : Except RequestFault Filter :=
  match (Json.ofText? text).bind Filter.ofJson? with
  | some filter => .ok filter
  | none => .error .unreadable

end RecordQuery
