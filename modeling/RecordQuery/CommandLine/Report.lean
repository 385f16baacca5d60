import RecordQuery.CommandLine.Parameter
import RecordQuery.FilterDocument
import RecordQuery.Json.Printer
import RecordQuery.Sql.Relational

/-!
# Reports

What the program prints: a verdict, a plan for documents, a statement with its parameters, or the
answer to whether an operation is permitted, each as a document or as plain text.
-/

namespace RecordQuery.CommandLine

/-- A result for printing. -/
inductive Report where
  | verdict (judgement : Verdict)
  -- The parts of a plan for documents, by name.
  | plan (parts : List (String × Json))
  | statement (fragment : Sql.Fragment)
  | permission (entity : String) (operation : Operation) (allowed : Bool)

namespace Report

/-- A parameter as a plain document: timestamps and identifiers are texts. -/
def parameterJson : Value → Json
  | .timestamp micros =>
    match Timestamp.text? micros with
    | some text => .string text
    | none => .integer micros.toInt
  | .uuid value => .string value.text
  | value => FilterDocument.encode value

/-- The result as a document. -/
def toJson : Report → Json
  | .verdict judgement =>
    .object (("isValid", .bool judgement.isValid) ::
      Json.entry? "message" (judgement.message.map .string))
  | .plan parts => .object parts
  | .statement fragment =>
    .object [("params", .list (fragment.parameters.map parameterJson)),
      ("sql", .string fragment.sql)]
  | .permission entity operation allowed =>
    .object [("allowed", .bool allowed), ("entity", .string entity),
      ("operation", .string operation.name)]

/-- A verdict in words. -/
def verdictText (judgement : Verdict) : String :=
  match judgement.isValid, judgement.message with
  | false, some message => s!"invalid: {message}"
  | _, _ => "valid"

/-- The lines of the parameters from a number on. -/
def parameterLines (number : Nat) : List Value → String
  | [] => ""
  | value :: rest =>
    let mark := String.ofList (Digits.decimal number)
    s!"\n  {mark} = {value.text} ({value.typeName})" ++ parameterLines (number + 1) rest

/-- The parts of a plan that are not null, a line each. -/
def planText (parts : List (String × Json)) : String :=
  "\n".intercalate ((parts.filter (·.2 != .null)).map fun (key, part) =>
    s!"{key}: {part.compact}")

/-- The result in plain text. -/
def plainText : Report → String
  | .verdict judgement => verdictText judgement
  | .plan parts => planText parts
  | .statement fragment => fragment.sql ++ parameterLines 1 fragment.parameters
  | .permission entity operation allowed =>
    let answer := if allowed then "allows" else "denies"
    s!"{entity} {answer} {operation.name}"

/-- The result in a format. -/
def text (report : Report) : Format → String
  | .json => report.toJson.pretty
  | .text => report.plainText

end Report

end RecordQuery.CommandLine
