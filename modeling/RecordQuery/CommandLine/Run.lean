import RecordQuery.CommandLine.Invocation
import RecordQuery.CommandLine.Report
import RecordQuery.Request.Document
import RecordQuery.Schema.Document
import RecordQuery.Text.Blank

/-!
# Runs

What the program prints for its arguments and the files that it finds, and its exit code: 0 for a
request that is acceptable or an operation that is permitted, 1 for one that is not, 2 where there
is nothing to judge.
-/

namespace RecordQuery.CommandLine

/-- Why there is nothing to judge. -/
inductive Failure where
  | usage
  | missingFile (file : String)
  | invalidSchema (file : String)
  | invalidQuery
  | unknownEntity (unknown : UnknownEntity)
  | defect (fault : QueryFault)
  deriving DecidableEq, Repr

def Failure.message : Failure → String
  | .usage => "the arguments are not understood"
  | .missingFile file => s!"failed to read {file}"
  | .invalidSchema file => s!"invalid schema {file}"
  | .invalidQuery => "invalid query document"
  | .unknownEntity unknown => unknown.message
  | .defect fault => fault.message

inductive Outcome where
  | passed (output : String)
  | failed (output : String)
  | aborted (failure : Failure)
  deriving DecidableEq, Repr

namespace Outcome

def exitCode : Outcome → Nat
  | .passed _ => 0
  | .failed _ => 1
  | .aborted _ => 2

/-- What is printed: a line for a judgement and nothing where there is none. -/
def printed : Outcome → String
  | .passed output => output ++ "\n"
  | .failed output => output ++ "\n"
  | .aborted _ => ""

/-- A result of a success or a failure. -/
def judged (success : Bool) (output : String) : Outcome :=
  if success then .passed output else .failed output

end Outcome

/-- The contents of files by name. -/
abbrev Files := String → Option String

def readFile (files : Files) (file : String) : Except Failure String :=
  match files file with
  | some contents => .ok contents
  | none => .error (.missingFile file)

/-- Is the argument the query itself and not the name of a file? -/
def isInline (query : String) : Bool := (Text.trimStart query.toList).head? == some '\x7b'

def readSchema (files : Files) (file : String) : Except Failure Schema := do
  let contents ← readFile files file
  match Schema.ofText? contents with
  | some schema => .ok schema
  | none => .error (.invalidSchema file)

/-- The query that an argument gives. -/
def readQuery (files : Files) (query : String) : Except Failure Query := do
  let contents ← if isInline query then .ok query else readFile files query
  match Query.ofText contents with
  | .ok query => .ok query
  | .error _ => .error .invalidQuery

namespace Invocation

/-- The report on a verdict. -/
def reportVerdict (invocation : Invocation) (verdict : Verdict) : Outcome :=
  .judged verdict.isValid ((Report.verdict verdict).text invocation.format)

/-- The report on a plan, or on why there is none. -/
def reportPlan {α : Type} (invocation : Invocation) (report : α → Report) :
    Except QueryFault α → Outcome
  | .ok plan => .passed ((report plan).text invocation.format)
  | .error fault =>
    if fault.isInternal then .aborted (.defect fault)
    else invocation.reportVerdict (.invalid fault.message)

def compile (invocation : Invocation) (schema : Schema) (query : Query) : Store → Outcome
  | .document =>
    let planner : Planner _ _ _ := ⟨schema, invocation.settings, FilterDocument.backend⟩
    invocation.reportPlan (fun plan => .plan (FilterDocument.planParts plan))
      (planner.planChecked invocation.entity query)
  | .relational dialect table =>
    let planner : Planner _ _ _ := ⟨schema, invocation.settings, Sql.Relational.backend⟩
    let table := table.getD invocation.entity
    invocation.reportPlan (fun plan => .statement (Sql.select dialect table plan))
      (planner.planChecked invocation.entity query)

def tellPermission (invocation : Invocation) (schema : Schema) (operation : Operation) : Outcome :=
  match schema.entity invocation.entity with
  | .error unknown => .aborted (.unknownEntity unknown)
  | .ok entity =>
    let allowed := entity.permits operation
    .judged allowed ((Report.permission entity.name operation allowed).text invocation.format)

def run (invocation : Invocation) (files : Files) : Outcome :=
  match readSchema files invocation.schema with
  | .error failure => .aborted failure
  | .ok schema =>
    match invocation.command with
    | .validate query =>
      match readQuery files query with
      | .error failure => .aborted failure
      | .ok query =>
        let validator : Validator := ⟨schema, invocation.settings⟩
        invocation.reportVerdict (validator.verdict invocation.entity query)
    | .compile query store =>
      match readQuery files query with
      | .error failure => .aborted failure
      | .ok query => invocation.compile schema query store
    | .allows operation => invocation.tellPermission schema operation

/-- The query argument of a command that has one. -/
def query? : Command → Option String
  | .validate query => some query
  | .compile query _ => some query
  | .allows _ => none

/-- The files that an invocation reads. -/
def files (invocation : Invocation) : List String :=
  invocation.schema :: ((query? invocation.command).filter (!isInline ·)).toList

end Invocation

/-- Runs the program with some arguments. -/
def run (arguments : List String) (files : Files) : Outcome :=
  match Invocation.ofArguments? arguments with
  | some invocation => invocation.run files
  | none => .aborted .usage

end RecordQuery.CommandLine
