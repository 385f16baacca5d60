import RecordQuery.CommandLine.Parameter
import RecordQuery.Settings

/-!
# Invocations

The arguments of the program are options, a verb and more options. Options that hold for every
command may stand on both sides of the verb, and those behind it win. A value is attached to its
option by an equals sign, or directly to the letter of one, or is the next argument, which then
must not look like an option. On neither side may an option stand twice.
-/

namespace RecordQuery.CommandLine

/-- What an argument is by itself. -/
inductive Form where
  | word
  -- The mark behind which nothing is an option.
  | ending
  | option (parameter : Parameter) (attached : Option String)
  | unknown
  deriving DecidableEq, Repr

/-- The form of an argument where some options are known. -/
def form (known : List Parameter) (argument : String) : Form :=
  match argument.toList with
  | ['-', '-'] => .ending
  | '-' :: '-' :: rest =>
    let name := rest.takeWhile (· != '=')
    let attached := match rest.dropWhile (· != '=') with
      | _ :: value => some (String.ofList value)
      | [] => none
    match known.find? (·.long.toList == name) with
    | some parameter => .option parameter attached
    | none => .unknown
  | '-' :: letter :: rest =>
    let attached := match rest with
      | [] => none
      | '=' :: value => some (String.ofList value)
      | value => some (String.ofList value)
    match known.find? (·.letter? == some letter) with
    | some parameter => .option parameter attached
    | none => .unknown
  | _ => .word

/-- Options with their values, which are empty for those that take none. -/
abbrev Given := List (Parameter × String)

/-- The options at the head of the arguments, up to the first word. -/
def readOptions? (known : List Parameter) : List String → Option (Given × List String)
  | [] => some ([], [])
  | argument :: rest =>
    match form known argument with
    | .word => some ([], argument :: rest)
    | .ending => if rest.isEmpty then some ([], []) else none
    | .unknown => none
    | .option parameter attached =>
      match parameter.takesValue, attached with
      | false, none =>
        (readOptions? known rest).map fun (given, rest) => ((parameter, "") :: given, rest)
      | false, some _ => none
      | true, some value =>
        (readOptions? known rest).map fun (given, rest) => ((parameter, value) :: given, rest)
      | true, none =>
        match rest with
        | [] => none
        | value :: rest =>
          if form known value = .word then
            (readOptions? known rest).map fun (given, rest) => ((parameter, value) :: given, rest)
          else none

namespace Given

/-- Does each option stand once, with a value that it accepts? -/
def isProper (given : Given) : Bool :=
  decide (given.map (·.1)).Nodup && given.all fun (parameter, value) => parameter.accepts value

/-- The value of an option, the first one of several. -/
def value? (given : Given) (parameter : Parameter) : Option String := given.lookup parameter

/-- Is the option given? -/
def has (given : Given) (parameter : Parameter) : Bool := (given.value? parameter).isSome

def settings (given : Given) : Settings :=
  let standard : Settings := {}
  { disableContains := given.has .disableContains
    disableStartsWith := given.has .disableStartsWith
    disableEndsWith := given.has .disableEndsWith
    delimiter := (given.value? .delimiter).getD standard.delimiter
    maxDepth := ((given.value? .maxDepth).bind readLimit?).getD standard.maxDepth }

def format (given : Given) : Format :=
  ((given.value? .format).bind Format.ofName?).getD .json

end Given

/-- What a plan is made for. -/
inductive Store where
  | document
  -- A table, which is named like the entity unless it has a name of its own.
  | relational (dialect : Sql.Dialect) (table : Option String)
  deriving DecidableEq, Repr

namespace Given

/-- What a plan is made for. -/
def store (given : Given) : Store :=
  match ((given.value? .backend).bind StoreKind.ofName?).getD .document with
  | .document => .document
  | .relational =>
    let dialect := (given.value? .dialect).bind fun name => (Sql.Dialect.ofName name).toOption
    .relational (dialect.getD .postgres) (given.value? .table)

end Given

/-- What is done with an entity of a schema. -/
inductive Command where
  -- Judges a query, which is written in the argument or in a file.
  | validate (query : String)
  -- Judges a query and makes a plan of it.
  | compile (query : String) (store : Store)
  -- Tells whether an operation is permitted.
  | allows (operation : Operation)
  deriving DecidableEq, Repr

/-- A use of the program. -/
structure Invocation where
  format : Format
  settings : Settings
  -- The file of the schema.
  schema : String
  entity : String
  command : Command
  deriving DecidableEq, Repr

namespace Invocation

/-- The invocation of a verb with options. -/
def ofGiven? (verb : Verb) (given : Given) : Option Invocation := do
  let schema ← given.value? .schema
  let entity ← given.value? .entity
  let command ← match verb with
    | .validate => (given.value? .query).map .validate
    | .compile => (given.value? .query).map fun query => .compile query given.store
    | .allows => do
      let name ← given.value? .operation
      let operation ← (Operation.ofAnyCase name).toOption
      pure (.allows operation)
  pure { format := given.format, settings := given.settings, schema, entity, command }

/-- The invocation that the arguments write. -/
def ofArguments? (arguments : List String) : Option Invocation := do
  let (before, rest) ← readOptions? Parameter.shared arguments
  match rest with
  | [] => none
  | name :: rest =>
    let verb ← Verb.ofName? name
    let (behind, rest) ← readOptions? verb.known rest
    if rest.isEmpty && Given.isProper before && Given.isProper behind then
      ofGiven? verb (behind ++ before)
    else none

end Invocation

end RecordQuery.CommandLine
