import RecordQuery.Number.Reading
import RecordQuery.Operation
import RecordQuery.Sql.Dialect

/-!
# Parameters of the command line

The options of the program with their spellings, which of them each command takes and needs, and
which texts are values of them.
-/

namespace RecordQuery.CommandLine

/-- How results are printed. -/
inductive Format where
  | json
  | text
  deriving DecidableEq, Repr

/-- The format of a name. -/
def Format.ofName? (name : String) : Option Format :=
  if name = "json" then some .json else if name = "text" then some .text else none

/-- What plans are made for. -/
inductive StoreKind where
  | document
  | relational
  deriving DecidableEq, Repr

/-- The kind of store of a name. -/
def StoreKind.ofName? (name : String) : Option StoreKind :=
  if name = "document" then some .document
  else if name = "relational" then some .relational
  else none

/-- The limit that a text gives, a natural number of 64 bits with an optional plus. Zero means that
there is none. -/
def readLimit? (text : String) : Option (Option Nat) :=
  let digits := match text.toList with
    | '+' :: rest => rest
    | digits => digits
  (Numeral.natural? digits).bind fun n =>
    if UInt64.size ≤ n then none else if n = 0 then some none else some (some n)

/-- An option. -/
inductive Parameter where
  | format
  | disableContains
  | disableStartsWith
  | disableEndsWith
  | delimiter
  | maxDepth
  | schema
  | entity
  | query
  | operation
  | backend
  | dialect
  | table
  deriving DecidableEq, Repr

namespace Parameter

/-- The name behind two hyphens. -/
def long : Parameter → String
  | .format => "format"
  | .disableContains => "disable-contains"
  | .disableStartsWith => "disable-starts-with"
  | .disableEndsWith => "disable-ends-with"
  | .delimiter => "delimiter"
  | .maxDepth => "max-depth"
  | .schema => "schema"
  | .entity => "entity"
  | .query => "query"
  | .operation => "operation"
  | .backend => "backend"
  | .dialect => "dialect"
  | .table => "table"

/-- The letter behind one hyphen. -/
def letter? : Parameter → Option Char
  | .schema => some 's'
  | .entity => some 'e'
  | .query => some 'q'
  | .operation => some 'o'
  | _ => none

/-- Has the option a value? -/
def takesValue : Parameter → Bool
  | .disableContains => false
  | .disableStartsWith => false
  | .disableEndsWith => false
  | _ => true

/-- Is the text a value of the option? -/
def accepts (parameter : Parameter) (value : String) : Bool :=
  match parameter with
  | .format => (Format.ofName? value).isSome
  | .maxDepth => (readLimit? value).isSome
  | .operation => (Operation.ofAnyCase value).toOption.isSome
  | .backend => (StoreKind.ofName? value).isSome
  | .dialect => (Sql.Dialect.ofName value).toOption.isSome
  | _ => true

/-- The options that hold for every command. -/
def shared : List Parameter :=
  [.format, .disableContains, .disableStartsWith, .disableEndsWith, .delimiter, .maxDepth]

end Parameter

/-- What the program is asked to do. -/
inductive Verb where
  | validate
  | compile
  | allows
  deriving DecidableEq, Repr

namespace Verb

/-- The verb of a name. -/
def ofName? (name : String) : Option Verb :=
  if name = "validate" then some .validate
  else if name = "compile" then some .compile
  else if name = "allows" then some .allows
  else none

/-- The options that must be given. -/
def needed : Verb → List Parameter
  | .validate => [.schema, .entity, .query]
  | .compile => [.schema, .entity, .query]
  | .allows => [.schema, .entity, .operation]

/-- The options that may stand behind the verb. -/
def known : Verb → List Parameter
  | .validate => needed .validate ++ Parameter.shared
  | .compile => needed .compile ++ [.backend, .dialect, .table] ++ Parameter.shared
  | .allows => needed .allows ++ Parameter.shared

end Verb

end RecordQuery.CommandLine
