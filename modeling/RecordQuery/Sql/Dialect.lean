import RecordQuery.Number.Digits
import RecordQuery.Sql.Predicate
import RecordQuery.Text.LetterCase

/-!
# Dialects of SQL

Dialects differ in the quotes of identifiers, in the marks for parameters and in the way in which a
column is matched with a text in the same case.
-/

namespace RecordQuery.Sql

inductive Dialect where
  | postgres
  | sqlite
  | mysql
  deriving DecidableEq, Repr

/-- A name that no dialect has. -/
structure UnknownDialect where
  name : String
  deriving DecidableEq, Repr

def UnknownDialect.message (unknown : UnknownDialect) : String :=
  s!"unknown SQL dialect '{unknown.name}'"

/-- Doubles a quote inside a text. -/
def doubled (quote : Char) (text : List Char) : List Char :=
  text.flatMap fun c => if c = quote then [c, c] else [c]

/-- The text with a backslash before each character that a comparison by `LIKE` does not take as
itself, and before the backslash. -/
def escapeLike (text : List Char) : List Char :=
  text.flatMap fun c => if c = '%' ∨ c = '_' ∨ c = '\\' then ['\\', c] else [c]

/-- The text with each character that a comparison by `GLOB` does not take as itself in a class of
its own. -/
def escapeGlob (text : List Char) : List Char :=
  text.flatMap fun c => if c = '*' ∨ c = '?' ∨ c = '[' then ['[', c, ']'] else [c]

/-- An escaped text with the wildcard where other text may stand. -/
def PatternKind.wrap (kind : PatternKind) (wildcard : Char) (escaped : List Char) : List Char :=
  match kind with
  | .anywhere => wildcard :: (escaped ++ [wildcard])
  | .atStart => escaped ++ [wildcard]
  | .atEnd => wildcard :: escaped

namespace Dialect

def name : Dialect → String
  | .postgres => "postgres"
  | .sqlite => "sqlite"
  | .mysql => "mysql"

/-- The dialect of one of its names in any case. -/
def ofName (name : String) : Except UnknownDialect Dialect :=
  let small := Text.lowerAscii name
  if small = "postgres" ∨ small = "postgresql" ∨ small = "pg" then .ok .postgres
  else if small = "sqlite" then .ok .sqlite
  else if small = "mysql" ∨ small = "mariadb" then .ok .mysql
  else .error ⟨small⟩

/-- The quote of identifiers. -/
def quoteMark : Dialect → Char
  | .postgres => '"'
  | .sqlite => '"'
  | .mysql => '\x60'

def quote (dialect : Dialect) (identifier : String) : List Char :=
  dialect.quoteMark :: (doubled dialect.quoteMark identifier.toList ++ [dialect.quoteMark])

/-- The mark of the parameter with a number, the first one having number 1. -/
def placeholder (dialect : Dialect) (number : Nat) : List Char :=
  match dialect with
  | .postgres => '$' :: Digits.decimal number
  | .sqlite => '?' :: Digits.decimal number
  | .mysql => ['?']

/-- What stands before the parameter of a pattern. -/
def patternOpening : Dialect → String
  | .postgres => " LIKE "
  | .sqlite => " GLOB "
  | .mysql => " LIKE CAST("

/-- What stands behind the parameter of a pattern. -/
def patternClosing : Dialect → String
  | .postgres => " ESCAPE '\\'"
  | .sqlite => ""
  | .mysql => " AS BINARY) ESCAPE '\\\\'"

/-- The parameter of a pattern. -/
def patternText (dialect : Dialect) (kind : PatternKind) (text : String) : String :=
  String.ofList <|
    match dialect with
    | .postgres => kind.wrap '%' (escapeLike text.toList)
    | .sqlite => kind.wrap '*' (escapeGlob text.toList)
    | .mysql => kind.wrap '%' (escapeLike text.toList)

end Dialect

end RecordQuery.Sql
