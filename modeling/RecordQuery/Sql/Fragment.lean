import RecordQuery.Sql.Dialect

/-!
# Written SQL

Values never stand in the text: each is a parameter, marked in the text by its number. Writing is a
function of the number of parameters already given, so that the parts of a statement can be put one
after the other.
-/

namespace RecordQuery.Sql

/-- Text with marks, and the parameters in the order of their marks. -/
structure Fragment where
  text : List Char
  parameters : List Value
  deriving DecidableEq

def Fragment.sql (fragment : Fragment) : String := String.ofList fragment.text

/-- What is written after some number of parameters. -/
abbrev Writer := (given : Nat) → Fragment

namespace Writer

def ofChars (text : List Char) : Writer := fun _ => ⟨text, []⟩

def ofString (text : String) : Writer := ofChars text.toList

def nothing : Writer := ofChars []

/-- One part after the other. -/
def append (first second : Writer) : Writer := fun given =>
  let head := first given
  let tail := second (given + head.parameters.length)
  ⟨head.text ++ tail.text, head.parameters ++ tail.parameters⟩

instance : Append Writer := ⟨append⟩

def parameter (dialect : Dialect) (value : Value) : Writer := fun given =>
  ⟨dialect.placeholder (given + 1), [value]⟩

def identifier (dialect : Dialect) (name : String) : Writer := ofChars (dialect.quote name)

/-- Parts with a separator between them. -/
def separated (separator : String) : List Writer → Writer
  | [] => nothing
  | [part] => part
  | part :: rest => part ++ ofString separator ++ separated separator rest

section Lemmas

variable (first second : Writer) (given : Nat)

@[simp] theorem text_append :
    ((first ++ second) given).text =
      (first given).text ++ (second (given + (first given).parameters.length)).text := rfl

@[simp] theorem parameters_append :
    ((first ++ second) given).parameters =
      (first given).parameters ++
        (second (given + (first given).parameters.length)).parameters := rfl

@[simp] theorem text_ofString (text : String) : (ofString text given).text = text.toList := rfl

@[simp] theorem parameters_ofString (text : String) : (ofString text given).parameters = [] := rfl

@[simp] theorem text_identifier (dialect : Dialect) (name : String) :
    (identifier dialect name given).text = dialect.quote name := rfl

@[simp] theorem parameters_identifier (dialect : Dialect) (name : String) :
    (identifier dialect name given).parameters = [] := rfl

@[simp] theorem text_parameter (dialect : Dialect) (value : Value) :
    (parameter dialect value given).text = dialect.placeholder (given + 1) := rfl

@[simp] theorem parameters_parameter (dialect : Dialect) (value : Value) :
    (parameter dialect value given).parameters = [value] := rfl

theorem parameters_separated_cons (separator : String) (others : List Writer) :
    (separated separator (first :: others) given).parameters =
      (first given).parameters ++
        (separated separator others (given + (first given).parameters.length)).parameters := by
  cases others with
  | nil => exact (List.append_nil _).symm
  | cons next more => simp [separated]

end Lemmas

end Writer

namespace Predicate

/-- A list of parameters in parentheses. -/
def writeList (dialect : Dialect) (values : List Value) : Writer :=
  .ofString "(" ++ .separated ", " (values.map (Writer.parameter dialect)) ++ .ofString ")"

def writeConstant (truth : Bool) : Writer := .ofString (if truth then "1 = 1" else "1 = 0")

mutual

/-- The predicate in a dialect. -/
def write (dialect : Dialect) : Predicate → Writer
  | .compare column op value =>
    .identifier dialect column ++ .ofString " " ++ .ofString op.text ++ .ofString " " ++
      .parameter dialect value
  | .isNull column => .identifier dialect column ++ .ofString " IS NULL"
  | .isNotNull column => .identifier dialect column ++ .ofString " IS NOT NULL"
  | .among column values =>
    .identifier dialect column ++ .ofString " IN " ++ writeList dialect values
  | .notAmong column values =>
    .identifier dialect column ++ .ofString " NOT IN " ++ writeList dialect values
  | .pattern column kind text =>
    .identifier dialect column ++ .ofString dialect.patternOpening ++
      .parameter dialect (.string (dialect.patternText kind text)) ++
      .ofString dialect.patternClosing
  | .all [] => writeConstant true
  | .all parts =>
    .ofString "(" ++ .separated " AND " (writeParts dialect parts) ++ .ofString ")"
  | .any [] => writeConstant false
  | .any parts =>
    .ofString "(" ++ .separated " OR " (writeParts dialect parts) ++ .ofString ")"
  | .constant truth => writeConstant truth

/-- Each of some predicates in a dialect. -/
def writeParts (dialect : Dialect) : List Predicate → List Writer
  | [] => []
  | part :: rest => write dialect part :: writeParts dialect rest

end

def render (dialect : Dialect) (predicate : Predicate) : Fragment := predicate.write dialect 0

end Predicate

end RecordQuery.Sql
