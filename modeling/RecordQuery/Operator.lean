import RecordQuery.Text.LetterCase

/-!
# Operators of conditions

Requests spell operators in several ways and in any letter case. Each accepted spelling, in small
letters, names one comparison or one logical operator; each operator has one canonical spelling.
-/

namespace RecordQuery

/-- How the members of a group are joined. -/
inductive Connective where
  | conjunction
  | disjunction
  deriving DecidableEq, Repr

namespace Connective

def name : Connective → String
  | .conjunction => "AND"
  | .disjunction => "OR"

def spellings : List (String × Connective) :=
  [("and", .conjunction), ("&&", .conjunction), ("&", .conjunction), ("all", .conjunction),
   ("andalso", .conjunction), ("or", .disjunction), ("||", .disjunction), ("|", .disjunction),
   ("any", .disjunction), ("orelse", .disjunction)]

def ofSpelling? (spelling : String) : Option Connective :=
  spellings.lookup (Text.lowercase spelling)

end Connective

/-- How a field is compared. -/
inductive Comparison where
  | equal
  | notEqual
  | greater
  | greaterOrEqual
  | less
  | lessOrEqual
  | among
  | notAmong
  | contains
  | startsWith
  | endsWith
  deriving DecidableEq, Repr

namespace Comparison

def all : List Comparison :=
  [.equal, .notEqual, .greater, .greaterOrEqual, .less, .lessOrEqual, .among, .notAmong, .contains,
   .startsWith, .endsWith]

def name : Comparison → String
  | .equal => "EQ"
  | .notEqual => "NE"
  | .greater => "GT"
  | .greaterOrEqual => "GTE"
  | .less => "LT"
  | .lessOrEqual => "LTE"
  | .among => "IN"
  | .notAmong => "NIN"
  | .contains => "CONTAINS"
  | .startsWith => "STARTSWITH"
  | .endsWith => "ENDSWITH"

def spellings : List (String × Comparison) :=
  [("eq", .equal), ("=", .equal), ("==", .equal), ("equal", .equal), ("equals", .equal),
   ("ne", .notEqual), ("neq", .notEqual), ("!=", .notEqual), ("<>", .notEqual),
   ("notequal", .notEqual), ("notequals", .notEqual),
   ("gt", .greater), (">", .greater), ("greaterthan", .greater),
   ("gte", .greaterOrEqual), ("ge", .greaterOrEqual), (">=", .greaterOrEqual),
   ("greaterthanorequal", .greaterOrEqual), ("greaterthanorequalto", .greaterOrEqual),
   ("lt", .less), ("<", .less), ("lessthan", .less),
   ("lte", .lessOrEqual), ("le", .lessOrEqual), ("<=", .lessOrEqual),
   ("lessthanorequal", .lessOrEqual), ("lessthanorequalto", .lessOrEqual),
   ("in", .among), ("anyof", .among),
   ("nin", .notAmong), ("notin", .notAmong), ("noneof", .notAmong),
   ("contains", .contains), ("like", .contains),
   ("startswith", .startsWith), ("beginswith", .startsWith),
   ("endswith", .endsWith)]

def ofSpelling? (spelling : String) : Option Comparison :=
  spellings.lookup (Text.lowercase spelling)

def ofName? (name : String) : Option Comparison := all.find? (·.name == name)

def isPattern : Comparison → Bool
  | .contains => true
  | .startsWith => true
  | .endsWith => true
  | _ => false

def isMembership : Comparison → Bool
  | .among => true
  | .notAmong => true
  | _ => false

theorem mem_all (comparison : Comparison) : comparison ∈ all := by
  cases comparison <;> decide

theorem ofName?_name (comparison : Comparison) : ofName? comparison.name = some comparison := by
  cases comparison <;> rfl

theorem ofSpelling?_name (comparison : Comparison) :
    ofSpelling? comparison.name = some comparison := by
  cases comparison <;> decide +kernel

end Comparison

end RecordQuery
