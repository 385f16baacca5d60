import RecordQuery.Json.Basic
import RecordQuery.Number.Notation

/-!
# Writing documents

A document is written without any space, or with each entry on a line of its own, two spaces
further in than the line that opened its list or object. Text is quoted with the short escapes
where there is one, other control characters as four hexadecimal digits, and all else as it is. A
number that is not finite is written as null.
-/

namespace RecordQuery.Json

/-- A character inside quotes. -/
def escape (c : Char) : List Char :=
  if c = '"' then ['\\', '"']
  else if c = '\\' then ['\\', '\\']
  else if c = '\n' then ['\\', 'n']
  else if c = '\r' then ['\\', 'r']
  else if c = '\t' then ['\\', 't']
  else if c = '\x08' then ['\\', 'b']
  else if c = '\x0c' then ['\\', 'f']
  else if c.toNat < 0x20 then
    ['\\', 'u', '0', '0', Digits.hex (c.toNat / 16), Digits.hex (c.toNat % 16)]
  else [c]

def quoted (text : String) : List Char := '"' :: (text.toList.flatMap escape ++ ['"'])

/-- A real number, null when it is not finite. -/
def realText (x : Double) : List Char := (x.documentText?.getD "null").toList

mutual

/-- The document without any space. -/
def write : Json → List Char
  | .null => "null".toList
  | .bool value => (if value then "true" else "false").toList
  | .integer value => Digits.integer value
  | .real value => realText value
  | .string value => quoted value
  | .list items => '[' :: (writeItems items ++ [']'])
  | .object entries => '{' :: (writeEntries entries ++ ['}'])

def writeItems : List Json → List Char
  | [] => []
  | [item] => item.write
  | item :: rest => item.write ++ ',' :: writeItems rest

def writeEntries : List (String × Json) → List Char
  | [] => []
  | [(key, value)] => quoted key ++ ':' :: value.write
  | (key, value) :: rest => quoted key ++ ':' :: (value.write ++ ',' :: writeEntries rest)

end

/-- A new line, two spaces in for each level. -/
def newline (level : Nat) : List Char := '\n' :: List.replicate (2 * level) ' '

mutual

/-- The document with an entry a line, inside `level` lists or objects. -/
def writeLines (level : Nat) : Json → List Char
  | .list [] => ['[', ']']
  | .list items => '[' :: (linesOfItems (level + 1) items ++ newline level ++ [']'])
  | .object [] => ['{', '}']
  | .object entries => '{' :: (linesOfEntries (level + 1) entries ++ newline level ++ ['}'])
  | .null => write .null
  | .bool value => write (.bool value)
  | .integer value => write (.integer value)
  | .real value => write (.real value)
  | .string value => write (.string value)

def linesOfItems (level : Nat) : List Json → List Char
  | [] => []
  | [item] => newline level ++ writeLines level item
  | item :: rest => newline level ++ writeLines level item ++ ',' :: linesOfItems level rest

def linesOfEntries (level : Nat) : List (String × Json) → List Char
  | [] => []
  | [(key, value)] => newline level ++ quoted key ++ ':' :: ' ' :: writeLines level value
  | (key, value) :: rest =>
    newline level ++ quoted key ++ ':' :: ' ' :: writeLines level value ++
      ',' :: linesOfEntries level rest

end

/-- The document as one line of text. -/
def compact (document : Json) : String := String.ofList document.write

/-- The document with an entry a line. -/
def pretty (document : Json) : String := String.ofList (document.writeLines 0)

end RecordQuery.Json
