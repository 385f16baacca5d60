import RecordQuery.Json.Basic

/-!
# Documents as written

A text may follow the grammar of documents and hold parts that have no value all the same: a number
too large for its format, or text with half of a surrogate pair. The document as it is written keeps
such parts, so a reader may pass over what it does not ask for. A document with values is written
by itself, and what is written has that value and no other (`value?_written`).
-/

namespace RecordQuery.Json

/-- A document as it is written. A leaf or a key without value is well formed and means nothing. -/
inductive Written where
  | leaf (value : Option Json)
  | list (items : List Written)
  | object (entries : List (Option String × Written))

/-! ### Values -/

namespace Written

mutual

/-- The document that is written, if each of its parts has a value. -/
def value? : Written → Option Json
  | .leaf value => value
  | .list items => (values? items).map .list
  | .object entries => (entryValues? entries).map .object

def values? : List Written → Option (List Json)
  | [] => some []
  | item :: rest => do
    let value ← item.value?
    let values ← values? rest
    pure (value :: values)

def entryValues? : List (Option String × Written) → Option (List (String × Json))
  | [] => some []
  | (key, part) :: rest => do
    let key ← key
    let value ← part.value?
    let entries ← entryValues? rest
    pure ((key, value) :: entries)

end

end Written

mutual

/-- How a document is written. -/
def written : Json → Written
  | .list items => .list (writtenItems items)
  | .object entries => .object (writtenEntries entries)
  | .null => .leaf (some .null)
  | .bool value => .leaf (some (.bool value))
  | .integer value => .leaf (some (.integer value))
  | .real value => .leaf (some (.real value))
  | .string value => .leaf (some (.string value))

def writtenItems : List Json → List Written
  | [] => []
  | item :: rest => item.written :: writtenItems rest

def writtenEntries : List (String × Json) → List (Option String × Written)
  | [] => []
  | (key, value) :: rest => (some key, value.written) :: writtenEntries rest

end

mutual

theorem value?_written : ∀ document : Json, document.written.value? = some document
  | .list items => by simp [written, Written.value?, values?_writtenItems items]
  | .object entries => by simp [written, Written.value?, entryValues?_writtenEntries entries]
  | .null => by simp [written, Written.value?]
  | .bool _ => by simp [written, Written.value?]
  | .integer _ => by simp [written, Written.value?]
  | .real _ => by simp [written, Written.value?]
  | .string _ => by simp [written, Written.value?]

theorem values?_writtenItems :
    ∀ items : List Json, Written.values? (writtenItems items) = some items
  | [] => by simp [writtenItems, Written.values?]
  | item :: rest => by
    simp [writtenItems, Written.values?, value?_written item, values?_writtenItems rest]

theorem entryValues?_writtenEntries :
    ∀ entries : List (String × Json),
      Written.entryValues? (writtenEntries entries) = some entries
  | [] => by simp [writtenEntries, Written.entryValues?]
  | (_, value) :: rest => by
    simp [writtenEntries, Written.entryValues?, value?_written value,
      entryValues?_writtenEntries rest]

end

end RecordQuery.Json
