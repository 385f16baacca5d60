import Mathlib.Data.List.DropRight
import RecordQuery.Proofs.WrittenText

/-!
# Documents in a text

Where a document begins in a text, it is the only one that does, however much fuel it is read with.
So the items of a list and the entries of an object have their places in the text, with any space
around them, and what is read are the documents that begin there.
-/

namespace RecordQuery

namespace Json

/-! ### More fuel -/

/-- With more fuel the same is read. -/
theorem read_succ (fuel : Nat) :
    (∀ {text : List Char} {result}, readValue fuel text = some result →
      readValue (fuel + 1) text = some result) ∧
    (∀ {text : List Char} {result}, readItems fuel text = some result →
      readItems (fuel + 1) text = some result) ∧
    ∀ {text : List Char} {result}, readEntries fuel text = some result →
      readEntries (fuel + 1) text = some result := by
  -- What is read with one unit less inside is read there with one unit more.
  induction fuel with
  | zero => simp [readValue, readItems, readEntries]
  | succ fuel ih =>
    obtain ⟨value, items, entries⟩ := ih
    refine ⟨fun {text result} => ?_, fun {text result} => ?_, fun {text result} => ?_⟩
    · rw [readValue, readValue]
      generalize skipSpaces text = start
      -- Only what is inside brackets and braces is read with fuel.
      split
      case h_5 =>
        split
        · exact id
        · intro read
          obtain ⟨found, inside, rfl⟩ := Option.map_eq_some_iff.mp read
          rw [items inside]
          rfl
      case h_6 =>
        split
        · exact id
        · intro read
          obtain ⟨found, inside, rfl⟩ := Option.map_eq_some_iff.mp read
          rw [entries inside]
          rfl
      all_goals exact id
    · rw [readItems, readItems]
      simp only [Option.bind_eq_bind, Option.bind_eq_some_iff]
      rintro ⟨⟨item, rest⟩, first, read⟩
      refine ⟨_, value first, ?_⟩
      revert read
      dsimp only
      split
      · exact id
      · simp only [Option.bind_eq_some_iff]
        rintro ⟨others, later, read⟩
        exact ⟨others, items later, read⟩
      · exact id
    · rw [readEntries, readEntries]
      generalize skipSpaces text = start
      split
      · simp only [Option.bind_eq_bind, Option.bind_eq_some_iff]
        rintro ⟨⟨key, behind⟩, name, read⟩
        refine ⟨_, name, ?_⟩
        revert read
        dsimp only
        split
        · simp only [Option.bind_eq_some_iff]
          rintro ⟨⟨part, rest⟩, first, read⟩
          refine ⟨_, value first, ?_⟩
          revert read
          dsimp only
          split
          · exact id
          · simp only [Option.bind_eq_some_iff]
            rintro ⟨others, later, read⟩
            exact ⟨others, entries later, read⟩
          · exact id
        · exact id
      · exact id

theorem readValue_of_le {fuel fuel' : Nat} (more : fuel ≤ fuel') {text : List Char}
    {result : Written × List Char} (read : readValue fuel text = some result) :
    readValue fuel' text = some result := by
  induction more with
  | refl => exact read
  | step _ ih => exact (read_succ _).1 ih

/-- The text begins with the document, and the rest stands behind it. -/
def Begins (text : List Char) (document : Written) (rest : List Char) : Prop :=
  ∃ fuel, readValue fuel text = some (document, rest)

theorem Begins.unique {text rest rest' : List Char} {document document' : Written}
    (first : Begins text document rest) (second : Begins text document' rest') :
    document = document' ∧ rest = rest' := by
  obtain ⟨fuel, read⟩ := first
  obtain ⟨fuel', read'⟩ := second
  have most := readValue_of_le (Nat.le_max_left fuel fuel') read
  have same := most.symm.trans (readValue_of_le (Nat.le_max_right fuel fuel') read')
  simpa using same

/-! ### Places in a text -/

/-- The items of a list, from the first one on: the text that each of them begins. -/
inductive ItemTexts : List Char → List (List Char) → Prop
  | last {text rest more : List Char} {item : Written} :
    Begins text item rest → skipSpaces rest = ']' :: more → ItemTexts text [text]
  | next {text rest more : List Char} {item : Written} {items : List (List Char)} :
    Begins text item rest → skipSpaces rest = ',' :: more → ItemTexts more items →
      ItemTexts text (text :: items)

/-- The entries of an object, from the first one on: each key with the text behind its colon. -/
inductive EntryTexts : List Char → List (Option String × List Char) → Prop
  | last {text quoted behind value rest more : List Char} {key : Option String} {part : Written} :
    skipSpaces text = '"' :: quoted → readText quoted = some (key, behind) →
      skipSpaces behind = ':' :: value → Begins value part rest →
        skipSpaces rest = '}' :: more → EntryTexts text [(key, value)]
  | next {text quoted behind value rest more : List Char} {key : Option String} {part : Written}
      {entries : List (Option String × List Char)} :
    skipSpaces text = '"' :: quoted → readText quoted = some (key, behind) →
      skipSpaces behind = ':' :: value → Begins value part rest →
        skipSpaces rest = ',' :: more → EntryTexts more entries →
          EntryTexts text ((key, value) :: entries)

/-- The text begins with a part that has this value. -/
def Holds (text : List Char) (value : Json) : Prop :=
  ∃ part rest, Begins text part rest ∧ part.value? = some value

/-- The items that are read begin where the items of the text do. -/
theorem ItemTexts.holds {text : List Char} {texts : List (List Char)}
    (placed : ItemTexts text texts) {fuel : Nat} {items : List Written} {rest : List Char}
    {values : List Json} (read : readItems fuel text = some (items, rest))
    (valued : Written.values? items = some values) : List.Forall₂ Holds texts values := by
  induction placed generalizing fuel items rest values with
  | last begins closes =>
    cases fuel with
    | zero => simp [readItems] at read
    | succ fuel =>
      rw [readItems] at read
      simp only [Option.bind_eq_bind, Option.bind_eq_some_iff] at read
      obtain ⟨⟨item, behind⟩, first, read⟩ := read
      -- Whatever the fuel, the item that was read is the one that the place begins.
      obtain ⟨rfl, rfl⟩ := begins.unique ⟨_, first⟩
      simp only [closes, Option.pure_def, Option.some.injEq, Prod.mk.injEq] at read
      obtain ⟨rfl, -⟩ := read
      simp only [Written.values?, Option.bind_eq_bind, Option.bind_some, Option.pure_def,
        Option.bind_eq_some_iff, Option.some.injEq] at valued
      obtain ⟨value, here, rfl⟩ := valued
      exact .cons ⟨_, _, begins, here⟩ .nil
  | next begins continues _ ih =>
    cases fuel with
    | zero => simp [readItems] at read
    | succ fuel =>
      rw [readItems] at read
      simp only [Option.bind_eq_bind, Option.bind_eq_some_iff] at read
      obtain ⟨⟨item, behind⟩, first, read⟩ := read
      obtain ⟨rfl, rfl⟩ := begins.unique ⟨_, first⟩
      simp only [continues, Option.pure_def, Option.bind_eq_some_iff, Option.some.injEq,
        Prod.mk.injEq] at read
      obtain ⟨⟨others, end_⟩, later, rfl, -⟩ := read
      simp only [Written.values?, Option.bind_eq_bind, Option.pure_def,
        Option.bind_eq_some_iff, Option.some.injEq] at valued
      obtain ⟨value, here, further, valued, rfl⟩ := valued
      exact .cons ⟨_, _, begins, here⟩ (ih later valued)

/-- The entries that are read have the keys of the text, and their values begin where those of the
text do. -/
theorem EntryTexts.holds {text : List Char} {texts : List (Option String × List Char)}
    (placed : EntryTexts text texts) {fuel : Nat} {entries : List (Option String × Written)}
    {rest : List Char} {values : List (String × Json)}
    (read : readEntries fuel text = some (entries, rest))
    (valued : Written.entryValues? entries = some values) :
    List.Forall₂ (fun entry value => entry.1 = some value.1 ∧ Holds entry.2 value.2)
      texts values := by
  induction placed generalizing fuel entries rest values with
  | last opens name colon begins closes =>
    cases fuel with
    | zero => simp [readEntries] at read
    | succ fuel =>
      rw [readEntries, opens] at read
      simp only [name, colon, Option.bind_eq_bind, Option.bind_some, Option.bind_eq_some_iff]
        at read
      obtain ⟨⟨part, behind⟩, first, read⟩ := read
      obtain ⟨rfl, rfl⟩ := begins.unique ⟨_, first⟩
      simp only [closes, Option.pure_def, Option.some.injEq, Prod.mk.injEq] at read
      obtain ⟨rfl, -⟩ := read
      simp only [Written.entryValues?, Option.bind_eq_bind, Option.bind_some, Option.pure_def,
        Option.bind_eq_some_iff, Option.some.injEq] at valued
      obtain ⟨key, rfl, value, here, rfl⟩ := valued
      exact .cons ⟨rfl, _, _, begins, here⟩ .nil
  | next opens name colon begins continues _ ih =>
    cases fuel with
    | zero => simp [readEntries] at read
    | succ fuel =>
      rw [readEntries, opens] at read
      simp only [name, colon, Option.bind_eq_bind, Option.bind_some, Option.bind_eq_some_iff]
        at read
      obtain ⟨⟨part, behind⟩, first, read⟩ := read
      obtain ⟨rfl, rfl⟩ := begins.unique ⟨_, first⟩
      simp only [continues, Option.pure_def, Option.bind_eq_some_iff, Option.some.injEq,
        Prod.mk.injEq] at read
      obtain ⟨⟨others, end_⟩, later, rfl, -⟩ := read
      simp only [Written.entryValues?, Option.bind_eq_bind, Option.pure_def,
        Option.bind_eq_some_iff, Option.some.injEq] at valued
      obtain ⟨key, rfl, value, here, further, valued, rfl⟩ := valued
      exact .cons ⟨rfl, _, _, begins, here⟩ (ih later valued)

theorem holds_of_ofText? {text : String} {document : Json} (read : ofText? text = some document) :
    Holds text.toList document := by
  simp only [ofText?, Written.ofText?, Option.bind_eq_bind, Option.bind_eq_some_iff,
    Option.ite_none_right_eq_some] at read
  obtain ⟨written, parsed, whole, valued, _, same⟩ := read
  cases same
  split at parsed
  next begun rest found =>
    simp only [Option.ite_none_right_eq_some, Option.some.injEq] at parsed
    obtain ⟨_, rfl⟩ := parsed
    exact ⟨_, _, ⟨_, found⟩, valued⟩
  next => cases parsed

theorem skipSpaces_skipSpaces (text : List Char) : skipSpaces (skipSpaces text) = skipSpaces text :=
  List.dropWhile_idempotent isSpace text

theorem readValue_skipSpaces (fuel : Nat) (text : List Char) :
    readValue fuel (skipSpaces text) = readValue fuel text := by
  cases fuel with
  | zero => simp [readValue]
  | succ fuel => rw [readValue, readValue, skipSpaces_skipSpaces]

theorem readItems_skipSpaces (fuel : Nat) (text : List Char) :
    readItems fuel (skipSpaces text) = readItems fuel text := by
  cases fuel with
  | zero => simp [readItems]
  | succ fuel => rw [readItems, readItems, readValue_skipSpaces]

theorem readEntries_skipSpaces (fuel : Nat) (text : List Char) :
    readEntries fuel (skipSpaces text) = readEntries fuel text := by
  cases fuel with
  | zero => simp [readEntries]
  | succ fuel => rw [readEntries, readEntries, skipSpaces_skipSpaces]

theorem EntryTexts.quote {text : List Char} {texts : List (Option String × List Char)}
    (placed : EntryTexts text texts) : ∃ quoted, skipSpaces text = '"' :: quoted := by
  cases placed <;> exact ⟨_, ‹_›⟩

/-- A document that opens a brace before some entries is the object of these. -/
theorem Holds.object {text inner : List Char} {texts : List (Option String × List Char)}
    {document : Json} (holds : Holds text document) (opens : skipSpaces text = '{' :: inner)
    (placed : EntryTexts inner texts) :
    ∃ entries, document = .object entries ∧
      List.Forall₂ (fun entry value => entry.1 = some value.1 ∧ Holds entry.2 value.2)
        texts entries := by
  obtain ⟨part, rest, ⟨fuel, read⟩, valued⟩ := holds
  obtain ⟨quoted, quote⟩ := placed.quote
  cases fuel with
  | zero => simp [readValue] at read
  | succ fuel =>
    rw [readValue, opens] at read
    simp only [quote] at read
    obtain ⟨⟨entries, behind⟩, inside, same⟩ := Option.map_eq_some_iff.mp read
    cases same
    -- The entries are read behind the space that the brace was followed by.
    rw [← quote, readEntries_skipSpaces] at inside
    simp only [Written.value?, Option.map_eq_some_iff] at valued
    obtain ⟨values, each, rfl⟩ := valued
    exact ⟨values, rfl, placed.holds inside each⟩

theorem ItemTexts.not_closed {text more : List Char} {texts : List (List Char)}
    (placed : ItemTexts text texts) : skipSpaces text ≠ ']' :: more := by
  intro closed
  -- No document begins with a closing bracket.
  have none_begins {item : Written} {rest : List Char} : ¬Begins text item rest := by
    rintro ⟨fuel, read⟩
    cases fuel with
    | zero => simp [readValue] at read
    | succ fuel =>
      have unread : readNumber (']' :: more) = none := rfl
      rw [readValue, closed] at read
      obtain ⟨_, number, _⟩ := Option.map_eq_some_iff.mp read
      exact absurd (unread.symm.trans number) (by simp)
  cases placed with
  | last begins => exact none_begins begins
  | next begins => exact none_begins begins

/-- A document that opens a bracket before some items is the list of these. -/
theorem Holds.list {text inner : List Char} {texts : List (List Char)} {document : Json}
    (holds : Holds text document) (opens : skipSpaces text = '[' :: inner)
    (placed : ItemTexts inner texts) :
    ∃ items, document = .list items ∧ List.Forall₂ Holds texts items := by
  obtain ⟨part, rest, ⟨fuel, read⟩, valued⟩ := holds
  cases fuel with
  | zero => simp [readValue] at read
  | succ fuel =>
    rw [readValue, opens] at read
    simp only at read
    split at read
    next closed => exact absurd closed placed.not_closed
    next =>
      obtain ⟨⟨items, behind⟩, inside, same⟩ := Option.map_eq_some_iff.mp read
      cases same
      rw [readItems_skipSpaces] at inside
      simp only [Written.value?, Option.map_eq_some_iff] at valued
      obtain ⟨values, each, rfl⟩ := valued
      exact ⟨values, rfl, placed.holds inside each⟩

end Json

end RecordQuery
