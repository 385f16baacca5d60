import Mathlib.Data.List.Chain
import RecordQuery.Sql.Dialect

/-!
# Names in quotes

A reader that knows nothing of SQL but the quotes of its names. It takes a text apart into the names
and the characters between them, and it has to look one character ahead to tell the quote that ends
a name from a doubled one.
-/

namespace RecordQuery.Sql

/-! ### Reading a name -/

/-- The text up to the quote that ends it, and what is behind this quote. A doubled quote stands for
one and ends nothing. -/
def readQuoted? (mark : Char) : List Char → Option (List Char × List Char)
  | [] => none
  | [c] => if c = mark then some ([], []) else none
  | c :: d :: rest =>
    if c ≠ mark then (readQuoted? mark (d :: rest)).map (Prod.map (c :: ·) id)
    else if d = mark then (readQuoted? mark rest).map (Prod.map (mark :: ·) id)
    else some ([], d :: rest)

/-- The name at the beginning of a text, and what is behind it. -/
def readName? (mark : Char) : List Char → Option (String × List Char)
  | [] => none
  | c :: rest =>
    if c = mark then (readQuoted? mark rest).map (Prod.map String.ofList id) else none

section Reading

variable {mark : Char} {text behind rest : List Char}

theorem readQuoted?_cons_of_ne {c : Char} (other : c ≠ mark) :
    readQuoted? mark (c :: rest) = (readQuoted? mark rest).map (Prod.map (c :: ·) id) := by
  cases rest with
  | nil => simp [readQuoted?, other]
  | cons d rest => rw [readQuoted?, if_pos other]

theorem readQuoted?_mark (unmarked : rest.head? ≠ some mark) :
    readQuoted? mark (mark :: rest) = some ([], rest) := by
  cases rest with
  | nil => simp [readQuoted?]
  | cons d rest =>
    have other : d ≠ mark := fun same => unmarked (congrArg some same)
    simp [readQuoted?, other]

theorem readQuoted?_mark_mark :
    readQuoted? mark (mark :: mark :: rest) =
      (readQuoted? mark rest).map (Prod.map (mark :: ·) id) := by
  simp [readQuoted?]

/-- A text with doubled quotes is read back up to the single quote behind it. -/
theorem readQuoted?_doubled (text : List Char) (unmarked : rest.head? ≠ some mark) :
    readQuoted? mark (doubled mark text ++ mark :: rest) = some (text, rest) := by
  induction text with
  | nil => exact readQuoted?_mark unmarked
  | cons c text ih =>
    by_cases quote : c = mark
    · -- Two quotes are taken at once, so the look ahead never falls between them.
      have pair : doubled mark (c :: text) = mark :: mark :: doubled mark text := by
        simp [doubled, quote]
      rw [pair, List.cons_append, List.cons_append, readQuoted?_mark_mark, ih, quote]
      rfl
    · have single : doubled mark (c :: text) = c :: doubled mark text := by
        simp [doubled, quote]
      rw [single, List.cons_append, readQuoted?_cons_of_ne quote, ih]
      rfl

/-- What is behind a quoted text is shorter. -/
theorem length_lt_of_readQuoted? (read : readQuoted? mark rest = some (text, behind)) :
    behind.length < rest.length := by
  fun_induction readQuoted? mark rest generalizing text with
  | case1 => cases read
  | case2 =>
    cases read
    exact Nat.zero_lt_one
  | case3 => cases read
  | case4 c d rest _ ih =>
    obtain ⟨⟨_, _⟩, later, same⟩ := Option.map_eq_some_iff.mp read
    cases same
    exact Nat.lt_succ_of_lt (ih later)
  | case5 c rest _ ih =>
    obtain ⟨⟨_, _⟩, later, same⟩ := Option.map_eq_some_iff.mp read
    cases same
    exact Nat.lt_succ_of_lt (Nat.lt_succ_of_lt (ih later))
  | case6 =>
    cases read
    exact Nat.lt_succ_self _

theorem length_lt_of_readName? {name : String} (read : readName? mark rest = some (name, behind)) :
    behind.length < rest.length := by
  match rest with
  | [] => cases read
  | c :: rest =>
    rw [readName?, Option.ite_none_right_eq_some] at read
    obtain ⟨⟨_, _⟩, quoted, same⟩ := Option.map_eq_some_iff.mp read.2
    cases same
    exact Nat.lt_succ_of_lt (length_lt_of_readQuoted? quoted)

/-- A quoted name is read as it is, and nothing behind it. -/
theorem readName?_quote (dialect : Dialect) (name : String)
    (unmarked : rest.head? ≠ some dialect.quoteMark) :
    readName? dialect.quoteMark (dialect.quote name ++ rest) = some (name, rest) := by
  have quoted := readQuoted?_doubled name.toList unmarked
  rw [Dialect.quote, List.cons_append, List.append_assoc, List.singleton_append, readName?,
    if_pos rfl, quoted, Option.map_some]
  exact congrArg (fun name => some (name, rest)) String.ofList_toList

end Reading

/-! ### Reading a statement -/

/-- A name in quotes, or a character that stands in no name. -/
inductive Span where
  | name (text : String)
  | plain (c : Char)
  deriving DecidableEq

namespace Span

def name? : Span → Option String
  | .name text => some text
  | .plain _ => none

/-- The span with another name. -/
def renamed (rename : String → String) : Span → Span
  | .name text => .name (rename text)
  | .plain c => .plain c

def text (dialect : Dialect) : Span → List Char
  | .name text => dialect.quote text
  | .plain c => [c]

/-- Between two names something else has to stand. -/
def Apart (first second : Span) : Prop := first.name? = none ∨ second.name? = none

theorem name?_renamed (rename : String → String) (span : Span) :
    (span.renamed rename).name? = span.name?.map rename := by
  cases span <;> rfl

end Span

/-- The names and what stands between them. -/
def spans? (mark : Char) : List Char → Option (List Span)
  | [] => some []
  | c :: rest =>
    if c = mark then
      match _ : readName? mark (c :: rest) with
      | none => none
      | some (name, behind) => (spans? mark behind).map (.name name :: ·)
    else (spans? mark rest).map (.plain c :: ·)
termination_by text => text.length
decreasing_by
  · exact length_lt_of_readName? ‹_›
  · exact Nat.lt_succ_self _

/-- A text without names. -/
def plainSpans (text : List Char) : List Span := text.map .plain

theorem name?_of_mem_plainSpans {text : List Char} {span : Span} (member : span ∈ plainSpans text) :
    span.name? = none := by
  obtain ⟨_, _, rfl⟩ := List.mem_map.mp member
  rfl

@[simp] theorem names_plainSpans (text : List Char) :
    (plainSpans text).filterMap Span.name? = [] :=
  List.filterMap_eq_nil_iff.mpr fun _ => name?_of_mem_plainSpans

section Spans

variable (dialect : Dialect) {rest : List Char}

theorem spans?_plain {mark c : Char} (other : c ≠ mark) :
    spans? mark (c :: rest) = (spans? mark rest).map (.plain c :: ·) := by
  rw [spans?, if_neg other]

theorem spans?_quote (name : String) (unmarked : rest.head? ≠ some dialect.quoteMark) :
    spans? dialect.quoteMark (dialect.quote name ++ rest) =
      (spans? dialect.quoteMark rest).map (.name name :: ·) := by
  have read := readName?_quote dialect name unmarked
  rw [Dialect.quote, List.cons_append] at read ⊢
  rw [spans?, if_pos rfl]
  split
  next none_read => cases none_read.symm.trans read
  next found =>
    cases found.symm.trans read
    rfl

/-- No quote stands outside of the names, and no two names touch each other. -/
structure Readable (spans : List Span) : Prop where
  plain : ∀ c, .plain c ∈ spans → c ≠ dialect.quoteMark
  apart : spans.IsChain Span.Apart

theorem Readable.renamed {spans : List Span} (readable : Readable dialect spans)
    (rename : String → String) : Readable dialect (spans.map (Span.renamed rename)) := by
  constructor
  · intro c member
    obtain ⟨span, listed, same⟩ := List.mem_map.mp member
    cases span with
    | name => cases same
    | plain =>
      cases same
      exact readable.plain c listed
  · rw [List.isChain_map]
    refine readable.apart.imp fun first second apart => ?_
    unfold Span.Apart at apart ⊢
    simpa only [Span.name?_renamed, Option.map_eq_none_iff] using apart

/-- The text of spans begins with a quote only if a name is the first of them. -/
theorem Readable.head?_ne {spans : List Span} (readable : Readable dialect spans)
    (unnamed : ∀ span ∈ spans.head?, span.name? = none) :
    (spans.flatMap (Span.text dialect)).head? ≠ some dialect.quoteMark := by
  cases spans with
  | nil => exact nofun
  | cons span rest =>
    cases span with
    | name => cases unnamed _ rfl
    | plain c =>
      have other := readable.plain c List.mem_cons_self
      exact fun same => other (Option.some.inj same)

/-- The text of spans is taken apart into these spans. -/
theorem spans?_text {spans : List Span} (readable : Readable dialect spans) :
    spans? dialect.quoteMark (spans.flatMap (Span.text dialect)) = some spans := by
  induction spans with
  | nil => rw [List.flatMap_nil, spans?]
  | cons span rest ih =>
    obtain ⟨apart, others⟩ := List.isChain_cons.mp readable.apart
    have behind : Readable dialect rest :=
      ⟨fun c member => readable.plain c (List.mem_cons_of_mem _ member), others⟩
    rw [List.flatMap_cons]
    cases span with
    | plain c =>
      have other := readable.plain c List.mem_cons_self
      rw [Span.text, List.singleton_append, spans?_plain other, ih behind]
      rfl
    | name text =>
      -- Behind a name no other one begins, so that the look ahead finds no quote.
      have unmarked := behind.head?_ne dialect fun next first =>
        (apart next first).resolve_left nofun
      rw [Span.text, spans?_quote dialect text unmarked, ih behind]
      rfl

end Spans

end RecordQuery.Sql
