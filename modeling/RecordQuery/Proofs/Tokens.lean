import Mathlib.Data.Nat.Digits.Defs
import RecordQuery.Operator
import RecordQuery.Sql.Dialect

/-!
# Tokens

How the text of a condition is read as a list of tokens. The reader goes through the text once, with
the token that is begun but not finished in hand. A mark without a number of its own is the one
behind the marks that were read before it.
-/

namespace RecordQuery.Sql

inductive Keyword where
  | and
  | or
  | not
  | is
  | null
  | among
  | like
  | glob
  | escape
  | cast
  | type
  | binary
  deriving DecidableEq, Repr

namespace Keyword

def text : Keyword → String
  | .and => "AND"
  | .or => "OR"
  | .not => "NOT"
  | .is => "IS"
  | .null => "NULL"
  | .among => "IN"
  | .like => "LIKE"
  | .glob => "GLOB"
  | .escape => "ESCAPE"
  | .cast => "CAST"
  | .type => "AS"
  | .binary => "BINARY"

def all : List Keyword :=
  [.and, .or, .not, .is, .null, .among, .like, .glob, .escape, .cast, .type, .binary]

def ofText? (text : List Char) : Option Keyword := all.find? (·.text.toList == text)

/-- The keyword between the parts of a group. -/
def joint : Connective → Keyword
  | .conjunction => .and
  | .disjunction => .or

/-- Keywords, each behind a space. -/
def spaced (words : List Keyword) : List Char :=
  words.flatMap fun word => ' ' :: word.text.toList

theorem ofText?_text (word : Keyword) : ofText? word.text.toList = some word := by
  cases word <;> decide

theorem text_ne_nil (word : Keyword) : word.text.toList ≠ [] := by cases word <;> decide

theorem isUpper_of_mem_text (word : Keyword) : ∀ c ∈ word.text.toList, c.isUpper = true := by
  have all : word.text.toList.all Char.isUpper = true := by cases word <;> decide
  exact List.all_eq_true.mp all

end Keyword

namespace CompareOp

def all : List CompareOp := [.equal, .notEqual, .greater, .greaterOrEqual, .less, .lessOrEqual]

def ofText? (text : List Char) : Option CompareOp := all.find? (·.text.toList == text)

theorem ofText?_text (op : CompareOp) : ofText? op.text.toList = some op := by
  cases op <;> decide

theorem text_ne_nil (op : CompareOp) : op.text.toList ≠ [] := by cases op <;> decide

theorem mem_of_mem_text (op : CompareOp) : ∀ c ∈ op.text.toList, c ∈ ['=', '<', '>'] := by
  have all : op.text.toList.all ['=', '<', '>'].contains = true := by cases op <;> decide
  exact fun c member => List.contains_iff_mem.mp (List.all_eq_true.mp all c member)

end CompareOp

inductive Token where
  | identifier (name : String)
  -- The mark of the parameter with a number.
  | parameter (number : Nat)
  | keyword (word : Keyword)
  | operator (op : CompareOp)
  | number (n : Nat)
  | text (chars : List Char)
  | opening
  | closing
  | comma
  deriving DecidableEq

namespace Token

def parameter? : Token → Option Nat
  | .parameter n => some n
  | _ => none

/-- The numbers of the parameters in the order of their marks. -/
def parameters (tokens : List Token) : List Nat := tokens.filterMap parameter?

end Token

/-! ### The reader -/

namespace Dialect

/-- What a mark begins with. -/
def markSign : Dialect → Char
  | .postgres => '$'
  | .sqlite => '?'
  | .mysql => '?'

/-- Do marks show the number of their parameter? -/
def numbersMarks : Dialect → Bool
  | .postgres => true
  | .sqlite => true
  | .mysql => false

/-- Does a backslash between these quotes take away the meaning of the next character? -/
def escapesIn (dialect : Dialect) (mark : Char) : Bool :=
  dialect == .mysql && mark != dialect.quoteMark

end Dialect

/-- Tokens that go on as long as characters of one kind follow. -/
inductive Run where
  | word
  | operator
  | number
  | mark
  deriving DecidableEq, Repr

def Run.takes (dialect : Dialect) : Run → Char → Bool
  | .word, c => c.isUpper
  | .operator, c => ['=', '<', '>'].contains c
  | .number, c => c.isDigit
  | .mark, c => dialect.numbersMarks && c.isDigit

/-- What is read of a token. -/
inductive Begun where
  | nothing
  | symbol (token : Token)
  | run (kind : Run) (read : List Char)
  | quoted (mark : Char) (read : List Char)
  -- Behind a backslash.
  | escaped (mark : Char) (read : List Char)
  -- Behind a quote that ends the token unless it is doubled.
  | closed (mark : Char) (read : List Char)

namespace Begun

/-- The token with one more character, if the character can belong to it. -/
def continued? (dialect : Dialect) : Begun → Char → Option Begun
  | .nothing, _ => none
  | .symbol _, _ => none
  | .run kind read, c =>
    if kind.takes dialect c then some (.run kind (read ++ [c])) else none
  | .quoted mark read, c =>
    if c = mark then some (.closed mark read)
    else if c = '\\' ∧ dialect.escapesIn mark then some (.escaped mark read)
    else some (.quoted mark (read ++ [c]))
  | .escaped mark read, c => some (.quoted mark (read ++ [c]))
  | .closed mark read, c => if c = mark then some (.quoted mark (read ++ [c])) else none

/-- The finished token, if there is one, behind some number of marks. -/
def finished? (dialect : Dialect) (given : Nat) : Begun → Option (List Token)
  | .nothing => some []
  | .symbol token => some [token]
  | .run .word read => (Keyword.ofText? read).map fun word => [.keyword word]
  | .run .operator read => (CompareOp.ofText? read).map fun op => [.operator op]
  | .run .number read => some [.number (Digits.natural 0 read)]
  | .run .mark read =>
    if dialect.numbersMarks then
      if read.isEmpty then none else some [.parameter (Digits.natural 0 read)]
    else some [.parameter (given + 1)]
  | .quoted .. => none
  | .escaped .. => none
  | .closed mark read =>
    if mark = dialect.quoteMark then some [.identifier (String.ofList read)]
    else some [.text read]

/-- The token that a character begins. -/
def opened? (dialect : Dialect) (c : Char) : Option Begun :=
  if c = ' ' then some .nothing
  else if c = '(' then some (.symbol .opening)
  else if c = ')' then some (.symbol .closing)
  else if c = ',' then some (.symbol .comma)
  else if c = dialect.quoteMark ∨ c = '\'' then some (.quoted c [])
  else if c = dialect.markSign then some (.run .mark [])
  else ([.word, .operator, .number].find? (Run.takes dialect · c)).map (.run · [c])

end Begun

/-- The tokens of a text behind a begun token and some number of marks. -/
def scan (dialect : Dialect) : (given : Nat) → Begun → List Char → Option (List Token)
  | given, begun, [] => begun.finished? dialect given
  | given, begun, c :: rest =>
    match begun.continued? dialect c with
    | some further => scan dialect given further rest
    | none => do
      let tokens ← begun.finished? dialect given
      let opened ← Begun.opened? dialect c
      let more ← scan dialect (given + (Token.parameters tokens).length) opened rest
      pure (tokens ++ more)

/-- The tokens of a text. -/
def tokens? (dialect : Dialect) (text : List Char) : Option (List Token) :=
  scan dialect 0 .nothing text

/-! ### Ends of tokens -/

/-- The text is empty or begins with a character that belongs to no token but its own. -/
def Delimited (text : List Char) : Prop := ∀ c ∈ text.head?, c ∈ [' ', '(', ')', ',']

@[simp] theorem delimited_nil : Delimited [] := by simp [Delimited]

@[simp] theorem delimited_cons {c : Char} {rest : List Char} :
    Delimited (c :: rest) ↔ c ∈ [' ', '(', ')', ','] := by
  simp [Delimited]

section Scanning

variable (dialect : Dialect) (given : Nat) {rest : List Char}

/-- A character that a token does not take finishes it and begins another one. -/
theorem scan_cons_of_finished {begun : Begun} {c : Char} {tokens : List Token}
    (ends : begun.continued? dialect c = none)
    (finished : begun.finished? dialect given = some tokens) :
    scan dialect given begun (c :: rest) =
      (Begun.opened? dialect c).bind fun opened =>
        (scan dialect (given + (Token.parameters tokens).length) opened rest).map (tokens ++ ·) := by
  simp only [scan, ends, finished, Option.bind_eq_bind, Option.bind_some, Option.pure_def,
    Option.map_eq_bind, Function.comp_def]

/-- A token that does not go on is finished before the rest is read. -/
theorem scan_of_finished {begun : Begun} {tokens : List Token}
    (ends : ∀ c ∈ rest.head?, begun.continued? dialect c = none)
    (finished : begun.finished? dialect given = some tokens) :
    scan dialect given begun rest =
      (scan dialect (given + (Token.parameters tokens).length) .nothing rest).map
        (tokens ++ ·) := by
  cases rest with
  | nil =>
    show begun.finished? dialect given = some (tokens ++ [])
    rw [finished, List.append_nil]
  | cons c rest =>
    rw [scan_cons_of_finished dialect given (ends c rfl) finished,
      scan_cons_of_finished dialect _ rfl rfl, Option.map_bind]
    simp [Token.parameters]

/-- A character that begins a token is read as its beginning. -/
theorem scan_of_opened {c : Char} {opened : Begun}
    (opens : Begun.opened? dialect c = some opened) :
    scan dialect given .nothing (c :: rest) = scan dialect given opened rest := by
  simp [scan, Begun.continued?, Begun.finished?, opens, Token.parameters]

theorem scan_of_symbol {c : Char} {token : Token}
    (opens : Begun.opened? dialect c = some (.symbol token)) (unmarked : token.parameter? = none) :
    scan dialect given .nothing (c :: rest) =
      (scan dialect given .nothing rest).map (token :: ·) := by
  have ends : ∀ c ∈ rest.head?, (Begun.symbol token).continued? dialect c = none :=
    fun _ _ => rfl
  rw [scan_of_opened dialect given opens, scan_of_finished dialect given ends rfl]
  simp [Token.parameters, unmarked]

@[simp] theorem scan_space :
    scan dialect given .nothing (' ' :: rest) = scan dialect given .nothing rest :=
  scan_of_opened dialect given rfl

@[simp] theorem scan_opening :
    scan dialect given .nothing ('(' :: rest) =
      (scan dialect given .nothing rest).map (.opening :: ·) :=
  scan_of_symbol dialect given rfl rfl

@[simp] theorem scan_closing :
    scan dialect given .nothing (')' :: rest) =
      (scan dialect given .nothing rest).map (.closing :: ·) :=
  scan_of_symbol dialect given rfl rfl

@[simp] theorem scan_comma :
    scan dialect given .nothing (',' :: rest) =
      (scan dialect given .nothing rest).map (.comma :: ·) :=
  scan_of_symbol dialect given rfl rfl

/-! ### Runs -/

theorem scan_run (kind : Run) (read : List Char) {chars : List Char}
    (taken : ∀ c ∈ chars, kind.takes dialect c = true) :
    scan dialect given (.run kind read) (chars ++ rest) =
      scan dialect given (.run kind (read ++ chars)) rest := by
  induction chars generalizing read with
  | nil => simp
  | cons c chars ih =>
    have first : kind.takes dialect c = true := taken c List.mem_cons_self
    have others := ih (read ++ [c]) fun d member => taken d (List.mem_cons_of_mem _ member)
    simp only [List.cons_append, scan, Begun.continued?, first, if_true, others,
      List.append_assoc, List.nil_append]

/-- A run is finished where a delimited text follows. -/
theorem run_ends (delimited : Delimited rest) (kind : Run) (read : List Char) :
    ∀ c ∈ rest.head?, (Begun.run kind read).continued? dialect c = none := by
  intro c head
  have delimiter := delimited c head
  simp only [List.mem_cons, List.not_mem_nil, or_false] at delimiter
  rcases delimiter with rfl | rfl | rfl | rfl <;> cases kind <;> cases dialect <;> rfl

/-- A run that is finished to a token where a delimited text follows. -/
theorem scan_of_run (delimited : Delimited rest) {kind : Run} {read : List Char} {token : Token}
    (finished : (Begun.run kind read).finished? dialect given = some [token]) :
    scan dialect given (.run kind read) rest =
      (scan dialect (given + (Token.parameters [token]).length) .nothing rest).map (token :: ·) :=
  scan_of_finished dialect given (run_ends dialect delimited kind read) finished

theorem opened?_of_isUpper {c : Char} (upper : c.isUpper = true) :
    Begun.opened? dialect c = some (.run .word [c]) := by
  have differs (d : Char) (other : d.isUpper = false) : c ≠ d := by
    rintro rfl
    cases upper.symm.trans other
  have notQuote : c ≠ dialect.quoteMark := differs _ (by cases dialect <;> rfl)
  have notMark : c ≠ dialect.markSign := differs _ (by cases dialect <;> rfl)
  simp [Begun.opened?, differs ' ' rfl, differs '(' rfl, differs ')' rfl, differs ',' rfl,
    differs '\'' rfl, notQuote, notMark, Run.takes, upper]

theorem opened?_of_mem {c : Char} (member : c ∈ ['=', '<', '>']) :
    Begun.opened? dialect c = some (.run .operator [c]) := by
  simp only [List.mem_cons, List.not_mem_nil, or_false] at member
  rcases member with rfl | rfl | rfl <;> cases dialect <;> rfl

theorem scan_keyword (word : Keyword) (delimited : Delimited rest) :
    scan dialect given .nothing (word.text.toList ++ rest) =
      (scan dialect given .nothing rest).map (.keyword word :: ·) := by
  obtain ⟨c, chars, text⟩ := List.exists_cons_of_ne_nil word.text_ne_nil
  have upper := word.isUpper_of_mem_text
  have finished := Keyword.ofText?_text word
  rw [text] at upper finished
  have opens := opened?_of_isUpper dialect (upper c List.mem_cons_self)
  rw [text, List.cons_append, scan_of_opened dialect given opens,
    scan_run dialect given .word [c] fun d member => upper d (List.mem_cons_of_mem _ member)]
  refine scan_of_run dialect given delimited ?_
  simp only [Begun.finished?, List.singleton_append, finished, Option.map_some]

theorem scan_operator (op : CompareOp) (delimited : Delimited rest) :
    scan dialect given .nothing (op.text.toList ++ rest) =
      (scan dialect given .nothing rest).map (.operator op :: ·) := by
  obtain ⟨c, chars, text⟩ := List.exists_cons_of_ne_nil op.text_ne_nil
  have signs := op.mem_of_mem_text
  have finished := CompareOp.ofText?_text op
  rw [text] at signs finished
  have opens := opened?_of_mem dialect (signs c List.mem_cons_self)
  have taken : ∀ d ∈ chars, Run.operator.takes dialect d = true := fun d member =>
    List.contains_iff_mem.mpr (signs d (List.mem_cons_of_mem _ member))
  rw [text, List.cons_append, scan_of_opened dialect given opens,
    scan_run dialect given .operator [c] taken]
  refine scan_of_run dialect given delimited ?_
  simp only [Begun.finished?, List.singleton_append, finished, Option.map_some]

/-- A digit alone is a number. -/
theorem scan_digit {c : Char} {n : Nat} (opens : Begun.opened? dialect c = some (.run .number [c]))
    (reads : Digits.value c = n) (delimited : Delimited rest) :
    scan dialect given .nothing (c :: rest) =
      (scan dialect given .nothing rest).map (.number n :: ·) := by
  rw [scan_of_opened dialect given opens]
  refine scan_of_run dialect given delimited ?_
  simp [Begun.finished?, Digits.natural, reads]

/-! ### Marks -/

/-- A mark that shows its number is the mark of that parameter. -/
theorem scan_number (numbered : dialect.numbersMarks = true) (n : Nat)
    (delimited : Delimited rest) :
    scan dialect given (.run .mark []) (Digits.decimal n ++ rest) =
      (scan dialect (given + 1) .nothing rest).map (.parameter n :: ·) := by
  have taken : ∀ d ∈ Digits.decimal n, Run.mark.takes dialect d = true := by
    intro d member
    have digit := Nat.isDigit_of_mem_toDigits (by decide) (by decide) member
    simp [Run.takes, numbered, digit]
  rw [scan_run dialect given .mark [] taken]
  refine scan_of_run dialect given delimited ?_
  simp [Begun.finished?, numbered, Digits.decimal_ne_nil, Digits.natural_decimal]

/-- The mark of the next parameter is read as such. -/
theorem scan_placeholder (delimited : Delimited rest) :
    scan dialect given .nothing (dialect.placeholder (given + 1) ++ rest) =
      (scan dialect (given + 1) .nothing rest).map (.parameter (given + 1) :: ·) := by
  have opens : Begun.opened? dialect dialect.markSign = some (.run .mark []) := by
    cases dialect <;> rfl
  cases dialect with
  | postgres =>
    exact (scan_of_opened .postgres given opens).trans
      (scan_number .postgres given rfl (given + 1) delimited)
  | sqlite =>
    exact (scan_of_opened .sqlite given opens).trans
      (scan_number .sqlite given rfl (given + 1) delimited)
  | mysql =>
    have finished : (Begun.run .mark []).finished? .mysql given = some [.parameter (given + 1)] :=
      rfl
    exact (scan_of_opened .mysql given opens).trans (scan_of_run .mysql given delimited finished)

/-! ### Quotes -/

/-- Between quotes a doubled quote stands for one, and any other character for itself. -/
theorem scan_doubled {mark : Char} (plain : dialect.escapesIn mark = false)
    (unmarked : rest.head? ≠ some mark) (read text : List Char) :
    scan dialect given (.quoted mark read) (doubled mark text ++ mark :: rest) =
      scan dialect given (.closed mark (read ++ text)) rest := by
  induction text generalizing read with
  | nil => simp [doubled, scan, Begun.continued?]
  | cons c text ih =>
    have others := ih (read ++ [c])
    unfold doubled at others ⊢
    by_cases quote : c = mark
    · -- The first quote seems to end the token, the second one goes on with it.
      subst quote
      simpa [scan, Begun.continued?] using others
    · simpa [scan, Begun.continued?, quote, plain] using others

/-- A quoted token is finished where a delimited text follows. -/
theorem closed_ends (delimited : Delimited rest) {mark : Char}
    (quote : mark = dialect.quoteMark ∨ mark = '\'') (read : List Char) :
    ∀ c ∈ rest.head?, c ≠ mark ∧ (Begun.closed mark read).continued? dialect c = none := by
  intro c head
  have different : c ≠ mark := by
    have delimiter := delimited c head
    simp only [List.mem_cons, List.not_mem_nil, or_false] at delimiter
    rcases quote with rfl | rfl <;> rcases delimiter with rfl | rfl | rfl | rfl <;>
      cases dialect <;> decide
  exact ⟨different, by simp [Begun.continued?, different]⟩

theorem scan_quote (name : String) (delimited : Delimited rest) :
    scan dialect given .nothing (dialect.quote name ++ rest) =
      (scan dialect given .nothing rest).map (.identifier name :: ·) := by
  have opens : Begun.opened? dialect dialect.quoteMark = some (.quoted dialect.quoteMark []) := by
    cases dialect <;> rfl
  have plain : dialect.escapesIn dialect.quoteMark = false := by cases dialect <;> rfl
  have ends := closed_ends dialect delimited (.inl rfl) name.toList
  have unmarked : rest.head? ≠ some dialect.quoteMark := fun same => (ends _ same).1 rfl
  have finished : (Begun.closed dialect.quoteMark name.toList).finished? dialect given =
      some [.identifier name] := by
    simp [Begun.finished?]
  rw [Dialect.quote, List.cons_append, scan_of_opened dialect given opens, List.append_assoc,
    List.singleton_append, scan_doubled dialect given plain unmarked, List.nil_append]
  exact scan_of_finished dialect given (fun c head => (ends c head).2) finished

/-- A backslash as a text, behind another one where it would take away the meaning of the quote. -/
theorem scan_backslash (delimited : Delimited rest) :
    scan dialect given .nothing
        (if dialect.escapesIn '\'' then '\'' :: '\\' :: '\\' :: '\'' :: rest
          else '\'' :: '\\' :: '\'' :: rest) =
      (scan dialect given .nothing rest).map (.text ['\\'] :: ·) := by
  have opens : Begun.opened? dialect '\'' = some (.quoted '\'' []) := by cases dialect <;> rfl
  have ends := closed_ends dialect delimited (.inr rfl) ['\\']
  have finished : (Begun.closed '\'' ['\\']).finished? dialect given = some [.text ['\\']] := by
    cases dialect <;> rfl
  have complete := scan_of_finished dialect given (fun c head => (ends c head).2) finished
  cases dialect <;> exact (scan_of_opened _ given opens).trans complete

/-! ### Columns and keywords -/

theorem scan_words (words : List Keyword) (delimited : Delimited rest) :
    scan dialect given .nothing (Keyword.spaced words ++ rest) =
      (scan dialect given .nothing rest).map (words.map .keyword ++ ·) := by
  induction words with
  | nil => simp [Keyword.spaced]
  | cons word words ih =>
    have behind : Delimited (Keyword.spaced words ++ rest) := by
      cases words with
      | nil => exact delimited
      | cons => simp [Keyword.spaced]
    have split : Keyword.spaced (word :: words) ++ rest =
        ' ' :: (word.text.toList ++ (Keyword.spaced words ++ rest)) := by
      simp [Keyword.spaced]
    rw [split, scan_space, scan_keyword dialect given word behind, ih]
    simp only [Option.map_map]
    rfl

/-- A column and the keywords behind it. -/
theorem scan_column (name : String) {words : List Keyword} (some_word : words ≠ [])
    (delimited : Delimited rest) :
    scan dialect given .nothing (dialect.quote name ++ (Keyword.spaced words ++ rest)) =
      (scan dialect given .nothing rest).map fun more =>
        .identifier name :: (words.map .keyword ++ more) := by
  obtain ⟨word, others, rfl⟩ := List.exists_cons_of_ne_nil some_word
  have behind : Delimited (Keyword.spaced (word :: others) ++ rest) := by simp [Keyword.spaced]
  rw [scan_quote dialect given name behind, scan_words dialect given _ delimited]
  simp only [Option.map_map]
  rfl

end Scanning

end RecordQuery.Sql
