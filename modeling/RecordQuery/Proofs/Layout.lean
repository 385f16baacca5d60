import RecordQuery.Proofs.Expressions
import RecordQuery.Sql.Fragment

/-!
# Layouts

How a predicate is laid out as tests and groups, with its parameters numbered in their order, and
that its text is read as the tokens of this layout.
-/

namespace RecordQuery.Sql

/-- The test of a pattern in the same case. -/
def Dialect.patternTest (dialect : Dialect) (column : String) (parameter : Nat) : Test :=
  match dialect with
  | .postgres => .like column parameter false '\\'
  | .sqlite => .glob column parameter
  | .mysql => .like column parameter true '\\'

/-- The test that stands for a truth value. -/
def Test.constant (truth : Bool) : Test := .numbers 1 .equal (if truth then 1 else 0)

namespace Predicate

mutual

/-- No list of values is empty. -/
def ListsFilled : Predicate → Prop
  | .compare .. => True
  | .isNull _ => True
  | .isNotNull _ => True
  | .among _ values => values ≠ []
  | .notAmong _ values => values ≠ []
  | .pattern .. => True
  | .all parts => AllFilled parts
  | .any parts => AllFilled parts
  | .constant _ => True

def AllFilled : List Predicate → Prop
  | [] => True
  | part :: rest => part.ListsFilled ∧ AllFilled rest

end

mutual

/-- The tests and groups of a predicate, with its parameters numbered behind some others. -/
def layout (dialect : Dialect) (given : Nat) : Predicate → Layout
  | .compare column op _ => .test (.compare column op (given + 1))
  | .isNull column => .test (.isNull column)
  | .isNotNull column => .test (.isNotNull column)
  | .among column values =>
    .test (.among column (given + 1) (List.range' (given + 2) values.tail.length))
  | .notAmong column values =>
    .test (.notAmong column (given + 1) (List.range' (given + 2) values.tail.length))
  | .pattern column _ _ => .test (dialect.patternTest column (given + 1))
  | .all [] => .test (.constant true)
  | .all (first :: others) =>
    .group .conjunction (layout dialect given first)
      (layouts dialect (given + (write dialect first given).parameters.length) others)
  | .any [] => .test (.constant false)
  | .any (first :: others) =>
    .group .disjunction (layout dialect given first)
      (layouts dialect (given + (write dialect first given).parameters.length) others)
  | .constant truth => .test (.constant truth)

def layouts (dialect : Dialect) (given : Nat) : List Predicate → List Layout
  | [] => []
  | part :: rest =>
    layout dialect given part ::
      layouts dialect (given + (write dialect part given).parameters.length) rest

end

end Predicate

/-- What is written is read as the tokens, whatever delimited text follows, and the tokens hold the
marks of its parameters in their order. -/
structure Writer.ReadAs (dialect : Dialect) (writer : Writer) (given : Nat)
    (tokens : List Token) : Prop where
  scan : ∀ rest, Delimited rest →
    scan dialect given .nothing ((writer given).text ++ rest) =
      (scan dialect (given + (writer given).parameters.length) .nothing rest).map (tokens ++ ·)
  marks : Token.parameters tokens =
    List.range' (given + 1) (writer given).parameters.length

/-! ### Lists -/

section Lists

variable (dialect : Dialect) (given : Nat) {rest : List Char}

/-- The parameters of a list, with commas between them. -/
theorem scan_parameters (value : Value) (values : List Value) (delimited : Delimited rest) :
    scan dialect given .nothing
        ((Writer.separated ", " ((value :: values).map (Writer.parameter dialect)) given).text ++
          rest) =
      (scan dialect (given + (values.length + 1)) .nothing rest).map fun more =>
        .parameter (given + 1) ::
          ((List.range' (given + 2) values.length).flatMap (fun n => [.comma, .parameter n]) ++
            more) := by
  induction values generalizing value given with
  | nil => exact scan_placeholder dialect given delimited
  | cons next values ih =>
    have others := ih (given + 1) next
    show scan dialect given .nothing (((dialect.placeholder (given + 1) ++ [',', ' ']) ++
      (Writer.separated ", " ((next :: values).map (Writer.parameter dialect)) (given + 1)).text) ++
        rest) = _
    simp only [List.append_assoc, List.cons_append, List.nil_append]
    rw [scan_placeholder dialect given (by simp), scan_comma, scan_space, others]
    simp only [Option.map_map, List.length_cons, List.range'_succ, List.flatMap_cons,
      Nat.add_assoc, Nat.add_comm, Nat.add_left_comm]
    rfl

theorem parameters_separated (values : List Value) :
    (Writer.separated ", " (values.map (Writer.parameter dialect)) given).parameters = values := by
  induction values generalizing given with
  | nil => rfl
  | cons value values ih =>
    rw [List.map_cons, Writer.parameters_separated_cons, ih]
    rfl

end Lists

namespace Predicate

section Tests

variable (dialect : Dialect) (given : Nat) (column : String)

/-- The marks of a list are those of its parameters. -/
theorem parameters_listed (first : Nat) (others : List Nat) :
    Token.parameters (Test.listed first others) = first :: others := by
  have commas : Token.parameters (others.flatMap (fun n => [.comma, .parameter n])) = others := by
    induction others with
    | nil => rfl
    | cons n others ih => exact congrArg (n :: ·) ih
  simp only [Token.parameters, Test.listed, List.filterMap_cons, Token.parameter?,
    List.filterMap_append] at commas ⊢
  simp [commas]

theorem scan_writeList (value : Value) (values : List Value) {rest : List Char} :
    scan dialect given .nothing ((writeList dialect (value :: values) given).text ++ rest) =
      (scan dialect (given + (values.length + 1)) .nothing rest).map fun more =>
        .opening :: (Test.listed (given + 1) (List.range' (given + 2) values.length) ++ more) := by
  show scan dialect given .nothing ((('(' :: (Writer.separated ", "
    ((value :: values).map (Writer.parameter dialect)) given).text) ++ [')']) ++ rest) = _
  simp only [List.append_assoc, List.cons_append, List.nil_append]
  rw [scan_opening, scan_parameters dialect given value values (by simp), scan_closing]
  simp only [Option.map_map, Test.listed, List.cons_append, List.append_assoc, List.nil_append]
  rfl

theorem parameters_writeList (values : List Value) :
    (writeList dialect values given).parameters = values := by
  rw [writeList, Writer.parameters_append, Writer.parameters_append, parameters_separated]
  exact List.append_nil _

/-! ### Tests -/

theorem readAs_compare (op : CompareOp) (value : Value) :
    (write dialect (.compare column op value)).ReadAs dialect given
      (Test.compare column op (given + 1)).tokens := by
  constructor
  · intro rest delimited
    show scan dialect given .nothing (((((dialect.quote column ++ [' ']) ++ op.text.toList) ++
      [' ']) ++ dialect.placeholder (given + 1)) ++ rest) = _
    simp only [List.append_assoc, List.cons_append, List.nil_append]
    rw [scan_quote dialect given column (by simp), scan_space,
      scan_operator dialect given op (by simp), scan_space,
      scan_placeholder dialect given delimited]
    simp only [Option.map_map]
    rfl
  · rfl

/-- A column with keywords behind it. -/
theorem readAs_words {text : String} {words : List Keyword} (some_word : words ≠ [])
    (spelled : text.toList = Keyword.spaced words) :
    (.identifier dialect column ++ .ofString text : Writer).ReadAs dialect given
      (.identifier column :: words.map .keyword) := by
  constructor
  · intro rest delimited
    show scan dialect given .nothing ((dialect.quote column ++ text.toList) ++ rest) = _
    rw [spelled, List.append_assoc, scan_column dialect given column some_word delimited]
    rfl
  · have unmarked : Token.parameters (words.map .keyword) = [] := by
      simp [Token.parameters, Token.parameter?]
    exact unmarked

/-- A column with keywords and a list behind it. -/
theorem readAs_list {text : String} {words : List Keyword} (some_word : words ≠ [])
    (spelled : text.toList = Keyword.spaced words ++ [' ']) (value : Value)
    (values : List Value) :
    (.identifier dialect column ++ .ofString text ++
        writeList dialect (value :: values) : Writer).ReadAs dialect given
      (.identifier column :: (words.map .keyword ++
        .opening :: Test.listed (given + 1) (List.range' (given + 2) values.length))) := by
  have parameters : ((.identifier dialect column ++ .ofString text ++
      writeList dialect (value :: values) : Writer) given).parameters = value :: values :=
    parameters_writeList dialect given (value :: values)
  constructor
  · intro rest delimited
    rw [parameters]
    show scan dialect given .nothing (((dialect.quote column ++ text.toList) ++
      (writeList dialect (value :: values) given).text) ++ rest) = _
    rw [spelled]
    simp only [List.append_assoc, List.cons_append, List.nil_append]
    rw [scan_column dialect given column some_word (by simp), scan_space, scan_writeList]
    simp only [Option.map_map, Function.comp_def]
    rfl
  · have unmarked : Token.parameters (words.map .keyword) = [] := by
      simp [Token.parameters, Token.parameter?]
    have marks := parameters_listed (given + 1) (List.range' (given + 2) values.length)
    simp only [Token.parameters] at unmarked marks
    rw [parameters, List.length_cons, List.range'_succ, Token.parameters,
      List.filterMap_cons_none rfl, List.filterMap_append, unmarked,
      List.filterMap_cons_none rfl, marks]
    rfl

/-- The pattern is marked in each dialect, and a backslash is named as its escape character where
there is one. -/
theorem readAs_pattern (kind : PatternKind) (text : String) :
    (write dialect (.pattern column kind text)).ReadAs dialect given
      (dialect.patternTest column (given + 1)).tokens := by
  constructor
  · intro rest delimited
    cases dialect with
    | postgres =>
      show scan .postgres given .nothing ((((Dialect.postgres.quote column ++
        (Keyword.spaced [.like] ++ [' '])) ++ Dialect.postgres.placeholder (given + 1)) ++
          (Keyword.spaced [.escape] ++ [' ', '\'', '\\', '\''])) ++ rest) = _
      have backslash : scan .postgres (given + 1) .nothing ('\'' :: '\\' :: '\'' :: rest) = _ :=
        scan_backslash .postgres (given + 1) delimited
      simp only [List.append_assoc, List.cons_append, List.nil_append]
      rw [scan_column .postgres given column (by simp) (by simp), scan_space,
        scan_placeholder .postgres given (by simp [Keyword.spaced]),
        scan_words .postgres (given + 1) _ (by simp), scan_space, backslash]
      simp only [Option.map_map]
      rfl
    | sqlite =>
      show scan .sqlite given .nothing ((((Dialect.sqlite.quote column ++
        (Keyword.spaced [.glob] ++ [' '])) ++ Dialect.sqlite.placeholder (given + 1)) ++ []) ++
          rest) = _
      simp only [List.append_assoc, List.cons_append, List.nil_append]
      rw [scan_column .sqlite given column (by simp) (by simp), scan_space,
        scan_placeholder .sqlite given delimited]
      simp only [Option.map_map]
      rfl
    | mysql =>
      show scan .mysql given .nothing ((((Dialect.mysql.quote column ++
        (Keyword.spaced [.like, .cast] ++ ['('])) ++ Dialect.mysql.placeholder (given + 1)) ++
          (Keyword.spaced [.type, .binary] ++ ')' ::
            (Keyword.spaced [.escape] ++ [' ', '\'', '\\', '\\', '\'']))) ++ rest) = _
      have backslash :
          scan .mysql (given + 1) .nothing ('\'' :: '\\' :: '\\' :: '\'' :: rest) = _ :=
        scan_backslash .mysql (given + 1) delimited
      simp only [List.append_assoc, List.cons_append, List.nil_append]
      rw [scan_column .mysql given column (by simp) (by simp), scan_opening,
        scan_placeholder .mysql given (by simp [Keyword.spaced]),
        scan_words .mysql (given + 1) _ (by simp), scan_closing,
        scan_words .mysql (given + 1) _ (by simp), scan_space, backslash]
      simp only [Option.map_map]
      rfl
  · cases dialect <;> rfl

theorem readAs_constant (truth : Bool) :
    (writeConstant truth).ReadAs dialect given (Test.constant truth).tokens := by
  have one : Begun.opened? dialect '1' = some (.run .number ['1']) := by cases dialect <;> rfl
  have zero : Begun.opened? dialect '0' = some (.run .number ['0']) := by cases dialect <;> rfl
  constructor
  · intro rest delimited
    have left {more : List Char} (delimited : Delimited more) :
        scan dialect given .nothing ('1' :: more) =
          (scan dialect given .nothing more).map (.number 1 :: ·) :=
      scan_digit dialect given one rfl delimited
    cases truth with
    | true =>
      show scan dialect given .nothing ('1' :: ' ' :: (CompareOp.equal.text.toList ++ ' ' :: '1' ::
        rest)) = _
      rw [left (by simp), scan_space, scan_operator dialect given _ (by simp), scan_space,
        left delimited]
      simp only [Option.map_map]
      rfl
    | false =>
      show scan dialect given .nothing ('1' :: ' ' :: (CompareOp.equal.text.toList ++ ' ' :: '0' ::
        rest)) = _
      rw [left (by simp), scan_space, scan_operator dialect given _ (by simp), scan_space,
        scan_digit dialect given zero rfl delimited]
      simp only [Option.map_map]
      rfl
  · cases truth <;> rfl

end Tests

/-! ### Groups -/

/-- What stands between the parts of a group. -/
def separator : Connective → String
  | .conjunction => " AND "
  | .disjunction => " OR "

theorem toList_separator (connective : Connective) :
    (separator connective).toList = ' ' :: ((Keyword.joint connective).text.toList ++ [' ']) := by
  cases connective <;> rfl

/-- Parentheses have no parameters. -/
theorem parameters_group (writer : Writer) (given : Nat) :
    ((.ofString "(" ++ writer ++ .ofString ")" : Writer) given).parameters =
      (writer given).parameters := List.append_nil _

theorem readAs_group {dialect : Dialect} {writer : Writer} {given : Nat} {tokens : List Token}
    (inside : writer.ReadAs dialect given tokens) :
    (.ofString "(" ++ writer ++ .ofString ")" : Writer).ReadAs dialect given
      (.opening :: (tokens ++ [.closing])) := by
  constructor
  · intro rest delimited
    rw [parameters_group]
    show scan dialect given .nothing (('(' :: (writer given).text) ++ [')'] ++ rest) = _
    rw [List.cons_append, List.cons_append, List.append_assoc, List.singleton_append, scan_opening,
      inside.scan _ (by simp), scan_closing]
    simp only [Option.map_map, List.cons_append, List.append_assoc]
    rfl
  · rw [parameters_group, ← inside.marks]
    simp only [Token.parameters, List.filterMap_cons, List.filterMap_append, Token.parameter?,
      List.filterMap_nil, List.append_nil]

/-- The parts of a group, joined. -/
def itemsJoined (connective : Connective) : List Layout → List Item
  | [] => []
  | first :: others => first.items ++ Layout.itemsBehind connective others

theorem tokens_test (single : Test) :
    (Layout.test single).items.flatMap Item.tokens = single.tokens := by
  simp [Layout.items, Item.tokens]

theorem tokens_group (connective : Connective) (first : Layout) (others : List Layout) :
    (Layout.group connective first others).items.flatMap Item.tokens =
      .opening ::
        ((itemsJoined connective (first :: others)).flatMap Item.tokens ++ [.closing]) := by
  simp [Layout.items, Item.tokens, itemsJoined]

theorem tokens_joined (connective : Connective) (first second : Layout) (others : List Layout) :
    (itemsJoined connective (first :: second :: others)).flatMap Item.tokens =
      first.items.flatMap Item.tokens ++
        .keyword (.joint connective) ::
          (itemsJoined connective (second :: others)).flatMap Item.tokens := by
  simp [itemsJoined, Layout.itemsBehind, Item.tokens]

/-- Two parts are read one after the other when a connective stands between them. -/
theorem readAs_joined {dialect : Dialect} {connective : Connective} {first others : Writer}
    {given : Nat} {head tail : List Token} (start : first.ReadAs dialect given head)
    (more : others.ReadAs dialect (given + (first given).parameters.length) tail) :
    (first ++ .ofString (separator connective) ++ others : Writer).ReadAs dialect given
      (head ++ .keyword (.joint connective) :: tail) := by
  have text : ((first ++ .ofString (separator connective) ++ others : Writer) given).text =
      (first given).text ++ ' ' :: ((Keyword.joint connective).text.toList ++
        ' ' :: (others (given + (first given).parameters.length)).text) := by
    simp [toList_separator]
  have parameters :
      ((first ++ .ofString (separator connective) ++ others : Writer) given).parameters =
        (first given).parameters ++
          (others (given + (first given).parameters.length)).parameters := by
    simp
  constructor
  · intro rest delimited
    rw [text, parameters, List.length_append]
    simp only [List.append_assoc, List.cons_append]
    rw [start.scan _ (by simp), scan_space, scan_keyword _ _ _ (by simp), scan_space,
      more.scan rest delimited]
    simp only [Option.map_map, Nat.add_assoc]
    rfl
  · have marksStart := start.marks
    have marksMore := more.marks
    simp only [Token.parameters] at marksStart marksMore
    rw [parameters, List.length_append, Token.parameters, List.filterMap_append, marksStart,
      List.filterMap_cons_none rfl, marksMore, Nat.add_right_comm, List.range'_append_1]

mutual

/-- A predicate is read as its tests and groups. -/
theorem readAs_write (dialect : Dialect) :
    ∀ (predicate : Predicate) (given : Nat), predicate.ListsFilled →
      (write dialect predicate).ReadAs dialect given
        ((layout dialect given predicate).items.flatMap Item.tokens)
  | .compare column op value, given, _ => by
    rw [layout, tokens_test]
    exact readAs_compare dialect given column op value
  | .isNull column, given, _ => by
    rw [layout, tokens_test]
    have spelled : " IS NULL".toList = Keyword.spaced [.is, .null] := rfl
    exact readAs_words dialect given column (by simp) spelled
  | .isNotNull column, given, _ => by
    rw [layout, tokens_test]
    have spelled : " IS NOT NULL".toList = Keyword.spaced [.is, .not, .null] := rfl
    exact readAs_words dialect given column (by simp) spelled
  | .among column [], given, filled => absurd rfl filled
  | .among column (value :: values), given, _ => by
    rw [layout, tokens_test]
    have spelled : " IN ".toList = Keyword.spaced [.among] ++ [' '] := rfl
    exact readAs_list dialect given column (by simp) spelled value values
  | .notAmong column [], given, filled => absurd rfl filled
  | .notAmong column (value :: values), given, _ => by
    rw [layout, tokens_test]
    have spelled : " NOT IN ".toList = Keyword.spaced [.not, .among] ++ [' '] := rfl
    exact readAs_list dialect given column (by simp) spelled value values
  | .pattern column kind text, given, _ => by
    rw [layout, tokens_test]
    exact readAs_pattern dialect given column kind text
  | .all [], given, _ => by
    rw [layout, tokens_test]
    exact readAs_constant dialect given true
  | .any [], given, _ => by
    rw [layout, tokens_test]
    exact readAs_constant dialect given false
  | .constant truth, given, _ => by
    rw [layout, tokens_test]
    exact readAs_constant dialect given truth
  | .all (first :: others), given, filled => by
    rw [layout, tokens_group]
    exact readAs_group (readAs_parts dialect .conjunction (first :: others) given filled)
  | .any (first :: others), given, filled => by
    rw [layout, tokens_group]
    exact readAs_group (readAs_parts dialect .disjunction (first :: others) given filled)

/-- The parts of a group are read one after the other. -/
theorem readAs_parts (dialect : Dialect) (connective : Connective) :
    ∀ (parts : List Predicate) (given : Nat), AllFilled parts →
      (Writer.separated (separator connective) (writeParts dialect parts)).ReadAs dialect given
        ((itemsJoined connective (layouts dialect given parts)).flatMap Item.tokens)
  | [], given, _ => by
    constructor
    · intro rest _
      exact Option.map_id'.symm
    · rfl
  | [only], given, filled => by
    have single := readAs_write dialect only given filled.1
    have tokens : (itemsJoined connective (layouts dialect given [only])).flatMap Item.tokens =
        (layout dialect given only).items.flatMap Item.tokens := by
      simp [layouts, itemsJoined, Layout.itemsBehind]
    rw [tokens]
    exact single
  | first :: second :: more, given, filled => by
    have start := readAs_write dialect first given filled.1
    have others := readAs_parts dialect connective (second :: more)
      (given + (write dialect first given).parameters.length) filled.2
    rw [layouts, layouts, tokens_joined]
    exact readAs_joined start others

end

end Predicate

end RecordQuery.Sql
