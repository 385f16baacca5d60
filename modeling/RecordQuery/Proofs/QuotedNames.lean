import RecordQuery.Proofs.Columns
import RecordQuery.Proofs.NameReader

/-!
# Quoted names

What a reader of quotes finds in a statement are the names that were written, whatever their
characters are, and other names leave the characters between them as they are. Each part of a
statement is followed from the names to the places where they stand in the text.
-/

namespace RecordQuery.Sql

/-! ### Written names -/

/-- The text has no quote of any dialect. -/
def QuoteFree (text : List Char) : Prop := ∀ dialect : Dialect, dialect.quoteMark ∉ text

theorem quoteFree_iff {text : List Char} : QuoteFree text ↔ '"' ∉ text ∧ '\x60' ∉ text := by
  constructor
  · exact fun unquoted => ⟨unquoted .postgres, unquoted .mysql⟩
  · rintro ⟨double, back⟩ (_ | _ | _)
    exacts [double, double, back]

instance (text : List Char) : Decidable (QuoteFree text) := decidable_of_iff _ quoteFree_iff.symm

theorem quoteFree_decimal (n : Nat) : QuoteFree (Digits.decimal n) := by
  have digits : ∀ c ∈ Digits.decimal n, c.isDigit = true := fun _ member =>
    Nat.isDigit_of_mem_toDigits (by decide) (by decide) member
  intro dialect member
  have digit := digits _ member
  cases dialect <;> cases digit

theorem quoteFree_placeholder (dialect : Dialect) (number : Nat) :
    QuoteFree (dialect.placeholder number) := by
  have digits := quoteFree_iff.mp (quoteFree_decimal number)
  rw [quoteFree_iff]
  cases dialect <;> simp [Dialect.placeholder, digits]

/-- What is written behind some parameters is the text of the spans, and other names change nothing
but the names. -/
structure Framed (dialect : Dialect) (written : (String → String) → Fragment)
    (spans : List Span) (parameters : List Value) : Prop where
  readable : Readable dialect spans
  fragment : ∀ rename, written rename =
    ⟨(spans.map (Span.renamed rename)).flatMap (Span.text dialect), parameters⟩

namespace Writer

/-- Nothing that is written is a quote. -/
def Unquoted (writer : Writer) : Prop := ∀ given, QuoteFree (writer given).text

theorem Unquoted.nothing : nothing.Unquoted := fun _ _ => List.not_mem_nil

theorem Unquoted.append {first second : Writer} (head : first.Unquoted) (tail : second.Unquoted) :
    (first ++ second).Unquoted := by
  intro given dialect member
  rw [text_append, List.mem_append] at member
  exact member.elim (head _ dialect) (tail _ dialect)

theorem Unquoted.ofString {text : String} (free : QuoteFree text.toList) :
    (Writer.ofString text).Unquoted := fun _ => free

theorem Unquoted.parameter (dialect : Dialect) (value : Value) :
    (Writer.parameter dialect value).Unquoted := fun _ => quoteFree_placeholder dialect _

/-- The names stand in what is written, with the same characters between them whatever they are
changed to. -/
def Frames (dialect : Dialect) (written : (String → String) → Writer) (names : List String) :
    Prop :=
  ∀ given, ∃ spans parameters, spans.filterMap Span.name? = names ∧
    Framed dialect (written · given) spans parameters

section Frames

variable {dialect : Dialect} {written written' : (String → String) → Writer} {writer : Writer}
  {names names' : List String}

theorem append_assoc (first second third : Writer) :
    first ++ second ++ third = first ++ (second ++ third) := by
  funext given
  show Fragment.mk _ _ = Fragment.mk _ _
  simp [List.append_assoc, Nat.add_assoc]

/-- One part stands behind the other, unless both have a name where they meet. -/
theorem framed_append {given : Nat} {spans spans' : List Span} {parameters parameters' : List Value}
    (head : Framed dialect (written · given) spans parameters)
    (tail : Framed dialect (written' · (given + parameters.length)) spans' parameters')
    (apart : ∀ last ∈ spans.getLast?, ∀ first ∈ spans'.head?, Span.Apart last first) :
    Framed dialect (fun rename => (written rename ++ written' rename) given) (spans ++ spans')
      (parameters ++ parameters') := by
  refine ⟨⟨fun c member => ?_, head.readable.apart.append tail.readable.apart apart⟩,
    fun rename => ?_⟩
  · exact (List.mem_append.mp member).elim (head.readable.plain c) (tail.readable.plain c)
  · -- Names do not change the number of parameters, which the second part counts on from.
    have first : written rename given = _ := head.fragment rename
    have second : written' rename (given + parameters.length) = _ := tail.fragment rename
    show Fragment.mk _ _ = Fragment.mk _ _
    rw [first]
    dsimp only
    rw [second, List.map_append, List.flatMap_append]

theorem framed_unquoted (dialect : Dialect) (unquoted : writer.Unquoted) (given : Nat) :
    Framed dialect (fun _ => writer given) (plainSpans (writer given).text)
      (writer given).parameters := by
  refine ⟨⟨fun c member => ?_, ?_⟩, fun rename => ?_⟩
  · obtain ⟨_, listed, same⟩ := List.mem_map.mp member
    cases same
    exact fun quote => unquoted given dialect (quote ▸ listed)
  · rw [plainSpans, List.isChain_map]
    exact (List.pairwise_of_forall fun _ _ => .inl rfl).isChain
  · have text : ((plainSpans (writer given).text).map (Span.renamed rename)).flatMap
        (Span.text dialect) = (writer given).text := by
      simp [plainSpans, List.flatMap_map, Function.comp_def, Span.renamed, Span.text]
    rw [text]

/-- A writer without names. -/
theorem Unquoted.frames (unquoted : writer.Unquoted) : Frames dialect (fun _ => writer) [] :=
  fun given => ⟨_, _, names_plainSpans _, framed_unquoted dialect unquoted given⟩

theorem frames_identifier (name : String) :
    Frames dialect (fun rename => identifier dialect (rename name)) [name] := by
  intro given
  refine ⟨[.name name], [], rfl, ⟨⟨fun c member => ?_, .singleton _⟩, fun rename => ?_⟩⟩
  · cases List.mem_singleton.mp member
  · exact congrArg (Fragment.mk · []) (List.append_nil _).symm

namespace Frames

theorem thenUnquoted (head : Frames dialect written names) (unquoted : writer.Unquoted) :
    Frames dialect (fun rename => written rename ++ writer) names := by
  intro given
  obtain ⟨spans, parameters, rfl, framed⟩ := head given
  have tail := framed_unquoted dialect unquoted (given + parameters.length)
  refine ⟨_, _, ?_, framed_append framed tail fun _ _ _ here => .inr ?_⟩
  · rw [List.filterMap_append, names_plainSpans, List.append_nil]
  · exact name?_of_mem_plainSpans (List.mem_of_mem_head? here)

theorem behindUnquoted (unquoted : writer.Unquoted) (tail : Frames dialect written names) :
    Frames dialect (fun rename => writer ++ written rename) names := by
  intro given
  obtain ⟨spans, parameters, rfl, framed⟩ := tail (given + (writer given).parameters.length)
  have head := framed_unquoted dialect unquoted given
  refine ⟨_, _, ?_, framed_append head framed fun _ here _ _ => .inl ?_⟩
  · rw [List.filterMap_append, names_plainSpans, List.nil_append]
  · exact name?_of_mem_plainSpans (List.mem_of_getLast? here)

theorem enclosed (inside : Frames dialect written names) :
    Frames dialect (fun rename => .ofString "(" ++ written rename ++ .ofString ")") names := by
  have opening : (Writer.ofString "(").Unquoted := .ofString (by decide)
  have closing : (Writer.ofString ")").Unquoted := .ofString (by decide)
  exact (inside.behindUnquoted opening).thenUnquoted closing

/-- Names on both sides of a text stand apart. -/
theorem between (head : Frames dialect written names) {text : String} (some_text : text ≠ "")
    (free : QuoteFree text.toList) (tail : Frames dialect written' names') :
    Frames dialect (fun rename => written rename ++ (.ofString text ++ written' rename))
      (names ++ names') := by
  have middle : (Writer.ofString text).Unquoted := fun _ => free
  intro given
  obtain ⟨spans, parameters, rfl, framed⟩ := head given
  obtain ⟨spans', parameters', rfl, framed'⟩ := tail (given + parameters.length)
  have behind := framed_append (framed_unquoted dialect middle (given + parameters.length)) framed'
    fun _ here _ _ => .inl (name?_of_mem_plainSpans (List.mem_of_getLast? here))
  refine ⟨_, _, ?_, framed_append framed behind fun _ _ first here => .inr ?_⟩
  · simp only [List.filterMap_append, names_plainSpans, List.nil_append]
  · -- The text has a first character, and that is what stands behind the names before it.
    obtain ⟨c, more, chars⟩ := List.exists_cons_of_ne_nil (mt String.toList_eq_nil_iff.mp some_text)
    rw [text_ofString, chars] at here
    cases here
    rfl

theorem separated {Item : Type} {items : List Item} {writers : (String → String) → Item → Writer}
    {named : Item → List String} {separator : String} (some_text : separator ≠ "")
    (free : QuoteFree separator.toList)
    (each : ∀ item ∈ items, Frames dialect (writers · item) (named item)) :
    Frames dialect (fun rename => Writer.separated separator (items.map (writers rename)))
      (items.flatMap named) := by
  induction items with
  | nil => exact Unquoted.nothing.frames
  | cons item rest ih =>
    have first := each item List.mem_cons_self
    have others := ih fun next member => each next (List.mem_cons_of_mem _ member)
    -- A separator follows every item but the last one.
    cases rest with
    | nil => simpa [Writer.separated] using first
    | cons next more =>
      have joined := first.between some_text free others
      rw [List.flatMap_cons]
      simpa only [Writer.separated, List.map_cons, append_assoc] using joined

/-- Items with a name each and commas between them. -/
theorem listed {Item : Type} {items : List Item} {writers : (String → String) → Item → Writer}
    {named : Item → String} (each : ∀ item, Frames dialect (writers · item) [named item]) :
    Frames dialect (fun rename => Writer.separated ", " (items.map (writers rename)))
      (items.map named) := by
  have joined : Frames dialect (fun rename => Writer.separated ", " (items.map (writers rename)))
      (items.flatMap fun item => [named item]) :=
    separated (by decide) (by decide) fun item _ => each item
  rwa [← List.map_eq_flatMap] at joined

end Frames

end Frames

end Writer

namespace Predicate

mutual

/-- The predicate on other columns. -/
def renamed (rename : String → String) : Predicate → Predicate
  | .compare column op value => .compare (rename column) op value
  | .isNull column => .isNull (rename column)
  | .isNotNull column => .isNotNull (rename column)
  | .among column values => .among (rename column) values
  | .notAmong column values => .notAmong (rename column) values
  | .pattern column kind text => .pattern (rename column) kind text
  | .all parts => .all (renamedParts rename parts)
  | .any parts => .any (renamedParts rename parts)
  | .constant truth => .constant truth

def renamedParts (rename : String → String) : List Predicate → List Predicate
  | [] => []
  | part :: rest => part.renamed rename :: renamedParts rename rest

end

section Written

variable (dialect : Dialect)

theorem writeParts_renamedParts (rename : String → String) (parts : List Predicate) :
    writeParts dialect (renamedParts rename parts) =
      parts.map fun part => (part.renamed rename).write dialect := by
  induction parts with
  | nil => rfl
  | cons part rest ih => rw [renamedParts, writeParts, ih, List.map_cons]

theorem columnsOf_eq_flatMap (parts : List Predicate) :
    columnsOf parts = parts.flatMap columns := by
  induction parts with
  | nil => rfl
  | cons part rest ih => rw [columnsOf, ih, List.flatMap_cons]

theorem frames_writeList (values : List Value) :
    Writer.Frames dialect (fun _ => writeList dialect values) [] := by
  have inside : Writer.Frames dialect
      (fun _ => .separated ", " (values.map (Writer.parameter dialect)))
      (values.flatMap fun _ => []) :=
    .separated (by decide) (by decide) fun value _ =>
      (Writer.Unquoted.parameter dialect value).frames
  rw [List.flatMap_eq_nil_iff.mpr fun _ _ => rfl] at inside
  exact inside.enclosed

/-- A column and a text behind it that has no quotes. -/
theorem frames_column (column : String) {text : String} (some_text : text ≠ "")
    (free : QuoteFree text.toList) {rest : Writer}
    (tail : Writer.Frames dialect (fun _ => rest) []) :
    Writer.Frames dialect
      (fun rename => .identifier dialect (rename column) ++ .ofString text ++ rest) [column] := by
  have joined := (Writer.frames_identifier column).between some_text free tail
  simp only [← Writer.append_assoc] at joined
  exact joined

theorem frames_constant (truth : Bool) :
    Writer.Frames dialect (fun _ => writeConstant truth) [] := by
  cases truth <;> exact Writer.Unquoted.frames (.ofString (by decide))

/-- A group in parentheses. -/
theorem frames_group {separator : String} (some_text : separator ≠ "")
    (free : QuoteFree separator.toList) {parts : List Predicate}
    (each : ∀ part ∈ parts,
      Writer.Frames dialect (fun rename => (part.renamed rename).write dialect) part.columns) :
    Writer.Frames dialect
      (fun rename => .ofString "(" ++
        .separated separator (writeParts dialect (renamedParts rename parts)) ++ .ofString ")")
      (columnsOf parts) := by
  have inside := Writer.Frames.separated some_text free each
  simp only [← writeParts_renamedParts, ← columnsOf_eq_flatMap] at inside
  exact inside.enclosed

theorem quoteFree_patternOpening : QuoteFree dialect.patternOpening.toList := by
  cases dialect <;> decide

theorem quoteFree_patternClosing : QuoteFree dialect.patternClosing.toList := by
  cases dialect <;> decide

theorem quoteFree_op (op : CompareOp) : QuoteFree op.text.toList := by cases op <;> decide

mutual

/-- What a predicate names are its columns, whatever it is nested in. -/
theorem frames_write : ∀ predicate : Predicate,
    Writer.Frames dialect (fun rename => (predicate.renamed rename).write dialect)
      predicate.columns
  | .compare column op value =>
    have space : (Writer.ofString " ").Unquoted := .ofString (by decide)
    have operator : (Writer.ofString op.text).Unquoted := .ofString (quoteFree_op op)
    ((((Writer.frames_identifier column).thenUnquoted space).thenUnquoted operator).thenUnquoted
      space).thenUnquoted (.parameter dialect value)
  | .isNull column => (Writer.frames_identifier column).thenUnquoted (.ofString (by decide))
  | .isNotNull column => (Writer.frames_identifier column).thenUnquoted (.ofString (by decide))
  | .among column values =>
    frames_column dialect column (by decide) (by decide) (frames_writeList dialect values)
  | .notAmong column values =>
    frames_column dialect column (by decide) (by decide) (frames_writeList dialect values)
  | .pattern column kind text =>
    have opening : (Writer.ofString dialect.patternOpening).Unquoted :=
      .ofString (quoteFree_patternOpening dialect)
    have closing : (Writer.ofString dialect.patternClosing).Unquoted :=
      .ofString (quoteFree_patternClosing dialect)
    (((Writer.frames_identifier column).thenUnquoted opening).thenUnquoted
      (.parameter dialect (.string (dialect.patternText kind text)))).thenUnquoted closing
  | .all [] => frames_constant dialect true
  | .any [] => frames_constant dialect false
  | .constant truth => frames_constant dialect truth
  | .all (first :: others) =>
    frames_group dialect (by decide) (by decide) (frames_parts (first :: others))
  | .any (first :: others) =>
    frames_group dialect (by decide) (by decide) (frames_parts (first :: others))

theorem frames_parts : ∀ parts : List Predicate, ∀ part ∈ parts,
    Writer.Frames dialect (fun rename => (part.renamed rename).write dialect) part.columns
  | part :: _, _, .head _ => frames_write part
  | _ :: rest, part, .tail _ member => frames_parts rest part member

end

end Written

end Predicate

/-! ### Statements -/

def OrderTerm.renamed (rename : String → String) (term : OrderTerm) : OrderTerm :=
  { term with column := rename term.column }

/-- A statement on a table. -/
inductive Statement where
  | select (table : String) (plan : TablePlan)
  | count (table : String) (filter : Option Predicate)
  | delete (table : String) (filter : Predicate)

namespace Statement

def written (dialect : Dialect) : Statement → Fragment
  | .select table plan => Sql.select dialect table plan
  | .count table filter => Sql.count dialect table filter
  | .delete table filter => Sql.delete dialect table filter

/-- The statement on another table with other columns. -/
def renamed (rename : String → String) : Statement → Statement
  | .select table plan =>
    .select (rename table)
      { plan with
        filter := plan.filter.map (Predicate.renamed rename)
        order := plan.order.map (OrderTerm.renamed rename)
        fields := plan.fields.map (List.map rename) }
  | .count table filter => .count (rename table) (filter.map (Predicate.renamed rename))
  | .delete table filter => .delete (rename table) (filter.renamed rename)

/-- The names of a statement in their order: columns to return, table, columns in use. -/
def names : Statement → List String
  | .select table plan => plan.fields.getD [] ++ table :: columnsInUse plan
  | .count table filter => table :: (filter.map Predicate.columns).getD []
  | .delete table filter => table :: filter.columns

end Statement

section Statements

variable (dialect : Dialect)

open Writer (Frames)

theorem frames_columns (fields : Option (List String)) :
    Frames dialect (fun rename => writeColumns dialect (fields.map (List.map rename)))
      (fields.getD []) := by
  match fields with
  | none => exact Writer.Unquoted.frames (.ofString (by decide))
  | some [] => exact Writer.Unquoted.frames (.ofString (by decide))
  | some (column :: rest) =>
    have listed : Frames dialect
        (fun rename => .separated ", " ((column :: rest).map (.identifier dialect ∘ rename)))
        ((column :: rest).map id) := .listed Writer.frames_identifier
    simp only [← List.map_map, List.map_id] at listed
    exact listed

variable {dialect} {written : (String → String) → Writer} {names : List String}

theorem Writer.Frames.thenWhere (head : Frames dialect written names) (filter : Option Predicate) :
    Frames dialect
      (fun rename => written rename ++
        writeWhere dialect (filter.map (Predicate.renamed rename)))
      (names ++ (filter.map Predicate.columns).getD []) := by
  cases filter with
  | none =>
    rw [Option.map_none, Option.getD_none, List.append_nil]
    exact head.thenUnquoted .nothing
  | some predicate =>
    exact head.between (by decide) (by decide) (predicate.frames_write dialect)

theorem frames_orderTerm (dialect : Dialect) (term : OrderTerm) :
    Frames dialect (fun rename => writeOrderTerm dialect (term.renamed rename)) [term.column] := by
  have direction : QuoteFree (if term.descending then " DESC" else " ASC").toList := by
    cases term.descending <;> decide
  exact (Writer.frames_identifier term.column).thenUnquoted (.ofString direction)

theorem Writer.Frames.thenOrder (head : Frames dialect written names) (terms : List OrderTerm) :
    Frames dialect
      (fun rename => written rename ++ writeOrder dialect (terms.map (OrderTerm.renamed rename)))
      (names ++ terms.map (·.column)) := by
  cases terms with
  | nil =>
    rw [List.map_nil, List.append_nil]
    exact head.thenUnquoted .nothing
  | cons first others =>
    have listed : Frames dialect
        (fun rename => .separated ", "
          ((first :: others).map (writeOrderTerm dialect ∘ OrderTerm.renamed rename)))
        ((first :: others).map (·.column)) := .listed (frames_orderTerm dialect)
    have keywords : QuoteFree " ORDER BY ".toList := by decide
    have joined := head.between (by decide) keywords listed
    simp only [← List.map_map] at joined
    exact joined

theorem unquoted_page (dialect : Dialect) (limit skip : Option Nat) :
    (writePage dialect limit skip).Unquoted := by
  have offset : (Writer.ofString " OFFSET ").Unquoted := .ofString (by decide)
  have limited (n : Nat) : (Writer.ofString " LIMIT " ++ writeNatural n).Unquoted :=
    .append (.ofString (by decide)) fun _ => quoteFree_decimal n
  have unlimited : (Writer.ofString (noLimit dialect)).Unquoted :=
    .ofString (by cases dialect <;> decide)
  match limit, skip with
  | none, none => exact .nothing
  | some limit, none => exact limited limit
  | some limit, some skip =>
    exact ((limited limit).append offset).append fun _ => quoteFree_decimal skip
  | none, some skip =>
    exact (unlimited.append offset).append fun _ => quoteFree_decimal skip

/-- A verb and the table behind it. -/
theorem frames_table (dialect : Dialect) (table : String) {verb : String}
    (free : QuoteFree verb.toList) :
    Frames dialect (fun rename => .ofString verb ++ .identifier dialect (rename table)) [table] :=
  .behindUnquoted (.ofString free) (Writer.frames_identifier table)

/-- The columns to return and the table. -/
theorem frames_source (dialect : Dialect) (table : String) (fields : Option (List String)) :
    Frames dialect
      (fun rename => .ofString "SELECT " ++ writeColumns dialect (fields.map (List.map rename)) ++
        .ofString " FROM " ++ .identifier dialect (rename table))
      (fields.getD [] ++ [table]) := by
  have verb : (Writer.ofString "SELECT ").Unquoted := .ofString (by decide)
  have source : QuoteFree " FROM ".toList := by decide
  have joined := ((frames_columns dialect fields).behindUnquoted verb).between (by decide) source
    (Writer.frames_identifier table)
  simp only [← Writer.append_assoc] at joined
  exact joined

/-- Each statement has its names between the same characters. -/
theorem Statement.framed (dialect : Dialect) (statement : Statement) :
    ∃ spans parameters, spans.filterMap Span.name? = statement.names ∧
      Framed dialect (fun rename => (statement.renamed rename).written dialect) spans
        parameters := by
  cases statement with
  | select table plan =>
    have condition := (frames_source dialect table plan.fields).thenWhere plan.filter
    have order := condition.thenOrder plan.order
    have whole := order.thenUnquoted (unquoted_page dialect plan.limit plan.skip)
    rw [List.append_assoc, List.append_assoc] at whole
    -- A statement begins without parameters.
    exact whole 0
  | count table filter =>
    have verb : QuoteFree "SELECT COUNT(*) FROM ".toList := by decide
    exact (frames_table dialect table verb).thenWhere filter 0
  | delete table filter =>
    have verb : QuoteFree "DELETE FROM ".toList := by decide
    exact (frames_table dialect table verb).thenWhere (some filter) 0

end Statements

mutual

theorem Predicate.renamed_id : ∀ predicate : Predicate, predicate.renamed id = predicate
  | .compare .. => rfl
  | .isNull _ => rfl
  | .isNotNull _ => rfl
  | .among .. => rfl
  | .notAmong .. => rfl
  | .pattern .. => rfl
  | .all parts => congrArg Predicate.all (Predicate.renamedParts_id parts)
  | .any parts => congrArg Predicate.any (Predicate.renamedParts_id parts)
  | .constant _ => rfl

theorem Predicate.renamedParts_id :
    ∀ parts : List Predicate, Predicate.renamedParts id parts = parts
  | [] => rfl
  | part :: rest =>
    congrArg₂ List.cons (Predicate.renamed_id part) (Predicate.renamedParts_id rest)

end

theorem Statement.renamed_id (statement : Statement) : statement.renamed id = statement := by
  have same : Predicate.renamed id = id := funext Predicate.renamed_id
  have order : OrderTerm.renamed id = id := rfl
  cases statement <;> simp [Statement.renamed, same, order]

/-! ### Main result -/

/-- What a reader of quotes finds in a statement: its names in their order. With other names it
finds these at their places, the same characters elsewhere, and the parameters are the same. -/
structure Statement.NamesContained (dialect : Dialect) (statement : Statement)
    (spans : List Span) : Prop where
  names : spans.filterMap Span.name? = statement.names
  text : ∀ rename, spans? dialect.quoteMark ((statement.renamed rename).written dialect).text =
    some (spans.map (Span.renamed rename))
  parameters : ∀ rename, ((statement.renamed rename).written dialect).parameters =
    (statement.written dialect).parameters

theorem Statement.exists_namesContained (dialect : Dialect) (statement : Statement) :
    ∃ spans, statement.NamesContained dialect spans := by
  obtain ⟨spans, parameters, names, framed⟩ := statement.framed dialect
  have same : (statement.written dialect).parameters = parameters := by
    have here := framed.fragment id
    rw [statement.renamed_id] at here
    rw [here]
  refine ⟨spans, names, fun rename => ?_, fun rename => ?_⟩
  · rw [framed.fragment rename]
    exact spans?_text dialect (framed.readable.renamed dialect rename)
  · rw [framed.fragment rename, same]

/-- A statement shows its names. -/
theorem Statement.NamesContained.spans?_eq {dialect : Dialect} {statement : Statement}
    {spans : List Span} (contained : statement.NamesContained dialect spans) :
    spans? dialect.quoteMark (statement.written dialect).text = some spans := by
  have same : Span.renamed id = id := by
    funext span
    cases span <;> rfl
  have here := contained.text id
  rwa [statement.renamed_id, same, List.map_id] at here

/-- In every dialect a quoted name is read as it is, up to a text that does not begin with the
quote, and is told from any other name. Statements have their names at places that other names leave
as they are, together with all else in the text, and statements with the same text have the same
names. -/
theorem quoted_names_contained (dialect : Dialect) :
    (∀ name rest, rest.head? ≠ some dialect.quoteMark →
      readName? dialect.quoteMark (dialect.quote name ++ rest) = some (name, rest)) ∧
    (∀ name name' rest rest', rest.head? ≠ some dialect.quoteMark →
      rest'.head? ≠ some dialect.quoteMark →
        dialect.quote name ++ rest = dialect.quote name' ++ rest' → name = name' ∧ rest = rest') ∧
    (∀ statement : Statement, ∃ spans, statement.NamesContained dialect spans) ∧
    ∀ statement statement' : Statement,
      (statement.written dialect).text = (statement'.written dialect).text →
        statement.names = statement'.names := by
  refine ⟨fun name rest => readName?_quote dialect name, ?_,
    Statement.exists_namesContained dialect, ?_⟩
  · intro name name' rest rest' unmarked unmarked' same
    have read := readName?_quote dialect name unmarked
    have read' := readName?_quote dialect name' unmarked'
    cases read.symm.trans (same ▸ read')
    exact ⟨rfl, rfl⟩
  · -- Both statements are read alike, so each shows the names of the other.
    intro statement statement' same
    obtain ⟨spans, contained⟩ := statement.exists_namesContained dialect
    obtain ⟨spans', contained'⟩ := statement'.exists_namesContained dialect
    have found := contained.spans?_eq
    rw [same, contained'.spans?_eq] at found
    cases found
    exact contained.names.symm.trans contained'.names

end RecordQuery.Sql

namespace RecordQuery.Sample

open Sql (Dialect Statement readName?)

/-- A name that begins and ends with quotes and looks like the end of a statement. -/
def quoteful : String := "\"\" = 1; DELETE FROM \"t\""

/-- The name stays a name, in a condition as in the statements. -/
theorem quoteful_contained :
    String.ofList (Dialect.postgres.quote quoteful) =
        "\"\"\"\"\" = 1; DELETE FROM \"\"t\"\"\"" ∧
      readName? '"' (Dialect.postgres.quote quoteful ++ " IS NULL".toList) =
        some (quoteful, " IS NULL".toList) ∧
      (∀ name rest, rest.head? ≠ some '"' →
        Dialect.postgres.quote quoteful ++ " IS NULL".toList =
          Dialect.postgres.quote name ++ rest → quoteful = name) ∧
      (∃ spans, (Statement.delete "t" (.isNull quoteful)).NamesContained .postgres spans) ∧
      (Statement.delete quoteful (.all [])).names =
        (Statement.delete quoteful (.constant true)).names := by
  obtain ⟨read, apart, contained, alike⟩ := Sql.quoted_names_contained .postgres
  exact ⟨by decide, read quoteful _ (by decide),
    fun name rest unmarked same => (apart _ name _ rest (by decide) unmarked same).1,
    contained _, alike _ _ rfl⟩

end RecordQuery.Sample
