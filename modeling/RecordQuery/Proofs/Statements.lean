import RecordQuery.Sql.Relational

/-!
# Statements

A statement with a condition has the predicate as it is rendered alone: the rest of a statement has
no parameters, so that the marks of the predicate begin with the first one.
-/

namespace RecordQuery.Sql

/-- The same text behind any number of parameters, without parameters of its own. -/
def Writer.Fixed (writer : Writer) : Prop := ∀ given, writer given = ⟨(writer 0).text, []⟩

namespace Writer.Fixed

theorem append {first second : Writer} (head : first.Fixed) (tail : second.Fixed) :
    (first ++ second).Fixed := by
  have whole (given : Nat) :
      (first ++ second) given = ⟨(first 0).text ++ (second 0).text, []⟩ := by
    have text : ((first ++ second) given).text = (first 0).text ++ (second 0).text := by
      rw [text_append, head given, tail]
    have parameters : ((first ++ second) given).parameters = [] := by
      rw [parameters_append, head given, tail, List.append_nil]
    rw [← text, ← parameters]
  intro given
  rw [whole given, whole 0]

theorem separated (separator : String) {parts : List Writer} (each : ∀ part ∈ parts, part.Fixed) :
    (Writer.separated separator parts).Fixed := by
  induction parts with
  | nil => exact fun _ => rfl
  | cons part rest ih =>
    have first := each part List.mem_cons_self
    have others := ih fun other member => each other (List.mem_cons_of_mem _ member)
    cases rest with
    | nil => exact first
    | cons next more =>
      have between : (Writer.ofString separator).Fixed := fun _ => rfl
      exact (first.append between).append others

theorem columns (dialect : Dialect) (fields : Option (List String)) :
    (writeColumns dialect fields).Fixed := by
  match fields with
  | none => exact fun _ => rfl
  | some [] => exact fun _ => rfl
  | some (column :: rest) =>
    refine separated ", " fun part member => ?_
    obtain ⟨column, _, rfl⟩ := List.mem_map.mp member
    exact fun _ => rfl

theorem order (dialect : Dialect) (terms : List OrderTerm) : (writeOrder dialect terms).Fixed := by
  unfold writeOrder
  split
  · exact fun _ => rfl
  · have opening : (Writer.ofString " ORDER BY ").Fixed := fun _ => rfl
    refine opening.append (separated ", " fun part member => ?_)
    obtain ⟨term, _, rfl⟩ := List.mem_map.mp member
    exact fun _ => rfl

theorem page (dialect : Dialect) (limit skip : Option Nat) :
    (writePage dialect limit skip).Fixed := by
  cases limit <;> cases skip <;> exact fun _ => rfl

end Writer.Fixed

/-- The statement has the condition behind one text and before another, and the parameters of the
condition and no other. -/
structure Fragment.Embeds (statement condition : Fragment) (before behind : List Char) : Prop where
  text : statement.text = before ++ " WHERE ".toList ++ condition.text ++ behind
  parameters : statement.parameters = condition.parameters

theorem embeds_where (dialect : Dialect) (predicate : Predicate) {before : Writer}
    (fixed : before.Fixed) :
    ((before ++ writeWhere dialect (some predicate)) 0).Embeds (predicate.render dialect)
      (before 0).text [] := by
  have start : (before 0).parameters = [] := congrArg Fragment.parameters (fixed 0)
  constructor
  · simp [writeWhere, start, Predicate.render]
  · simp [writeWhere, start, Predicate.render]

theorem Fragment.Embeds.append {writer tail : Writer} {condition : Fragment}
    {before behind : List Char} (embeds : (writer 0).Embeds condition before behind)
    (fixed : tail.Fixed) :
    ((writer ++ tail) 0).Embeds condition before (behind ++ (tail 0).text) := by
  constructor
  · rw [Writer.text_append, embeds.text, fixed, List.append_assoc]
  · rw [Writer.parameters_append, fixed, List.append_nil, embeds.parameters]

/-- The statements with a condition have the predicate as it is rendered alone. -/
structure Predicate.Embedded (dialect : Dialect) (predicate : Predicate) (table : String) :
    Prop where
  select : ∀ plan : TablePlan, plan.filter = some predicate →
    (select dialect table plan).Embeds (predicate.render dialect)
      ("SELECT ".toList ++ (writeColumns dialect plan.fields 0).text ++ " FROM ".toList ++
        dialect.quote table)
      ((writeOrder dialect plan.order 0).text ++ (writePage dialect plan.limit plan.skip 0).text)
  count : (count dialect table (some predicate)).Embeds (predicate.render dialect)
    ("SELECT COUNT(*) FROM ".toList ++ dialect.quote table) []
  delete : (delete dialect table predicate).Embeds (predicate.render dialect)
    ("DELETE FROM ".toList ++ dialect.quote table) []

theorem Predicate.embedded (dialect : Dialect) (predicate : Predicate) (table : String) :
    predicate.Embedded dialect table := by
  have fixed (verb : String) :
      (.ofString verb ++ .identifier dialect table : Writer).Fixed := fun _ => rfl
  refine ⟨fun plan filter => ?_, embeds_where dialect predicate (fixed "SELECT COUNT(*) FROM "),
    embeds_where dialect predicate (fixed "DELETE FROM ")⟩
  have verb : (Writer.ofString "SELECT ").Fixed := fun _ => rfl
  have source : (Writer.ofString " FROM ").Fixed := fun _ => rfl
  have name : (Writer.identifier dialect table).Fixed := fun _ => rfl
  have head := ((verb.append (.columns dialect plan.fields)).append source).append name
  have condition := embeds_where dialect predicate head
  rw [← filter] at condition
  exact (condition.append (.order dialect plan.order)).append
    (.page dialect plan.limit plan.skip)

end RecordQuery.Sql
