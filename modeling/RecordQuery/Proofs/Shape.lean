import RecordQuery.Proofs.Blanks

/-!
# The shape of what is planned

Literals are only handed over. Queries that differ in literals alone have the same statements with
as many parameters, and filter documents that differ in their operands alone.
-/

namespace RecordQuery

open FilterDocument (encode)

/-! ### Predicates and their statements -/

namespace Sql

namespace Predicate

mutual

/-- The predicate with a blank for each value and no text in a pattern. -/
def blanked : Predicate → Predicate
  | .compare column op _ => .compare column op .blank
  | .isNull column => .isNull column
  | .isNotNull column => .isNotNull column
  | .among column values => .among column (values.map fun _ => .blank)
  | .notAmong column values => .notAmong column (values.map fun _ => .blank)
  | .pattern column kind _ => .pattern column kind ""
  | .all parts => .all (blankedParts parts)
  | .any parts => .any (blankedParts parts)
  | .constant truth => .constant truth

def blankedParts : List Predicate → List Predicate
  | [] => []
  | part :: rest => part.blanked :: blankedParts rest

end

end Predicate

/-- The same text with as many parameters. -/
structure Fragment.SameShape (first second : Fragment) : Prop where
  text : first.text = second.text
  count : first.parameters.length = second.parameters.length

/-- Of the same shape behind any number of parameters. -/
def Writer.SameShape (first second : Writer) : Prop :=
  ∀ given, (first given).SameShape (second given)

namespace Writer.SameShape

variable {first second third fourth : Writer}

theorem refl (writer : Writer) : writer.SameShape writer := fun _ => ⟨rfl, rfl⟩

theorem append (heads : first.SameShape second) (tails : third.SameShape fourth) :
    (first ++ third).SameShape (second ++ fourth) := by
  intro given
  obtain ⟨text, count⟩ := heads given
  -- What follows is written after as many parameters.
  obtain ⟨textBehind, countBehind⟩ := tails (given + (first given).parameters.length)
  constructor
  · rw [text_append, text_append, text, textBehind, count]
  · rw [parameters_append, parameters_append, List.length_append, List.length_append, countBehind,
      count]

theorem separated (separator : String) {firsts seconds : List Writer}
    (each : List.Forall₂ SameShape firsts seconds) :
    (Writer.separated separator firsts).SameShape (Writer.separated separator seconds) := by
  induction each with
  | nil => exact refl _
  | cons part others ih =>
    cases others with
    | nil => exact part
    | cons next more => exact (part.append (refl _)).append ih

theorem parameter (dialect : Dialect) (left right : Value) :
    (Writer.parameter dialect left).SameShape (Writer.parameter dialect right) :=
  fun _ => ⟨rfl, rfl⟩

theorem parameters (dialect : Dialect) (values : List Value) :
    List.Forall₂ SameShape (values.map (Writer.parameter dialect))
      ((values.map fun _ => Value.blank).map (Writer.parameter dialect)) := by
  induction values with
  | nil => exact .nil
  | cons value rest ih => exact .cons (parameter dialect value .blank) ih

end Writer.SameShape

namespace Predicate

open Writer.SameShape (refl append separated parameter parameters)

theorem writeList_blanked (dialect : Dialect) (values : List Value) :
    (writeList dialect values).SameShape (writeList dialect (values.map fun _ => .blank)) :=
  ((refl _).append (separated ", " (parameters dialect values))).append (refl _)

mutual

/-- Values have no part in the text of a predicate. -/
theorem write_blanked (dialect : Dialect) :
    ∀ predicate : Predicate, (write dialect predicate).SameShape (write dialect predicate.blanked)
  | .compare _ _ value => (refl _).append (parameter dialect value .blank)
  | .isNull _ => refl _
  | .isNotNull _ => refl _
  | .among _ values => (refl _).append (writeList_blanked dialect values)
  | .notAmong _ values => (refl _).append (writeList_blanked dialect values)
  | .pattern _ _ _ => ((refl _).append (parameter dialect _ _)).append (refl _)
  | .all [] => refl _
  | .all (part :: rest) =>
    ((refl _).append (separated " AND " (writeParts_blanked dialect (part :: rest)))).append
      (refl _)
  | .any [] => refl _
  | .any (part :: rest) =>
    ((refl _).append (separated " OR " (writeParts_blanked dialect (part :: rest)))).append
      (refl _)
  | .constant _ => refl _

theorem writeParts_blanked (dialect : Dialect) :
    ∀ parts : List Predicate,
      List.Forall₂ Writer.SameShape (writeParts dialect parts)
        (writeParts dialect (blankedParts parts))
  | [] => .nil
  | part :: rest => .cons (write_blanked dialect part) (writeParts_blanked dialect rest)

end

theorem sameShape_of_blanked (dialect : Dialect) {first second : Predicate}
    (same : first.blanked = second.blanked) :
    (write dialect first).SameShape (write dialect second) := by
  intro given
  have left := write_blanked dialect first given
  have right := write_blanked dialect second given
  rw [← same] at right
  exact ⟨left.text.trans right.text.symm, left.count.trans right.count.symm⟩

end Predicate

/-- The statements of two plans have the same shapes. -/
structure SameStatements (first second : TablePlan) : Prop where
  select : ∀ dialect table, (select dialect table first).SameShape (select dialect table second)
  count : ∀ dialect table,
    (count dialect table first.filter).SameShape (count dialect table second.filter)
  delete : ∀ dialect table, Option.Rel Fragment.SameShape
    (first.filter.map (delete dialect table)) (second.filter.map (delete dialect table))

theorem sameStatements_of_alike {first second : TablePlan}
    (alike : first.Alike Predicate.blanked second) : SameStatements first second := by
  obtain ⟨filter, order, fields, limit, skip⟩ := first
  obtain ⟨filter', order', fields', limit', skip'⟩ := second
  obtain ⟨related, rfl, rfl, rfl, rfl⟩ := alike
  have clause (dialect : Dialect) :
      (writeWhere dialect filter).SameShape (writeWhere dialect filter') := by
    cases related with
    | none => exact .refl _
    | some same =>
      exact (Writer.SameShape.refl _).append (Predicate.sameShape_of_blanked dialect same)
  constructor
  · intro dialect table
    exact ((((Writer.SameShape.refl _).append (clause dialect)).append (.refl _)).append
      (.refl _)) 0
  · intro dialect table
    exact ((Writer.SameShape.refl _).append (clause dialect)) 0
  · intro dialect table
    cases related with
    | none => exact .none
    | some same => exact .some (((Writer.SameShape.refl _).append (clause dialect)) 0)

namespace Relational

theorem compare?_blanked (column : String) (comparison : Comparison) (operand : Operand) :
    compare? column comparison operand.blanked =
      (compare? column comparison operand).map Predicate.blanked := by
  cases operand with
  | null | single _ | pattern _ => cases comparison <;> rfl
  | many values =>
    -- Whether a set is empty does not depend on what is in it.
    cases values <;> cases comparison <;> rfl

end Relational

end Sql

namespace Planner

open Sql (Predicate)

mutual

/-- A blank tree is emitted as a blank predicate. -/
theorem forTables_emitTree_blanked (schema : Schema) (settings : Settings) :
    ∀ (tree : Tree) {predicate : Predicate},
      (forTables schema settings).emitTree tree = .ok predicate →
        (forTables schema settings).emitTree tree.blanked = .ok predicate.blanked
  | .comparison leaf, predicate, emitted => by
    obtain ⟨reached, compared⟩ := forTables_emitLeaf_eq_ok.mp emitted
    refine forTables_emitLeaf_eq_ok.mpr ⟨reached, ?_⟩
    show Sql.Relational.compare? _ leaf.comparison leaf.operand.blanked = _
    rw [Sql.Relational.compare?_blanked]
    exact congrArg (Option.map Predicate.blanked) compared
  | .joined connective parts, predicate, emitted => by
    obtain ⟨predicates, emittedParts, rfl⟩ :=
      (forTables schema settings).emitTree_joined_eq_ok.mp emitted
    refine (forTables schema settings).emitTree_joined_eq_ok.mpr
      ⟨Predicate.blankedParts predicates, ?_, ?_⟩
    · exact forTables_emitTrees_blanked schema settings parts emittedParts
    · cases connective <;> rfl

theorem forTables_emitTrees_blanked (schema : Schema) (settings : Settings) :
    ∀ (trees : List Tree) {predicates : List Predicate},
      (forTables schema settings).emitTrees trees = .ok predicates →
        (forTables schema settings).emitTrees (Tree.blankedParts trees) =
          .ok (Predicate.blankedParts predicates)
  | [], predicates, emitted => by
    cases emitted
    rfl
  | tree :: rest, predicates, emitted => by
    obtain ⟨predicate, predicates, first, others, rfl⟩ :=
      (forTables schema settings).emitTrees_cons_eq_ok.mp emitted
    exact (forTables schema settings).emitTrees_cons_eq_ok.mpr ⟨_, _,
      forTables_emitTree_blanked schema settings tree first,
      forTables_emitTrees_blanked schema settings rest others, rfl⟩

end

-- Two runs are compared through the one blank tree, which is emitted in one way only.

theorem forTables_ignores (schema : Schema) (settings : Settings) :
    (forTables schema settings).Ignores Predicate.blanked := by
  intro entity first second predicate predicate' same planned planned'
  obtain ⟨tree, resolves, emitted⟩ := (planCondition_eq_ok _ entity first _).mp planned
  obtain ⟨tree', resolves', emitted'⟩ := (planCondition_eq_ok _ entity second _).mp planned'
  have blank := forTables_emitTree_blanked schema settings tree emitted
  have blank' := forTables_emitTree_blanked schema settings tree' emitted'
  rw [blanked_of_planCondition _ entity first second same resolves resolves'] at blank
  exact Except.ok.inj (blank.symm.trans blank')

end Planner

/-! ### Filter documents -/

namespace FilterDocument

/-- The operand with a hole for each value. Null stands for no value. -/
def maskOperand (hole : Json) : Json → Json
  | .null => .null
  | .list items => .list (items.map fun _ => hole)
  | _ => hole

mutual

/-- The filter with holes in its operands. -/
def mask (hole : Json) : Json → Json
  | .object entries => .object (maskEntries hole entries)
  | other => other

def maskEntries (hole : Json) : List (String × Json) → List (String × Json)
  | [] => []
  | (key, .list clauses) :: rest => (key, .list (maskClauses hole clauses)) :: maskEntries hole rest
  | (key, .object tests) :: rest =>
    (key, .object (tests.map fun test => (test.1, maskOperand hole test.2))) ::
      maskEntries hole rest
  | entry :: rest => entry :: maskEntries hole rest

def maskClauses (hole : Json) : List Json → List Json
  | [] => []
  | clause :: rest => mask hole clause :: maskClauses hole rest

end

theorem mask_test (hole : Json) (path operator : String) (operand : Json) :
    mask hole (Json.single path (Json.single operator operand)) =
      Json.single path (Json.single operator (maskOperand hole operand)) := rfl

theorem maskOperand_encode (hole : Json) {value : Value} (written : encode value ≠ .null) :
    maskOperand hole (encode value) = hole := by
  cases value with
  | null => exact absurd rfl written
  | bool | int32 | int64 | string | uuid => rfl
  | float32 number =>
    simp only [encode, encodeReal] at written ⊢
    split at written
    next finite => rw [if_pos finite]; rfl
    next => exact absurd rfl written
  | float64 number =>
    simp only [encode, encodeReal] at written ⊢
    split at written
    next finite => rw [if_pos finite]; rfl
    next => exact absurd rfl written
  | timestamp micros =>
    rw [encode]
    split <;> rfl

theorem mask_test?_blanked (hole : Json) (path : String) {comparison : Comparison}
    {operand : Operand} {test : Json} (written : ∀ value ∈ operand.values, encode value ≠ .null)
    (tested : test? comparison operand = some test) :
    ∃ blank, test? comparison operand.blanked = some blank ∧
      mask hole (Json.single path blank) = mask hole (Json.single path test) := by
  cases operand with
  | null => exact ⟨test, tested, rfl⟩
  | single value =>
    obtain ⟨operator, keyed, rfl⟩ := Option.map_eq_some_iff.mp tested
    refine ⟨_, Option.map_eq_some_iff.mpr ⟨operator, keyed, rfl⟩, ?_⟩
    rw [mask_test, mask_test, maskOperand_encode hole (written value List.mem_cons_self)]
    rfl
  | many values =>
    obtain ⟨operator, keyed, rfl⟩ := Option.map_eq_some_iff.mp tested
    refine ⟨_, Option.map_eq_some_iff.mpr ⟨operator, keyed, rfl⟩, ?_⟩
    simp only [mask_test, maskOperand, List.map_map, Function.comp_def]
  | pattern text =>
    obtain ⟨regex, found, rfl⟩ := Option.map_eq_some_iff.mp tested
    cases comparison <;> cases found <;>
      exact ⟨_, rfl, rfl⟩

end FilterDocument

namespace Planner

open FilterDocument (mask maskClauses)

mutual

/-- A blank tree is emitted as a filter with the same holes. -/
theorem forDocuments_emitTree_blanked (schema : Schema) (settings : Settings) (hole : Json) :
    ∀ (tree : Tree) {filter : Json},
      (∀ leaf ∈ tree.leaves, ∀ value ∈ leaf.operand.values, encode value ≠ .null) →
        (forDocuments schema settings).emitTree tree = .ok filter →
          ∃ blank, (forDocuments schema settings).emitTree tree.blanked = .ok blank ∧
            mask hole blank = mask hole filter
  | .comparison leaf, filter, written, emitted => by
    obtain ⟨test, tested, rfl⟩ := forDocuments_emitLeaf_eq_ok.mp emitted
    obtain ⟨blank, testedBlank, masked⟩ := FilterDocument.mask_test?_blanked hole
      (FilterDocument.key leaf.path) (written leaf List.mem_cons_self) tested
    exact ⟨_, forDocuments_emitLeaf_eq_ok.mpr ⟨blank, testedBlank, rfl⟩, masked⟩
  | .joined connective parts, filter, written, emitted => by
    obtain ⟨clauses, emittedParts, rfl⟩ :=
      (forDocuments schema settings).emitTree_joined_eq_ok.mp emitted
    obtain ⟨blanks, emittedBlanks, masked⟩ :=
      forDocuments_emitTrees_blanked schema settings hole parts written emittedParts
    refine ⟨_, (forDocuments schema settings).emitTree_joined_eq_ok.mpr
      ⟨blanks, emittedBlanks, rfl⟩, ?_⟩
    exact congrArg (FilterDocument.backend.join connective) masked

theorem forDocuments_emitTrees_blanked (schema : Schema) (settings : Settings) (hole : Json) :
    ∀ (trees : List Tree) {filters : List Json},
      (∀ leaf ∈ Tree.leavesOf trees, ∀ value ∈ leaf.operand.values, encode value ≠ .null) →
        (forDocuments schema settings).emitTrees trees = .ok filters →
          ∃ blanks, (forDocuments schema settings).emitTrees (Tree.blankedParts trees) =
            .ok blanks ∧ maskClauses hole blanks = maskClauses hole filters
  | [], filters, written, emitted => by
    cases emitted
    exact ⟨[], rfl, rfl⟩
  | tree :: rest, filters, written, emitted => by
    obtain ⟨filter, filters, first, others, rfl⟩ :=
      (forDocuments schema settings).emitTrees_cons_eq_ok.mp emitted
    obtain ⟨blank, emittedBlank, masked⟩ := forDocuments_emitTree_blanked schema settings hole
      tree (fun leaf place => written leaf (List.mem_append_left _ place)) first
    obtain ⟨blanks, emittedBlanks, maskedRest⟩ := forDocuments_emitTrees_blanked schema settings
      hole rest (fun leaf place => written leaf (List.mem_append_right _ place)) others
    refine ⟨blank :: blanks, (forDocuments schema settings).emitTrees_cons_eq_ok.mpr
      ⟨blank, blanks, emittedBlank, emittedBlanks, rfl⟩, ?_⟩
    rw [maskClauses, maskClauses, masked, maskedRest]

end

theorem forDocuments_ignores (schema : Schema) (settings : Settings) (hole : Json) :
    (forDocuments schema settings).Ignores (mask hole) := by
  intro entity first second filter filter' same planned planned'
  obtain ⟨tree, resolves, emitted⟩ := (planCondition_eq_ok _ entity first _).mp planned
  obtain ⟨tree', resolves', emitted'⟩ := (planCondition_eq_ok _ entity second _).mp planned'
  obtain ⟨blank, emittedBlank, masked⟩ := forDocuments_emitTree_blanked schema settings hole tree
    (fun _ place _ given => encode_ne_null_of_planCondition _ entity resolves place given) emitted
  obtain ⟨blank', emittedBlank', masked'⟩ :=
    forDocuments_emitTree_blanked schema settings hole tree'
      (fun _ place _ given => encode_ne_null_of_planCondition _ entity resolves' place given)
      emitted'
  rw [blanked_of_planCondition _ entity first second same resolves resolves'] at emittedBlank
  cases emittedBlank.symm.trans emittedBlank'
  exact masked.symm.trans masked'

end Planner

/-! ### Main result -/

/-- Queries that differ in literals alone have statements of the same shapes in every dialect, and
filter documents with the same holes. Apart from the condition their plans are the same. -/
theorem literals_keep_shape (schema : Schema) (settings : Settings) (name : String)
    {first second : Query} (same : first.blanked = second.blanked) :
    (∀ plan plan', (Planner.forTables schema settings).planQuery name first = .ok plan →
      (Planner.forTables schema settings).planQuery name second = .ok plan' →
        Sql.SameStatements plan plan') ∧
    (∀ plan plan', (Planner.forDocuments schema settings).planQuery name first = .ok plan →
      (Planner.forDocuments schema settings).planQuery name second = .ok plan' →
        ∀ hole, plan.Alike (FilterDocument.mask hole) plan') := by
  constructor
  · intro plan plan' planned planned'
    exact Sql.sameStatements_of_alike ((Planner.forTables schema settings).alike_of_planQuery
      (Planner.forTables_ignores schema settings) same planned planned')
  · intro plan plan' planned planned' hole
    exact (Planner.forDocuments schema settings).alike_of_planQuery
      (Planner.forDocuments_ignores schema settings hole) same planned planned'

/-! ### Books by title and genre -/

namespace Sample

/-- Books have a title, a genre and a year. -/
def library : Schema :=
  .ofEntities 1
    [{ name := "Book", identity := "Title",
       fields :=
         [{ name := "Title", type := .scalar .string },
          { name := "Genre", type := .enumeration "Genre" ["Novel", "Poem"] },
          .optional "Year" (.optionalScalar .int32)] }]

/-- The books of a genre from some years with a text in the title. -/
def search (title genre : String) (years : List Literal) : Query where
  condition := some (.grouped [.all
    [.compared "title" "contains" (.string title), .compared "genre" "eq" (.string genre),
     .amongst "year" "in" years]])
  order := [.ascendingBy "Title"]

def seaNovels : Query := search "sea" "NOVEL" [.integer 1851, .integer 1866]

/-- The text would end the quotes around it in a statement. -/
def quotedPoems : Query := search "' OR 1 = 1 --" "poem" [.string "1922", .integer 1923]

theorem searches_shaped_alike :
    seaNovels.blanked = quotedPoems.blanked ∧
      ∃ plan plan' documents documents',
        (Planner.forTables library {}).planQuery "book" seaNovels = .ok plan ∧
          (Planner.forTables library {}).planQuery "book" quotedPoems = .ok plan' ∧
          Sql.SameStatements plan plan' ∧
        (Planner.forDocuments library {}).planQuery "book" seaNovels = .ok documents ∧
          (Planner.forDocuments library {}).planQuery "book" quotedPoems = .ok documents' ∧
          documents.Alike (FilterDocument.mask (.string "_")) documents' := by
  have same : seaNovels.blanked = quotedPoems.blanked := rfl
  have shape := literals_keep_shape library {} "book" same
  exact ⟨same, _, _, _, _, rfl, rfl, shape.1 _ _ rfl rfl, rfl, rfl, shape.2 _ _ rfl rfl _⟩

end Sample

end RecordQuery
