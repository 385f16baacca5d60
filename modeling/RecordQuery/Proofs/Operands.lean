import RecordQuery.FilterDocument
import RecordQuery.Proofs.Planning
import RecordQuery.Proofs.Rounding
import RecordQuery.Sql.Relational

/-!
# Operands

What a comparison is handed to compare with has the kind that the comparison asks for, so that each
backend has a form for it. Its values come from literals of the request and are never null, neither
by themselves nor as they are written in a document.
-/

namespace RecordQuery

open FilterDocument (encode)

namespace Operand

/-- Is the operand of the kind that the comparison asks for? -/
def fits (comparison : Comparison) : Operand → Bool
  | .null => comparison == .equal || comparison == .notEqual
  | .single _ => !comparison.isMembership && !comparison.isPattern
  | .many _ => comparison.isMembership
  | .pattern _ => comparison.isPattern

/-- The typed values of an operand. -/
def values : Operand → List Value
  | .null => []
  | .single value => [value]
  | .many values => values
  | .pattern _ => []

/-- The relational backend has a form for an operand that fits, and for no other. -/
theorem compare?_isSome (column : String) (comparison : Comparison) (operand : Operand) :
    (Sql.Relational.compare? column comparison operand).isSome = operand.fits comparison := by
  cases operand <;> cases comparison <;> rfl

/-- The document backend has a form for an operand that fits, and for no other. -/
theorem test?_isSome (comparison : Comparison) (operand : Operand) :
    (FilterDocument.test? comparison operand).isSome = operand.fits comparison := by
  cases operand <;> cases comparison <;> rfl

end Operand

namespace ScalarType

theorem isFinite_of_readFinite? {format : FloatFormat} {text : List Char} {number : Binary format}
    (found : readFinite? format text = some number) :
    Numeral.real? format text = some number ∧ number.isFinite = true := by
  obtain ⟨candidate, read, kept⟩ := Option.bind_eq_some_iff.mp found
  split at kept
  next finite => cases kept; exact ⟨read, finite⟩
  next => cases kept

theorem encodeReal_ne_null {number : Double} (finite : number.isFinite = true) :
    FilterDocument.encodeReal number ≠ .null := by
  simp [FilterDocument.encodeReal, finite]

/-- A text is read as a value that documents have a form for. -/
theorem encode_ne_null_of_read? {type : ScalarType} {text : String} {value : Value}
    (found : type.read? text = some value) : encode value ≠ .null := by
  cases type with
  | bool | int32 | int64 | uuid =>
    obtain ⟨_, _, rfl⟩ := Option.map_eq_some_iff.mp found
    simp [encode, Json.single]
  | string =>
    cases found
    simp [encode]
  | timestamp =>
    obtain ⟨micros, _, rfl⟩ := Option.map_eq_some_iff.mp found
    simp only [encode]
    cases Timestamp.text? micros <;> simp [Json.single]
  | float32 =>
    obtain ⟨number, read, rfl⟩ := Option.map_eq_some_iff.mp found
    obtain ⟨real, finite⟩ := isFinite_of_readFinite? read
    -- Widened to 64 bits the number is still finite, so it is written as a number.
    have within := Numeral.isWithinFormat_of_real? (by decide) (by decide) real
    exact encodeReal_ne_null (Binary.isFinite_convert_double finite within)
  | float64 =>
    obtain ⟨number, read, rfl⟩ := Option.map_eq_some_iff.mp found
    exact encodeReal_ne_null (isFinite_of_readFinite? read).2

end ScalarType

namespace FieldType

/-- The declared variants of an enumeration, which may be optional. -/
def enumerated? : FieldType → Option (List String)
  | .enumeration _ variants => some variants
  | .optionalEnumeration _ variants => some variants
  | _ => none

theorem enumerated?_eq_none {type : FieldType} {inner : ScalarType}
    (scalar : type.scalar? = some inner) : type.enumerated? = none := by
  cases type <;> first | rfl | cases scalar

/-- A literal is converted to what a scalar type reads from its text or to the variant of its
text. -/
theorem coerce_eq_ok {type : FieldType} {field : String} {literal : Literal} {value : Value} :
    type.coerce field literal = .ok value ↔
      (∃ inner, type.scalar? = some inner ∧ inner.read? literal.text = some value) ∨
        ∃ variants variant, type.enumerated? = some variants ∧
          variant? variants literal.text = some variant ∧ .string variant = value := by
  unfold coerce read
  cases type with
  | scalar inner | optionalScalar inner | arrayOfScalar inner =>
    cases found : inner.read? literal.text <;> simp [scalar?, enumerated?, found]
  | enumeration name variants | optionalEnumeration name variants =>
    cases found : variant? variants literal.text <;> simp [scalar?, enumerated?, found]
  | embedded _ | optionalEmbedded _ | arrayOfEmbedded _ => simp [scalar?, enumerated?]

/-- A literal is converted to a value that documents have a form for. -/
theorem encode_ne_null_of_coerce {type : FieldType} {field : String} {literal : Literal}
    {value : Value} (converted : type.coerce field literal = .ok value) :
    encode value ≠ .null := by
  rcases coerce_eq_ok.mp converted with ⟨inner, _, read⟩ | ⟨_, variant, _, _, rfl⟩
  · exact ScalarType.encode_ne_null_of_read? read
  · simp [encode]

end FieldType

namespace Planner

theorem coerced_eq_ok {α : Type} {conversion : Except CoercionFault α} {value : α} :
    coerced conversion = .ok value ↔ conversion = .ok value := by
  cases conversion <;> simp [coerced]

theorem coerced_eq_error {α : Type} {conversion : Except CoercionFault α} {fault : PlanFault} :
    coerced conversion = .error fault ↔
      ∃ cause, conversion = .error cause ∧ PlanFault.coercion cause = fault := by
  cases conversion <;> simp [coerced]

variable {type : FieldType} {field : String} {comparison : Comparison} {value : Option Literal}
  {values : List Literal} {typed : Operand}

/-- An operand fits its comparison. Its values are converted literals, and the text of a pattern is
that of the literal. -/
structure Typed (type : FieldType) (field : String) (comparison : Comparison)
    (value : Option Literal) (typed : Operand) : Prop where
  fits : typed.fits comparison = true
  values : ∀ single ∈ typed.values, ∃ literal, type.coerce field literal = .ok single
  pattern : ∀ text, typed = .pattern text →
    ∃ literal, value = some literal ∧ literal.text = text

theorem typed_of_operand (found : operand type field comparison value values = .ok typed) :
    Typed type field comparison value typed := by
  unfold operand at found
  split at found
  next membership =>
    -- A set is the list of values, or the single value where the list is empty.
    split at found
    next =>
      cases found
      exact ⟨membership, by simp [Operand.values], by simp⟩
    next literal =>
      simp only [bind_eq_ok, coerced_eq_ok, pure_eq_ok] at found
      obtain ⟨single, converted, rfl⟩ := found
      exact ⟨membership, by simpa [Operand.values] using ⟨literal, converted⟩, by simp⟩
    next =>
      simp only [bind_eq_ok, coerced_eq_ok, pure_eq_ok] at found
      obtain ⟨singles, converted, rfl⟩ := found
      refine ⟨membership, fun single member => ?_, by simp⟩
      obtain ⟨literal, _, each⟩ := exists_related (mapM_eq_ok.mp converted) member
      exact ⟨literal, each⟩
  next single =>
    -- Without a value there is only equality with null, or its negation.
    split at found
    next =>
      split at found
      next equality =>
        cases found
        exact ⟨by simpa [Operand.fits] using equality, by simp [Operand.values], by simp⟩
      next => cases found
    next literal =>
      split at found
      next pattern =>
        simp only [bind_eq_ok, coerced_eq_ok, pure_eq_ok] at found
        obtain ⟨text, written, rfl⟩ := found
        unfold FieldType.patternText at written
        split at written
        · cases written
          exact ⟨pattern, by simp [Operand.values], by simp⟩
        · cases written
      next pattern =>
        simp only [bind_eq_ok, coerced_eq_ok, pure_eq_ok] at found
        obtain ⟨value, converted, rfl⟩ := found
        exact ⟨by simp [Operand.fits, single, pattern],
          by simpa [Operand.values] using ⟨literal, converted⟩, by simp⟩

theorem coercion_of_coerced {α : Type} {conversion : Except CoercionFault α} {kind : α → Operand}
    {fault : PlanFault}
    (failed : (coerced conversion >>= fun value => pure (kind value)) = .error fault) :
    ∃ cause, fault = .coercion cause := by
  simp only [bind_eq_error, coerced_eq_error, pure_ne_error, and_false, exists_false,
    or_false] at failed
  obtain ⟨cause, _, rfl⟩ := failed
  exact ⟨cause, rfl⟩

/-- Without an operand there is a literal that does not fit, or none where one is needed. -/
theorem coercion_of_operand {fault : PlanFault}
    (failed : operand type field comparison value values = .error fault) :
    ∃ cause, fault = .coercion cause := by
  unfold operand at failed
  split at failed
  · split at failed
    · cases failed
    · exact coercion_of_coerced failed
    · exact coercion_of_coerced failed
  · split at failed
    · split at failed
      · cases failed
      · cases failed
        exact ⟨_, rfl⟩
    · split at failed
      · exact coercion_of_coerced failed
      · exact coercion_of_coerced failed

/-! ### The backends -/

/-- The planner for tables. -/
def forTables (schema : Schema) (settings : Settings) :
    Planner Sql.Predicate (List Sql.OrderTerm) (List String) :=
  ⟨schema, settings, Sql.Relational.backend⟩

/-- The planner for documents. -/
def forDocuments (schema : Schema) (settings : Settings) :
    Planner Json (List (String × Int)) Json :=
  ⟨schema, settings, FilterDocument.backend⟩

variable {schema : Schema} {settings : Settings} {leaf : Leaf}

theorem forTables_emitLeaf_eq_ok {predicate : Sql.Predicate} :
    (forTables schema settings).emitLeaf leaf = .ok predicate ↔
      leaf.path.crossesCollection = false ∧
        Sql.Relational.compare? (Sql.Relational.column leaf.path) leaf.comparison leaf.operand =
          some predicate := by
  simp only [emitLeaf, emit, forTables, Sql.Relational.backend, Sql.Relational.checkPath,
    Sql.Relational.compare, bind_eq_ok]
  cases leaf.path.crossesCollection with
  | true => simp
  | false =>
    cases Sql.Relational.compare? (Sql.Relational.column leaf.path) leaf.comparison leaf.operand <;>
      simp

theorem forDocuments_emitLeaf_eq_ok {filter : Json} :
    (forDocuments schema settings).emitLeaf leaf = .ok filter ↔
      ∃ test, FilterDocument.test? leaf.comparison leaf.operand = some test ∧
        Json.single (FilterDocument.key leaf.path) test = filter := by
  simp only [emitLeaf, emit, forDocuments, FilterDocument.backend, FilterDocument.compare,
    bind_eq_ok]
  cases FilterDocument.test? leaf.comparison leaf.operand <;> simp

end Planner

end RecordQuery
