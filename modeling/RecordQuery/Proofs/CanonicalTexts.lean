import RecordQuery.Proofs.IntegerLiterals
import RecordQuery.Proofs.LetterCase
import RecordQuery.Proofs.TypedPredicates

/-!
# Canonical texts

Values of most types have one text that names them in a request: the word of a truth value, the
digits of an integer, a string itself, the microseconds of a timestamp, a variant as it is declared.
Whatever text a value was read from, it is read from its canonical text again.
-/

namespace RecordQuery

/-! ### Texts that spell a variant -/

theorem Text.sameName_refl (text : String) : sameName text text = true := BEq.rfl

/-- Names that differ in case alone are those of the same texts. -/
theorem Text.sameName_congr {text other : String} (same : sameName text other = true)
    (name : String) : sameName name text = sameName name other := by
  rw [Bool.eq_iff_iff]
  constructor
  · intro named
    exact sameName_trans named same
  · intro named
    rw [sameName_comm] at same
    exact sameName_trans named same

namespace FieldType

/-- The variant of a text is the first one that the text spells. -/
theorem variant?_eq_some {variants : List String} {text variant : String} :
    variant? variants text = some variant ↔
      Text.sameName variant text = true ∧
        ∃ before behind, variants = before ++ variant :: behind ∧
          ∀ other ∈ before, Text.sameName other text = false := by
  simp [variant?, List.find?_eq_some_iff_append]

/-- A text in another case is a text of the same variant. -/
theorem variant?_congr {text other : String} (same : Text.sameName text other = true)
    (variants : List String) : variant? variants text = variant? variants other := by
  unfold variant?
  congr 1
  funext variant
  exact Text.sameName_congr same variant

end FieldType

/-! ### The canonical text of a value -/

/-- The canonical text of a value, for the kinds of values that have one. -/
def Value.canonical? : Value → Option String
  | .bool value => some (if value then "true" else "false")
  | .int32 value => some (String.ofList (Digits.integer value.toInt))
  | .int64 value => some (String.ofList (Digits.integer value.toInt))
  | .string value => some value
  | .timestamp micros => some (String.ofList (Digits.integer micros.toInt))
  | _ => none

/-- Do the values of the type have canonical texts? -/
def ScalarType.isCanonical : ScalarType → Bool
  | .bool => true
  | .int32 => true
  | .int64 => true
  | .string => true
  | .timestamp => true
  | _ => false

/-- Do the values of a field have canonical texts? -/
def FieldType.isCanonical (type : FieldType) : Bool :=
  type.scalar?.any ScalarType.isCanonical || type.enumerated?.isSome

/-- The digits of an integer are the text of a literal for it. -/
theorem Literal.carries_digits (n : Int) :
    (Literal.string (String.ofList (Digits.integer n))).Carries n := by
  refine ⟨n, ?_, rfl⟩
  rw [text, String.toList_ofList]
  exact Numeral.writes_integer n

namespace ScalarType

/-- Where a type counts, a value is read from the digits of its integer. -/
theorem read?_digits {type : ScalarType} {n : Int} {value : Value}
    (counts : type.range?.isSome = true) (counted : type.counted? n = some value) :
    type.read? (String.ofList (Digits.integer n)) = some value :=
  (read?_of_carries counts (Literal.carries_digits n)).trans counted

/-- A value of the type is read from its canonical text. -/
theorem read?_canonical {type : ScalarType} {value : Value} (canonical : type.isCanonical = true)
    (held : type.holds value = true) :
    ∃ text, value.canonical? = some text ∧ type.read? text = some value := by
  cases type with
  | bool =>
    cases value with
    | bool truth =>
      refine ⟨_, rfl, ?_⟩
      cases truth <;> decide
    | _ => cases held
  | int32 =>
    cases value with
    | int32 n => exact ⟨_, rfl, read?_digits rfl (by rw [counted?, Width.int32?_toInt]; rfl)⟩
    | _ => cases held
  | int64 =>
    cases value with
    | int64 n => exact ⟨_, rfl, read?_digits rfl (by rw [counted?, Width.int64?_toInt]; rfl)⟩
    | _ => cases held
  | string =>
    cases value with
    | string text => exact ⟨_, rfl, rfl⟩
    | _ => cases held
  | timestamp =>
    cases value with
    | timestamp micros =>
      -- The digits are the text of no date, so the count itself is read.
      exact ⟨_, rfl, read?_digits rfl (by rw [counted?, Width.int64?_toInt]; rfl)⟩
    | _ => cases held
  | float32 | float64 | uuid => cases canonical

end ScalarType

/-! ### Main result -/

/-- A value that a literal was converted to is what its canonical text is converted to. -/
theorem FieldType.coerce_canonical {type : FieldType} {field : String} {literal : Literal}
    {value : Value} (canonical : type.isCanonical = true)
    (converted : type.coerce field literal = .ok value) :
    ∃ text, value.canonical? = some text ∧ type.coerce field (.string text) = .ok value := by
  rcases coerce_eq_ok.mp converted with
    ⟨inner, scalar, read⟩ | ⟨variants, variant, enum, found, rfl⟩
  · have counted : inner.isCanonical = true := by
      simpa [isCanonical, scalar, enumerated?_eq_none scalar] using canonical
    obtain ⟨text, named, again⟩ :=
      ScalarType.read?_canonical counted (ScalarType.holds_of_read? read)
    exact ⟨text, named, coerce_eq_ok.mpr (.inl ⟨inner, scalar, again⟩)⟩
  · -- The variant is the first one that the text spells, and it spells the same ones itself.
    have same := (variant?_eq_some.mp found).1
    have again : variant? variants variant = some variant :=
      (variant?_congr same variants).trans found
    exact ⟨variant, rfl, coerce_eq_ok.mpr (.inr ⟨variants, variant, enum, again, rfl⟩)⟩

/-- For fields of truth values, integers, strings, timestamps or variants: the value of a literal is
the value of its own canonical text, and apart from the variants every value of the type is the
value of its canonical text. -/
theorem canonical_texts_stable (type : FieldType) (field : String) :
    (type.isCanonical = true → ∀ literal value, type.coerce field literal = .ok value →
      ∃ text, value.canonical? = some text ∧ type.coerce field (.string text) = .ok value) ∧
    ∀ inner value, type.scalar? = some inner → inner.isCanonical = true →
      inner.holds value = true →
        ∃ text, value.canonical? = some text ∧ type.coerce field (.string text) = .ok value := by
  constructor
  · intro canonical literal value converted
    exact FieldType.coerce_canonical canonical converted
  · intro inner value scalar canonical held
    obtain ⟨text, named, read⟩ := ScalarType.read?_canonical canonical held
    exact ⟨text, named, FieldType.coerce_eq_ok.mpr (.inl ⟨inner, scalar, read⟩)⟩

namespace Sample

/-- Two of the variants differ in case alone. -/
def mode : FieldType := .optionalEnumeration "Mode" ["off", "Auto", "AUTO"]

/-- The text of a variant in another case gives the first variant, which is stable, and the least
timestamp is read from its digits. -/
theorem mode_stable :
    mode.coerce "mode" (.string "auto") = .ok (.string "Auto") ∧
      (∃ text, (Value.string "Auto").canonical? = some text ∧
        mode.coerce "mode" (.string text) = .ok (.string "Auto")) ∧
      ∃ text, (Value.timestamp Int64.minValue).canonical? = some text ∧
        (FieldType.arrayOfScalar .timestamp).coerce "at" (.string text) =
          .ok (.timestamp Int64.minValue) := by
  have converted : mode.coerce "mode" (.string "auto") = .ok (.string "Auto") := by decide
  refine ⟨converted, ?_, ?_⟩
  · exact (canonical_texts_stable mode "mode").1 rfl _ _ converted
  · exact (canonical_texts_stable _ "at").2 .timestamp _ rfl rfl rfl

end Sample

end RecordQuery
