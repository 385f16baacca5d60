import RecordQuery.Proofs.CanonicalTexts

/-!
# Variants as operands

A literal stands for the first declared variant that its text spells in any case. So a declared
variant is what its own text stands for as long as no variant before it differs from it in case
alone; else no literal stands for it, and its text stands for the other one.
-/

namespace RecordQuery

/-! ### The variant of a text -/

namespace FieldType

/-- The variant is declared, and none of those declared before it is a spelling of it. -/
def Leads (variants : List String) (variant : String) : Prop :=
  ∃ before behind, variants = before ++ variant :: behind ∧
    ∀ other ∈ before, Text.sameName other variant = false

theorem variant?_self_iff {variants : List String} {variant : String} :
    variant? variants variant = some variant ↔ Leads variants variant := by
  rw [variant?_eq_some]
  exact and_iff_right (Text.sameName_refl variant)

/-- What a text stands for leads the variants that the text spells. -/
theorem leads_of_variant? {variants : List String} {text variant : String}
    (found : variant? variants text = some variant) : Leads variants variant := by
  have same := (variant?_eq_some.mp found).1
  exact variant?_self_iff.mp ((variant?_congr same variants).trans found)

theorem exists_variant? {variants : List String} {text : String}
    (spelled : ∃ variant ∈ variants, Text.sameName variant text = true) :
    ∃ variant, variant? variants text = some variant := by
  rw [← Option.isSome_iff_exists, variant?, List.find?_isSome]
  exact spelled

variable {type : FieldType} {variants : List String}

/-- For a field of variants a literal is converted to the variant of its text. -/
theorem coerce_enumerated (enumerated : type.enumerated? = some variants) {field : String}
    {literal : Literal} {value : Value} :
    type.coerce field literal = .ok value ↔
      ∃ variant, variant? variants literal.text = some variant ∧ .string variant = value := by
  rw [coerce_eq_ok]
  constructor
  · rintro (⟨inner, scalar, _⟩ | ⟨_, variant, listed, found, same⟩)
    · cases enumerated.symm.trans (enumerated?_eq_none scalar)
    · cases enumerated.symm.trans listed
      exact ⟨variant, found, same⟩
  · rintro ⟨variant, found, same⟩
    exact .inr ⟨variants, variant, enumerated, found, same⟩

/-- The value is the literal as it is written exactly when its text leads the variants. -/
def KeepsText (variants : List String) (literal : Literal) (value : Value) : Prop :=
  value = .string literal.text ↔ Leads variants literal.text

/-- A literal that spells a variant is converted. -/
theorem exists_coerce_of_spelled (enumerated : type.enumerated? = some variants) (field : String)
    {literal : Literal}
    (spelled : ∃ variant ∈ variants, Text.sameName variant literal.text = true) :
    ∃ value, type.coerce field literal = .ok value ∧ KeepsText variants literal value := by
  obtain ⟨variant, found⟩ := exists_variant? spelled
  refine ⟨.string variant, (coerce_enumerated enumerated).mpr ⟨variant, found, rfl⟩, ?_⟩
  rw [KeepsText, ← variant?_self_iff, found, Option.some.injEq, Value.string.injEq]

/-- A variant is the value of some literal exactly when it leads, and of its own text then. -/
theorem exists_coerce_iff (enumerated : type.enumerated? = some variants) (field variant : String) :
    (∃ literal, type.coerce field literal = .ok (.string variant)) ↔ Leads variants variant := by
  simp only [coerce_enumerated enumerated]
  constructor
  · rintro ⟨literal, _, found, same⟩
    cases same
    exact leads_of_variant? found
  · intro leads
    exact ⟨.string variant, variant, variant?_self_iff.mpr leads, rfl⟩

end FieldType

/-! ### Operands of a comparison -/

/-- Elements that each have a related one are related in order to a list of such. -/
theorem exists_forall₂ {α β : Type} {related : α → β → Prop} {items : List α}
    (each : ∀ item ∈ items, ∃ other, related item other) :
    ∃ others, List.Forall₂ related items others := by
  induction items with
  | nil => exact ⟨[], .nil⟩
  | cons item rest ih =>
    obtain ⟨other, here⟩ := each item List.mem_cons_self
    obtain ⟨others, behind⟩ := ih fun next member => each next (List.mem_cons_of_mem _ member)
    exact ⟨other :: others, .cons here behind⟩

namespace RawComparison

/-- The condition that is the comparison alone. -/
def condition (raw : RawComparison) : Condition :=
  ⟨some raw.field, raw.operator, raw.value, raw.values, none⟩

/-- The literals that are compared with: those of a set, or the single one where there is no set. -/
def taken (raw : RawComparison) (comparison : Comparison) : List Literal :=
  if comparison.isMembership ∧ raw.values ≠ [] then raw.values else raw.value.toList

end RawComparison

namespace Planner

/-- A comparison with literals that are all converted has their values as its operand. -/
theorem exists_operand {raw : RawComparison} {type : FieldType} {comparison : Comparison}
    {values : List Value} (plain : comparison.isPattern = false)
    (given : raw.taken comparison ≠ [])
    (each : List.Forall₂ (fun literal value => type.coerce raw.field literal = .ok value)
      (raw.taken comparison) values) :
    ∃ typed, operand type raw.field comparison raw.value raw.values = .ok typed ∧
      typed.values = values := by
  obtain ⟨field, operator, value, list⟩ := raw
  have alone {literal : Literal}
      (each : List.Forall₂ (fun literal value => type.coerce field literal = .ok value)
        [literal] values) :
      ∃ single, type.coerce field literal = .ok single ∧ values = [single] := by
    obtain ⟨single, rest, converted, none_left, rfl⟩ := List.forall₂_cons_left_iff.mp each
    rw [List.forall₂_nil_left_iff.mp none_left]
    exact ⟨single, converted, rfl⟩
  by_cases membership : comparison.isMembership = true
  · cases list with
    | nil =>
      -- Without a set a single literal stands for one.
      cases value with
      | none => simp [RawComparison.taken] at given
      | some literal =>
        obtain ⟨single, converted, rfl⟩ := alone (by simpa [RawComparison.taken] using each)
        exact ⟨.many [single], by simp [operand, membership, converted, coerced], rfl⟩
    | cons first others =>
      have all : type.coerceAll field (first :: others) = .ok values := by
        apply mapM_eq_ok.mpr
        simpa [RawComparison.taken, membership] using each
      exact ⟨.many values, by simp [operand, membership, all, coerced], rfl⟩
  · cases value with
    | none => simp [RawComparison.taken, membership] at given
    | some literal =>
      obtain ⟨single, converted, rfl⟩ :=
        alone (by simpa [RawComparison.taken, membership] using each)
      exact ⟨.single single, by simp [operand, membership, plain, converted, coerced], rfl⟩

/-- The comparison is planned with the operand: for documents always, and for a table when no
collection is on the path. -/
structure PlannedWith (schema : Schema) (settings : Settings) (entity : Entity)
    (raw : RawComparison) (leaf : Leaf) : Prop where
  documents : ∃ test, FilterDocument.test? leaf.comparison leaf.operand = some test ∧
    (forDocuments schema settings).planCondition entity raw.condition =
      .ok (Json.single (FilterDocument.key leaf.path) test)
  tables : leaf.path.crossesCollection = false → ∃ predicate,
    Sql.Relational.compare? (Sql.Relational.column leaf.path) leaf.comparison leaf.operand =
      some predicate ∧
    (forTables schema settings).planCondition entity raw.condition = .ok predicate

variable {schema : Schema} {settings : Settings} {entity : Entity} {raw : RawComparison}

/-- Each backend has a form for what was read. -/
theorem plannedWith_of_reads {leaf : Leaf}
    (reads : (forDocuments schema settings).Reads entity raw leaf) :
    PlannedWith schema settings entity raw leaf := by
  have fits := (typed_of_operand reads.operand).fits
  constructor
  · rw [← Operand.test?_isSome, Option.isSome_iff_exists] at fits
    obtain ⟨test, form⟩ := fits
    refine ⟨test, form, ?_⟩
    apply ((forDocuments schema settings).planCondition_field_eq_ok entity raw).mpr
    exact ⟨leaf, reads, forDocuments_emitLeaf_eq_ok.mpr ⟨test, form, rfl⟩⟩
  · intro clear
    rw [← Operand.compare?_isSome (Sql.Relational.column leaf.path),
      Option.isSome_iff_exists] at fits
    obtain ⟨predicate, form⟩ := fits
    -- Both planners read a comparison alike.
    have reads' : (forTables schema settings).Reads entity raw leaf :=
      ⟨reads.comparison, reads.path, reads.operand⟩
    refine ⟨predicate, form, ?_⟩
    apply ((forTables schema settings).planCondition_field_eq_ok entity raw).mpr
    exact ⟨leaf, reads', forTables_emitLeaf_eq_ok.mpr ⟨clear, form⟩⟩

end Planner

/-! ### Main result -/

/-- A comparison of a field of variants with literals that spell variants is planned for both kinds
of stores, and each literal is compared with as it is written exactly when its text leads the
variants. A variant that does not lead is not the value of any literal. -/
theorem variants_queried_iff {schema : Schema} {settings : Settings} {entity : Entity}
    {raw : RawComparison} {path : Path} {variants : List String} {comparison : Comparison}
    (resolved : Resolver.resolve ⟨schema, settings.delimiter⟩ entity raw.field = .ok (some path))
    (enumerated : path.type.enumerated? = some variants)
    (spelled : raw.operator.bind Comparison.ofSpelling? = some comparison)
    (plain : comparison.isPattern = false) (given : raw.taken comparison ≠ [])
    (declared : ∀ literal ∈ raw.taken comparison,
      ∃ variant ∈ variants, Text.sameName variant literal.text = true) :
    (∃ operand, Planner.PlannedWith schema settings entity raw ⟨path, comparison, operand⟩ ∧
      List.Forall₂ (FieldType.KeepsText variants) (raw.taken comparison) operand.values) ∧
    ∀ variant, (∃ literal, path.type.coerce raw.field literal = .ok (.string variant)) ↔
      FieldType.Leads variants variant := by
  refine ⟨?_, FieldType.exists_coerce_iff enumerated raw.field⟩
  obtain ⟨values, each⟩ := exists_forall₂ fun literal member =>
    FieldType.exists_coerce_of_spelled enumerated raw.field (declared literal member)
  obtain ⟨operand, typed, rfl⟩ :=
    Planner.exists_operand plain given (each.imp fun _ _ related => related.1)
  have reads : (Planner.forDocuments schema settings).Reads entity raw
      ⟨path, comparison, operand⟩ :=
    ⟨Planner.comparison_eq_ok.mpr spelled, resolved, typed⟩
  exact ⟨operand, Planner.plannedWith_of_reads reads, each.imp fun _ _ related => related.2⟩

namespace Sample

/-- Two modes of a lamp differ in case alone. -/
def modes : List String := ["auto", "Auto", "Dim"]

def lamp : Entity where
  name := "Lamp"
  identity := "Id"
  fields :=
    [{ name := "Id", type := .scalar .int64 },
     { name := "Mode", type := .enumeration "Mode" modes }]

def lamps : Schema := .ofEntities 1 [lamp]

def lampMode : Path := .one ⟨"Mode", none, .enumeration "Mode" modes⟩

/-- The dimmed lamps and those of the mode that stands behind another spelling of it. -/
def dimOrAuto : RawComparison := ⟨"mode", some "in", none, [.string "Dim", .string "Auto"]⟩

/-- Of two variants in a set the one is compared with as it is written, the other one is not. -/
theorem dim_planned :
    Resolver.resolve ⟨lamps, "."⟩ lamp "mode" = .ok (some lampMode) ∧
      FieldType.Leads modes "Dim" ∧ ¬ FieldType.Leads modes "Auto" ∧
      ∃ operand, Planner.PlannedWith lamps {} lamp dimOrAuto ⟨lampMode, .among, operand⟩ ∧
        List.Forall₂ (FieldType.KeepsText modes) [.string "Dim", .string "Auto"]
          operand.values := by
  have resolved : Resolver.resolve ⟨lamps, "."⟩ lamp "mode" = .ok (some lampMode) := rfl
  have declared : ∀ literal ∈ dimOrAuto.taken .among,
      ∃ variant ∈ modes, Text.sameName variant literal.text = true := by
    have spelled : (dimOrAuto.taken .among).all
        (fun literal => modes.any (Text.sameName · literal.text)) = true := by decide
    intro literal member
    exact List.any_eq_true.mp (List.all_eq_true.mp spelled literal member)
  obtain ⟨planned, _⟩ := @variants_queried_iff lamps {} lamp dimOrAuto lampMode modes .among
    resolved rfl rfl rfl (by decide) declared
  refine ⟨resolved, ?_, ?_, planned⟩
  · exact FieldType.variant?_self_iff.mp (by decide)
  · rw [← FieldType.variant?_self_iff]
    decide

/-- A variant behind another spelling of it: both backends compare with the other one, and no
literal is converted to it. -/
theorem auto_unreachable :
    "Auto" ∈ modes ∧
      (Planner.forTables lamps {}).planCondition lamp (.compared "mode" "eq" (.string "Auto")) =
        .ok (.compare "Mode" .equal (.string "auto")) ∧
      (Planner.forDocuments lamps {}).planCondition lamp (.compared "mode" "eq" (.string "Auto")) =
        .ok (.single "Mode" (.single "$eq" (.string "auto"))) ∧
      ∀ literal, lampMode.type.coerce "mode" literal ≠ .ok (.string "Auto") := by
  refine ⟨by decide, rfl, rfl, fun literal converted => ?_⟩
  have leads : FieldType.Leads modes "Auto" :=
    (FieldType.exists_coerce_iff rfl "mode" "Auto").mp ⟨literal, converted⟩
  rw [← FieldType.variant?_self_iff] at leads
  exact absurd leads (by decide)

end Sample

end RecordQuery
