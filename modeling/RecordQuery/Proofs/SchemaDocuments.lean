import RecordQuery.Proofs.Parts
import RecordQuery.Proofs.WrittenText
import RecordQuery.Schema.Document

/-!
# Schemas read back

A schema whose entities stand at their own names is written as a text that reads back as that
schema, in whatever order it lists the entities. What a list of denials means depends on whether it
is there, so absent and empty lists stay apart.
-/

namespace RecordQuery

open Json (present Written)

/-! ### Written parts -/

namespace Json

@[simp] theorem as?_written {α : Type} (read : Json → Option α) (document : Json) :
    document.written.as? read = read document := by
  simp [Written.as?, value?_written]

theorem writtenItems_eq_map (items : List Json) : writtenItems items = items.map written := by
  induction items with
  | nil => simp [writtenItems]
  | cons item rest ih => simp [writtenItems, ih]

theorem entries?_written (entries : List (String × Json)) :
    (object entries).written.entries? =
      some (entries.map fun entry => (entry.1, entry.2.written)) := by
  rw [written, Written.entries?]
  induction entries with
  | nil => simp [writtenEntries]
  | cons first rest ih => simp [writtenEntries, ih]

/-- The fields of a written record are its written parts. -/
theorem namedFields?_written (parts : List (String × Option Json))
    (distinct : (parts.map (·.1)).Nodup) :
    (object (present parts)).written.namedFields? (parts.map (·.1)) =
      some (parts.map fun part => part.2.map written) := by
  have keys : (parts.map fun part => (part.1, part.2.map written)).map (·.1) =
      parts.map (·.1) := by
    rw [List.map_map]
    rfl
  have fields := fieldsByName?_of_perm (keys ▸ distinct)
    (List.Perm.refl (present (parts.map fun part => (part.1, part.2.map written))))
  rw [keys, List.map_map] at fields
  rw [Written.namedFields?, entries?_written, map_present]
  exact fields

theorem fields?_written (parts : List (String × Option Json))
    (distinct : (parts.map (·.1)).Nodup) :
    (object (present parts)).written.fields? (parts.map (·.1)) =
      some (parts.map fun part => part.2.map written) := by
  have fields := namedFields?_written parts distinct
  rw [written] at fields ⊢
  exact fields

/-- What is absent is read as absent, and what is there is no null. -/
theorem optional_written {α : Type} {read : Written → Option α} {write : α → Json}
    {part : Option α}
    (back : ∀ value, part = some value →
      write value ≠ .null ∧ read (write value).written = some value) :
    Written.optional read (part.map (written ∘ write)) = some part := by
  cases part with
  | none => rfl
  | some value =>
    obtain ⟨there, found⟩ := back value rfl
    rw [Option.map_some, Function.comp]
    cases form : write value <;> simp_all [Written.optional, written]

end Json

/-! ### Types and policies -/

namespace ScalarType

theorem ofJson?_toJson (scalar : ScalarType) : ofJson? scalar.toJson = some scalar := by
  simp [ofJson?, toJson, Json.nameOf?, ofKey?_key]

end ScalarType

namespace Operation

theorem ofJson?_toJson (operation : Operation) : ofJson? operation.toJson = some operation := by
  simp [ofJson?, toJson, Json.nameOf?, ofName?_name]

end Operation

theorem Json.list?_texts (texts : List String) :
    Json.list? Json.string? (Json.texts texts) = some texts :=
  Json.list?_map fun _ _ => rfl

namespace FieldType

theorem parts?_written (listed : Bool) (parts : List (String × Option Json))
    (distinct : (parts.map (·.1)).Nodup) :
    parts? listed (parts.map (·.1)) (Json.object (present parts)).written =
      some (parts.map fun part => part.2.map Json.written) := by
  cases listed with
  | false => exact Json.namedFields?_written parts distinct
  | true => exact Json.fields?_written parts distinct

theorem variants?_written (listed : Bool) (name : String) (variants : List String) :
    variants? listed (variantsToJson name variants).written = some (name, variants) := by
  have parts := parts?_written listed
    [("name", some (.string name)), ("variants", some (Json.texts variants))] (by simp)
  have fields : parts? listed ["name", "variants"] (variantsToJson name variants).written =
      some [some (Json.string name).written, some (Json.texts variants).written] := parts
  simp [variants?, fields, Json.required, Json.string?, Json.list?_texts]

theorem entity?_written (listed : Bool) (entity : String) :
    entity? listed (Json.single "entity" (.string entity)).written = some entity := by
  have parts := parts?_written listed [("entity", some (.string entity))] (by simp)
  have fields : parts? listed ["entity"] (Json.single "entity" (.string entity)).written =
      some [some (Json.string entity).written] := parts
  simp [entity?, fields, Json.required, Json.string?]

/-- Each kind of type is read back by its own key. -/
theorem ofWritten?_toJson (listed : Bool) (type : FieldType) :
    ofWritten? listed type.toJson.written = some type := by
  have single (key : String) (part : Json) :
      (Json.single key part).written = .object [(some key, part.written)] := by
    simp [Json.single, Json.written, Json.writtenEntries]
  cases type with
  | scalar type | optionalScalar type | arrayOfScalar type =>
    rw [toJson, single]
    simp [ofWritten?, ScalarType.ofJson?_toJson]
  | enumeration name variants | optionalEnumeration name variants =>
    rw [toJson, single]
    simp [ofWritten?, variants?_written]
  | embedded entity | optionalEmbedded entity | arrayOfEmbedded entity =>
    rw [toJson, single]
    simp [ofWritten?, entity?_written]

end FieldType

namespace OperatorRule

/-- No comparison is named like the rule for every comparison. -/
theorem ofText_text (rule : OperatorRule) : ofText rule.text = .ok rule := by
  cases rule with
  | every => rfl
  | only comparison =>
    have single : (Text.sameName comparison.name "all" || comparison.name == "*") = false := by
      cases comparison <;> decide
    rw [ofText, text, single, Comparison.ofSpelling?_name]
    rfl

end OperatorRule

namespace FieldPolicy

theorem ofWritten?_toJson (policy : FieldPolicy) :
    ofWritten? policy.toJson.written = some policy := by
  have parts := Json.fields?_written
    [("disallowed", some (.list (policy.disallowed.map OperatorRule.toJson)))] (by simp)
  have fields : policy.toJson.written.fields? ["disallowed"] =
      some [some (Json.list (policy.disallowed.map OperatorRule.toJson)).written] := parts
  have rules : Json.list? OperatorRule.ofJson?
      (.list (policy.disallowed.map OperatorRule.toJson)) = some policy.disallowed := by
    apply Json.list?_map
    intro rule _
    simp [OperatorRule.ofJson?, OperatorRule.toJson, Json.string?, OperatorRule.ofText_text,
      Except.toOption]
  simp [ofWritten?, fields, Json.withDefault, rules]

end FieldPolicy

/-! ### Fields and entities -/

namespace Field

def parts (field : Field) : List (String × Option Json) :=
  [("name", some (.string field.name)), ("alias", field.aliasName.map .string),
   ("field_type", some field.type.toJson), ("required", some (.bool field.required)),
   ("policy", field.policy.map FieldPolicy.toJson)]

theorem toJson_eq (field : Field) : field.toJson = .object (present field.parts) := by
  obtain ⟨name, aliasName, type, required, policy⟩ := field
  cases aliasName <;> cases policy <;> simp [toJson, parts, present, Json.entry?]

theorem ofWritten?_toJson (listed : Bool) (field : Field) :
    ofWritten? listed field.toJson.written = some field := by
  have parts : field.toJson.written.fields? keys =
      some (field.parts.map fun part => part.2.map Json.written) := by
    rw [toJson_eq]
    exact Json.fields?_written field.parts (by simp [Field.parts])
  obtain ⟨name, aliasName, type, required, policy⟩ := field
  have alias_read : Written.optional (·.as? Json.string?)
      (aliasName.map (Json.written ∘ Json.string)) = some aliasName := by
    apply Json.optional_written
    intro text _
    simp [Json.string?]
  have policy_read : Written.optional FieldPolicy.ofWritten?
      (policy.map (Json.written ∘ FieldPolicy.toJson)) = some policy := by
    apply Json.optional_written
    intro held _
    exact ⟨Json.noConfusion, held.ofWritten?_toJson⟩
  rw [ofWritten?, parts]
  simp [Field.parts, Json.required, Json.withDefault, Json.string?, Json.bool?, alias_read,
    policy_read, FieldType.ofWritten?_toJson]

end Field

namespace Entity

def parts (entity : Entity) : List (String × Option Json) :=
  [("name", some (.string entity.name)), ("identity_field", some (.string entity.identity)),
   ("fields", some (.list (entity.fields.map Field.toJson))),
   ("denied_operations", entity.denied.map fun denied => .list (denied.map Operation.toJson))]

theorem toJson_eq (entity : Entity) : entity.toJson = .object (present entity.parts) := by
  obtain ⟨name, identity, fields, denied⟩ := entity
  cases denied <;> simp [toJson, parts, present, Json.entry?]

theorem ofWritten?_toJson (listed : Bool) (entity : Entity) :
    ofWritten? listed entity.toJson.written = some entity := by
  have parts : entity.toJson.written.fields? keys =
      some (entity.parts.map fun part => part.2.map Json.written) := by
    rw [toJson_eq]
    exact Json.fields?_written entity.parts (by simp [Entity.parts])
  obtain ⟨name, identity, fields, denied⟩ := entity
  have fields_read : Written.list? (Field.ofWritten? listed)
      (Json.list (fields.map Field.toJson)).written = some fields := by
    rw [Json.written, Json.writtenItems_eq_map, List.map_map, Written.list?]
    exact Json.mapM_map_eq_some fun field _ => field.ofWritten?_toJson listed
  have denied_read : Written.optional (·.as? (Json.list? Operation.ofJson?))
      (denied.map (Json.written ∘ fun denied => .list (denied.map Operation.toJson))) =
        some denied := by
    apply Json.optional_written
    intro operations _
    refine ⟨Json.noConfusion, ?_⟩
    rw [Json.as?_written]
    exact Json.list?_map fun operation _ => operation.ofJson?_toJson
  rw [ofWritten?, parts]
  simp [Entity.parts, Json.required, Json.withDefault, Json.string?, fields_read, denied_read]

end Entity

/-! ### Numbers in schemas -/

theorem Json.integral_single {key : String} {value : Json} (integral : value.Integral) :
    (Json.single key value).Integral :=
  .object trivial (List.forall_mem_singleton.mpr integral)

theorem FieldType.integral_toJson (type : FieldType) : type.toJson.Integral := by
  have enumeration (name : String) (variants : List String) :
      (variantsToJson name variants).Integral := by
    refine .object trivial (List.forall_mem_cons.mpr ⟨.leaf trivial rfl, ?_⟩)
    exact List.forall_mem_singleton.mpr (.list_map trivial fun _ _ => .leaf trivial rfl)
  cases type with
  | scalar type | optionalScalar type | arrayOfScalar type =>
    exact Json.integral_single (.leaf trivial rfl)
  | enumeration name variants | optionalEnumeration name variants =>
    exact Json.integral_single (enumeration name variants)
  | embedded entity | optionalEmbedded entity | arrayOfEmbedded entity =>
    exact Json.integral_single (Json.integral_single (.leaf trivial rfl))

theorem FieldPolicy.integral_toJson (policy : FieldPolicy) : policy.toJson.Integral :=
  Json.integral_single (.list_map trivial fun _ _ => .leaf trivial rfl)

theorem Field.integral_toJson (field : Field) : field.toJson.Integral := by
  rw [toJson_eq]
  refine .object_present trivial ?_
  intro part listed value written
  simp only [parts, List.mem_cons, List.not_mem_nil, or_false] at listed
  rcases listed with rfl | rfl | rfl | rfl | rfl
  · cases written
    exact .leaf trivial rfl
  · exact .of_map written fun _ _ => .leaf trivial rfl
  · cases written
    exact field.type.integral_toJson
  · cases written
    exact .leaf trivial rfl
  · exact .of_map written fun policy _ => policy.integral_toJson

theorem Entity.integral_toJson (entity : Entity) : entity.toJson.Integral := by
  rw [toJson_eq]
  refine .object_present trivial ?_
  intro part listed value written
  simp only [parts, List.mem_cons, List.not_mem_nil, or_false] at listed
  rcases listed with rfl | rfl | rfl | rfl
  · cases written
    exact .leaf trivial rfl
  · cases written
    exact .leaf trivial rfl
  · cases written
    exact .list_map trivial fun field _ => field.integral_toJson
  · exact .of_map written fun _ _ => .list_map trivial fun _ _ => .leaf trivial rfl

/-! ### Schemas -/

namespace Schema

/-- A schema as a document that lists its entities in some order. -/
def listing (version : UInt64) (listed : List (String × Entity)) : Json :=
  .object
    [("version", .integer version.toNat),
     ("entities", .object (listed.map fun (name, entity) => (name, entity.toJson)))]

/-- Every entity stands at its own name. -/
def KeyedByName (schema : Schema) : Prop :=
  ∀ entry ∈ schema.entities.entries, entry.1 = entry.2.name

theorem integral_listing (version : UInt64) (listed : List (String × Entity)) :
    (listing version listed).Integral := by
  have fits : Json.FitsWidth version.toNat := by
    have least : Int64.minValue.toInt ≤ 0 := by decide
    have greatest := version.toNat_lt
    exact ⟨by omega, by exact_mod_cast greatest⟩
  have entities : (Json.object (listed.map fun (name, entity) =>
      (name, entity.toJson))).Integral := by
    refine .object trivial fun entry member => ?_
    obtain ⟨⟨name, entity⟩, _, rfl⟩ := List.mem_map.mp member
    exact entity.integral_toJson
  refine .object trivial (List.forall_mem_cons.mpr ⟨.leaf fits rfl, ?_⟩)
  exact List.forall_mem_singleton.mpr entities

theorem entities_ofEntities (version : UInt64) (entities : List Entity) :
    (ofEntities version entities).version = version ∧
      (ofEntities version entities).entities.entries =
        putEntries (entities.map fun entity => (entity.name, entity)) := by
  have fold (schema : Schema) :
      (entities.foldl (fun schema entity => schema.withEntity entity) schema).version =
          schema.version ∧
        (entities.foldl (fun schema entity => schema.withEntity entity) schema).entities.entries =
          (entities.map fun entity => (entity.name, entity)).foldl
            (fun held (key, value) => putEntry key value held) schema.entities.entries := by
    induction entities generalizing schema with
    | nil => exact ⟨rfl, rfl⟩
    | cons entity rest ih => exact ih (schema.withEntity entity)
  exact fold { version }

/-- A schema keyed by name is made again from its entities. -/
theorem ofEntities_values {schema : Schema} (keyed : schema.KeyedByName) :
    ofEntities schema.version schema.entities.values = schema := by
  have named : schema.entities.values.map (fun entity => (entity.name, entity)) =
      schema.entities.entries := by
    rw [Dictionary.values, List.map_map]
    calc
      schema.entities.entries.map ((fun entity => (entity.name, entity)) ∘ (·.2)) =
          schema.entities.entries.map id := by
        apply List.map_congr_left
        intro entry member
        exact Prod.ext (keyed entry member).symm rfl
      _ = schema.entities.entries := List.map_id _
  have remade := entities_ofEntities schema.version schema.entities.values
  rw [named, putEntries_eq_of_perm schema.entities.ascending (List.Perm.refl _)] at remade
  generalize ofEntities schema.version schema.entities.values = other at remade ⊢
  obtain ⟨version, entries, _⟩ := schema
  obtain ⟨version', entries', _⟩ := other
  obtain ⟨rfl, rfl⟩ := remade
  rfl

/-- Entities are read one by one and come to stand in the order of their keys. -/
theorem entities?_written (listed : List (String × Entity)) :
    entities? (Json.object (listed.map fun (name, entity) => (name, entity.toJson))).written =
      some ((putEntries listed).map (·.2)) := by
  rw [entities?, Json.entries?_written, List.map_map, Option.bind_eq_bind, Option.bind_some,
    Json.mapM_map_eq_some]
  · rfl
  · intro entry _
    simp [Entity.ofWritten?_toJson]

theorem ofWritten?_listing {schema : Schema} (keyed : schema.KeyedByName)
    {listed : List (String × Entity)} (perm : listed.Perm schema.entities.entries) :
    ofWritten? (listing schema.version listed).written = some schema := by
  have parts := Json.fields?_written
    [("version", some (.integer schema.version.toNat)),
      ("entities", some (.object (listed.map fun (name, entity) => (name, entity.toJson))))]
    (by simp)
  have fields : (listing schema.version listed).written.fields? keys =
      some [some (Json.integer schema.version.toNat).written,
        some (Json.object (listed.map fun (name, entity) => (name, entity.toJson))).written] :=
    parts
  have sorted : putEntries listed = schema.entities.entries :=
    putEntries_eq_of_perm schema.entities.ascending perm
  have entities_read : entities?
      (Json.object (listed.map fun (name, entity) => (name, entity.toJson))).written =
        some schema.entities.values := by
    rw [entities?_written, sorted, Dictionary.values]
  simp [ofWritten?, fields, Json.withDefault, Json.uint64?, Width.uint64?_toNat, entities_read,
    ofEntities_values keyed]

/-! ### Schemas keyed by name -/

theorem keyedByName_withEntity {schema : Schema} (keyed : schema.KeyedByName) (entity : Entity) :
    (schema.withEntity entity).KeyedByName := by
  intro entry member
  rcases mem_putEntry member with rfl | held
  · rfl
  · exact keyed entry held

theorem keyedByName_foldl {schema : Schema} (keyed : schema.KeyedByName) (entities : List Entity) :
    (entities.foldl (fun schema entity => schema.withEntity entity) schema).KeyedByName := by
  induction entities generalizing schema with
  | nil => exact keyed
  | cons entity rest ih => exact ih (keyedByName_withEntity keyed entity)

theorem keyedByName_register {schema : Schema} (keyed : schema.KeyedByName)
    (embedded : List Entity) (entity : Entity) :
    (schema.register embedded entity).KeyedByName :=
  keyedByName_withEntity (keyedByName_foldl keyed embedded) entity

theorem keyedByName_ofEntities (version : UInt64) (entities : List Entity) :
    (ofEntities version entities).KeyedByName := by
  apply keyedByName_foldl
  intro entry member
  cases member

/-- What is read is made from its entities, whatever keys they were listed under. -/
theorem keyedByName_of_ofText? {text : String} {schema : Schema}
    (read : ofText? text = some schema) : schema.KeyedByName := by
  obtain ⟨document, _, found⟩ := Option.bind_eq_some_iff.mp read
  unfold ofWritten? at found
  obtain ⟨fields, _, found⟩ := Option.bind_eq_some_iff.mp found
  split at found
  next =>
    obtain ⟨version, _, found⟩ := Option.bind_eq_some_iff.mp found
    obtain ⟨entities, _, found⟩ := Option.bind_eq_some_iff.mp found
    cases found
    exact keyedByName_ofEntities version entities
  next => cases found

end Schema

/-! ### Main result -/

/-- A schema keyed by name is read back from its text, in whatever order the text lists its
entities. Schemas are keyed by name however they are made: empty, by adding entities or registering
record types, and by reading a text. -/
theorem schemas_read_back :
    (∀ schema : Schema, schema.KeyedByName →
      Schema.ofText? schema.text = some schema ∧
        ∀ listed : List (String × Entity), listed.Perm schema.entities.entries →
          Schema.ofText? (Schema.listing schema.version listed).compact = some schema) ∧
    (∀ version, (Schema.mk version Dictionary.empty).KeyedByName) ∧
    (∀ (schema : Schema) (embedded : List Entity) (entity : Entity), schema.KeyedByName →
      (schema.withEntity entity).KeyedByName ∧
        (schema.register embedded entity).KeyedByName) ∧
    ∀ (text : String) (schema : Schema), Schema.ofText? text = some schema →
      schema.KeyedByName := by
  refine ⟨?_, ?_, ?_, ?_⟩
  · intro schema keyed
    have listings : ∀ listed : List (String × Entity), listed.Perm schema.entities.entries →
        Schema.ofText? (Schema.listing schema.version listed).compact = some schema := by
      intro listed perm
      rw [Schema.ofText?, Json.ofText?_compact (Schema.integral_listing _ _)]
      exact Schema.ofWritten?_listing keyed perm
    exact ⟨listings _ (List.Perm.refl _), listings⟩
  · intro version entry member
    cases member
  · intro schema embedded entity keyed
    exact ⟨Schema.keyedByName_withEntity keyed entity,
      Schema.keyedByName_register keyed embedded entity⟩
  · intro text schema read
    exact Schema.keyedByName_of_ofText? read

/-! ### Denials read back -/

namespace Sample

/-- Shelves deny everything, and what they hold refuses every comparison. -/
def shelf : Entity where
  name := "Shelf"
  identity := "id"
  fields :=
    [{ name := "id", type := .scalar .uuid, policy := some ⟨[]⟩ },
     { name := "kind", aliasName := some "sort", type := .optionalEnumeration "Kind" ["a", "b"],
       required := false, policy := some ⟨[.every, .only .notAmong]⟩ }]
  denied := some []

/-- Crates deny nothing. -/
def crate : Entity where
  name := "Crate"
  identity := "id"
  fields := [{ name := "shelf", type := .arrayOfEmbedded "Shelf" }]

/-- Shelves and crates. -/
def storehouse : Schema := .ofEntities 3 [shelf, crate]

theorem storehouse_read_back :
    storehouse.KeyedByName ∧ Schema.ofText? storehouse.text = some storehouse ∧
      storehouse.permits "Shelf" .read = false ∧ storehouse.permits "Crate" .read = true := by
  have keyed : storehouse.KeyedByName := Schema.keyedByName_ofEntities 3 [shelf, crate]
  exact ⟨keyed, (schemas_read_back.1 storehouse keyed).1, by decide, by decide⟩

end Sample

end RecordQuery
