import RecordQuery.Proofs.CanonicalNames
import RecordQuery.Proofs.ProjectedFields

/-!
# Paths told by their flat names

A table knows a path by its column and a filter document by its key. Either one tells the declared
names of the path, however many there are, as long as none of them holds the character that joins
them. It does not matter which references lead to the paths, or whether any does.
-/

namespace RecordQuery

/-- No field of the entity has a name with the character. -/
def Entity.NamesLack (mark : Char) (entity : Entity) : Prop :=
  ∀ field ∈ entity.fields, mark ∉ field.name.toList

instance (mark : Char) (entity : Entity) : Decidable (entity.NamesLack mark) :=
  inferInstanceAs (Decidable (∀ field ∈ entity.fields, mark ∉ field.name.toList))

section Flat

variable {schema : Schema} {entity : Entity} {delimiter delimiter' : String} {left right : Path}

/-- Paths that are found from one entity have the same names exactly when these are joined to the
same text. The references to them may be cut at different delimiters. -/
theorem Resolver.Finds.join_eq_iff {separator : String} {mark : Char}
    (single : separator.toList = [mark])
    (lack : schema.EveryEntity entity (Entity.NamesLack mark))
    (foundLeft : Resolver.Finds ⟨schema, delimiter⟩ entity left)
    (foundRight : Resolver.Finds ⟨schema, delimiter'⟩ entity right) :
    left.join separator = right.join separator ↔ left.names = right.names := by
  constructor
  · intro same
    -- Found paths go along declared fields, so the entity and the schema account for all names.
    have leftDeclared : schema.Declares entity left := foundLeft.declares
    have rightDeclared : schema.Declares entity right := foundRight.declares
    obtain ⟨own, clean⟩ := lack
    exact leftDeclared.names_eq_of_join_eq single clean own rightDeclared same
  · intro names
    rw [Path.join, Path.join, names]

/-- Two paths of one entity, each a path that a reference leads to or a leaf path, have the same
declared names exactly when they have one column, where no declared name holds an underscore, and
exactly when they have one key, where none holds a point. -/
theorem flat_names_identify_paths
    (foundLeft : Resolver.Finds ⟨schema, delimiter⟩ entity left)
    (foundRight : Resolver.Finds ⟨schema, delimiter'⟩ entity right) :
    (schema.EveryEntity entity (Entity.NamesLack '_') →
      (Sql.Relational.column left = Sql.Relational.column right ↔ left.names = right.names)) ∧
    (schema.EveryEntity entity (Entity.NamesLack '.') →
      (FilterDocument.key left = FilterDocument.key right ↔ left.names = right.names)) := by
  constructor
  · intro lack
    exact foundLeft.join_eq_iff rfl lack foundRight
  · intro lack
    exact foundLeft.join_eq_iff rfl lack foundRight

-- A name with an underscore can have the column of a nested field.
example : Sql.Relational.column (.one ⟨"next_id", none, .scalar .int64⟩) =
    Sql.Relational.column
      ⟨[⟨"next", none, .optionalEmbedded "Node"⟩], ⟨"id", none, .scalar .int64⟩⟩ := rfl

end Flat

namespace Sample

/-- A box within another one. Its label is declared twice, as a text and as a number. -/
def box : Entity where
  name := "Box"
  identity := "label"
  fields :=
    [{ name := "label", type := .scalar .string },
     { name := "label", aliasName := some "number", type := .scalar .int64 },
     { name := "within", type := .optionalEmbedded "Box" }]

def boxes : Schema := .ofEntities 1 [box]

theorem leafPaths_box :
    boxes.leafPaths box =
      [.one ⟨"label", none, .scalar .string⟩, .one ⟨"label", some "number", .scalar .int64⟩] := by
  unfold Schema.leafPaths Schema.leavesBelow
  rfl

/-- The two labels of the box around are different paths of the same names, and one column stands
for both. The box's own label, a leaf, has another column and another key. -/
theorem labels_identified :
    ∃ left right leaf,
      (Resolver.mk boxes "--").resolve box "WITHIN--label" = .ok (some left) ∧
      (Resolver.mk boxes "/").resolve box "within/Number" = .ok (some right) ∧
      leaf ∈ boxes.leafPaths box ∧ left ≠ right ∧
      Sql.Relational.column left = "within_label" ∧
      Sql.Relational.column right = "within_label" ∧ left.names = right.names ∧
      Sql.Relational.column left ≠ Sql.Relational.column leaf ∧
      FilterDocument.key left ≠ FilterDocument.key leaf := by
  have lackUnderscore : boxes.EveryEntity box (Entity.NamesLack '_') := .single (by decide)
  have lackPoint : boxes.EveryEntity box (Entity.NamesLack '.') := .single (by decide)
  let around : Segment := ⟨"within", none, .optionalEmbedded "Box"⟩
  let leaf : Path := .one ⟨"label", none, .scalar .string⟩
  have foundLeft : (Resolver.mk boxes "--").Finds box
      ⟨[around], ⟨"label", none, .scalar .string⟩⟩ := .inl ⟨"WITHIN--label", rfl⟩
  have foundRight : (Resolver.mk boxes "/").Finds box
      ⟨[around], ⟨"label", some "number", .scalar .int64⟩⟩ := .inl ⟨"within/Number", rfl⟩
  have listed : leaf ∈ boxes.leafPaths box := by
    rw [leafPaths_box]
    exact List.mem_cons_self
  have foundLeaf : (Resolver.mk boxes "--").Finds box leaf := .inr listed
  have alike := flat_names_identify_paths foundLeft foundRight
  have apart := flat_names_identify_paths foundLeft foundLeaf
  exact ⟨_, _, leaf, rfl, rfl, listed, by decide, rfl, rfl, (alike.1 lackUnderscore).mp rfl,
    mt (apart.1 lackUnderscore).mp (by decide), mt (apart.2 lackPoint).mp (by decide)⟩

end Sample

end RecordQuery
