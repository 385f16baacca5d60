import RecordQuery.Proofs.Declared

/-!
# References as walks

A reference is cut into parts at the delimiters met from the left. Resolving it is a walk along
these parts from entity to entity, although the rest of the text is searched again at each step.
-/

namespace RecordQuery

/-! ### The first delimiter -/

namespace Text

variable {delimiter text : List Char}

/-- No delimiter begins within the leading part. -/
def FirstAfter (delimiter before text : List Char) : Prop :=
  ∀ earlier later, text = earlier ++ delimiter ++ later → before.length ≤ earlier.length

theorem cutFirst?_eq_none :
    cutFirst? delimiter text = none ↔ delimiter = [] ∨ ¬delimiter <:+: text := by
  induction text with
  | nil => simp [cutFirst?, Classical.em]
  | cons c rest ih =>
    by_cases empty : delimiter = []
    · simp [cutFirst?, empty]
    · by_cases leads : delimiter <+: c :: rest
      · have within : delimiter <:+: c :: rest := leads.isInfix
        simp [cutFirst?, empty, leads, within]
      · simp [cutFirst?, empty, leads, List.infix_cons_iff, ih]

/-- A delimiter that leads the text is the first one. -/
theorem firstAfter_of_prefix (leads : delimiter <+: text) {before behind : List Char}
    (split : text = before ++ delimiter ++ behind) (first : FirstAfter delimiter before text) :
    before = [] ∧ text.drop delimiter.length = behind := by
  obtain ⟨later, text_eq⟩ := leads
  -- With nothing before it the leading delimiter is no later than the first one.
  have none : before = [] :=
    List.length_eq_zero_iff.mp (Nat.le_zero.mp (first [] later (by simpa using text_eq.symm)))
  refine ⟨none, ?_⟩
  rw [split, none, List.nil_append, List.drop_left]

/-- Where the text does not begin with a delimiter, one character more stands before the first. -/
theorem firstAfter_cons {c : Char} {before rest : List Char} (other : ¬delimiter <+: c :: rest) :
    FirstAfter delimiter (c :: before) (c :: rest) ↔ FirstAfter delimiter before rest := by
  constructor
  · intro first earlier later split
    have longer := first (c :: earlier) later (by rw [split]; rfl)
    simpa using longer
  · intro first earlier later split
    cases earlier with
    | nil => exact absurd ⟨later, by simpa using split.symm⟩ other
    | cons _ earlier =>
      obtain ⟨rfl, behind⟩ := List.cons.inj split
      simpa using first earlier later behind

theorem cutFirst?_eq_some {before behind : List Char} :
    cutFirst? delimiter text = some (before, behind) ↔
      delimiter ≠ [] ∧ text = before ++ delimiter ++ behind ∧
        FirstAfter delimiter before text := by
  induction text generalizing before behind with
  | nil => simp +contextual [cutFirst?]
  | cons c rest ih =>
    by_cases empty : delimiter = []
    · simp [cutFirst?, empty]
    by_cases leads : delimiter <+: c :: rest
    case pos =>
      have dropped : rest.drop (delimiter.length - 1) = (c :: rest).drop delimiter.length := by
        obtain ⟨first, more, rfl⟩ := List.exists_cons_of_ne_nil empty
        rfl
      simp only [cutFirst?, List.isEmpty_iff, empty, if_false, List.isPrefixOf_iff_prefix, leads,
        if_true, Option.some.injEq, Prod.mk.injEq, dropped, ne_eq, not_false_eq_true, true_and]
      constructor
      · rintro ⟨rfl, rfl⟩
        refine ⟨?_, fun earlier _ _ => Nat.zero_le earlier.length⟩
        obtain ⟨later, text_eq⟩ := leads
        rw [← text_eq, List.drop_left, List.nil_append]
      · rintro ⟨split, first⟩
        obtain ⟨rfl, behind_eq⟩ := firstAfter_of_prefix leads split first
        exact ⟨rfl, behind_eq⟩
    case neg =>
      simp only [cutFirst?, List.isEmpty_iff, empty, if_false, List.isPrefixOf_iff_prefix, leads,
        Option.map_eq_some_iff, Prod.exists, Prod.mk.injEq, ih]
      constructor
      · rintro ⟨before, _, ⟨_, split, first⟩, rfl, rfl⟩
        exact ⟨empty, by rw [split]; rfl, (firstAfter_cons leads).mpr first⟩
      · rintro ⟨_, split, first⟩
        cases before with
        | nil => exact absurd ⟨behind, by simpa using split.symm⟩ leads
        | cons _ before =>
          obtain ⟨rfl, later⟩ := List.cons.inj split
          exact ⟨before, behind, ⟨empty, later, (firstAfter_cons leads).mp first⟩, rfl, rfl⟩

/-! ### Parts of a text -/

/-- The parts of a text between the delimiters that are met from the left, each one searched behind
the one before. An empty delimiter is met nowhere. -/
inductive Cut (delimiter : List Char) : List Char → List (List Char) → Prop
  | whole {text : List Char} :
    delimiter = [] ∨ ¬delimiter <:+: text → Cut delimiter text [text]
  | part {before behind : List Char} {parts : List (List Char)} :
    delimiter ≠ [] → FirstAfter delimiter before (before ++ delimiter ++ behind) →
      Cut delimiter behind parts → Cut delimiter (before ++ delimiter ++ behind) (before :: parts)

/-- The characters of a delimiter that was met are passed over. -/
theorem piecesAfter_eq_drop (skip : Nat) (text : List Char) :
    piecesAfter delimiter skip text = piecesAfter delimiter 0 (text.drop skip) := by
  induction skip generalizing text with
  | zero => rfl
  | succ skip ih =>
    cases text with
    | nil => rfl
    | cons _ rest => exact ih rest

theorem piecesAfter_of_cutFirst? (filled : delimiter ≠ []) :
    piecesAfter delimiter 0 text =
      match cutFirst? delimiter text with
      | none => [text]
      | some (before, behind) => before :: piecesAfter delimiter 0 behind := by
  induction text with
  | nil => rfl
  | cons c rest ih =>
    by_cases leads : delimiter.isPrefixOf (c :: rest)
    · simp [piecesAfter, cutFirst?, filled, leads, piecesAfter_eq_drop]
    · simp only [piecesAfter, cutFirst?, List.isEmpty_iff, filled, leads, if_false, ih]
      cases cutFirst? delimiter rest <;> rfl

theorem pieces_of_cutFirst? :
    pieces delimiter text =
      match cutFirst? delimiter text with
      | none => [text]
      | some (before, behind) => before :: pieces delimiter behind := by
  by_cases empty : delimiter = []
  · rw [cutFirst?_eq_none.mpr (.inl empty), pieces, empty]
    rfl
  · have whole (text : List Char) : pieces delimiter text = piecesAfter delimiter 0 text := by
      simp [pieces, empty]
    simp only [whole]
    exact piecesAfter_of_cutFirst? empty

theorem Cut.eq_pieces {parts : List (List Char)} (cut : Cut delimiter text parts) :
    parts = pieces delimiter text := by
  induction cut with
  | whole absent => rw [pieces_of_cutFirst?, cutFirst?_eq_none.mpr absent]
  | part filled first _ ih =>
    rw [pieces_of_cutFirst?, cutFirst?_eq_some.mpr ⟨filled, rfl, first⟩, ih]

theorem cut_pieces (delimiter text : List Char) : Cut delimiter text (pieces delimiter text) := by
  -- What is searched next is the text behind a delimiter, which is shorter.
  induction size : text.length using Nat.strongRecOn generalizing text with
  | ind size ih =>
    subst size
    rw [pieces_of_cutFirst?]
    match found : cutFirst? delimiter text with
    | none => exact .whole (cutFirst?_eq_none.mp found)
    | some (before, behind) =>
      have rest := ih behind.length (length_behind_lt found) behind rfl
      obtain ⟨filled, rfl, first⟩ := cutFirst?_eq_some.mp found
      exact .part filled first rest

/-- There is one way to cut a text. -/
theorem cut_iff {parts : List (List Char)} :
    Cut delimiter text parts ↔ parts = pieces delimiter text :=
  ⟨Cut.eq_pieces, fun same => same ▸ cut_pieces delimiter text⟩

theorem Cut.exists_cons {parts : List (List Char)} (cut : Cut delimiter text parts) :
    ∃ first more, parts = first :: more := by
  cases cut with
  | whole => exact ⟨_, _, rfl⟩
  | part => exact ⟨_, _, rfl⟩

end Text

/-! ### Walks -/

namespace Schema

/-- What a walk from an entity along the parts of a reference comes to. Only the last part may be
empty, name any field, or name one that embeds nothing. -/
inductive Walks (schema : Schema) (reference : String) :
    Entity → List (List Char) → Except PathFault (Option Path) → Prop
  | last {entity : Entity} {part : List Char} :
    Walks schema reference entity [part]
      (.ok ((entity.findField? (String.ofList part)).map fun field => .one field.segment))
  | leading {entity : Entity} {next : List Char} {more : List (List Char)} :
    Walks schema reference entity ([] :: next :: more) (.error (.leadingDelimiter reference))
  | unknown {entity : Entity} {part next : List Char} {more : List (List Char)} :
    part ≠ [] → entity.findField? (String.ofList part) = none →
      Walks schema reference entity (part :: next :: more) (.ok none)
  | scalar {entity : Entity} {part next : List Char} {more : List (List Char)} {field : Field} :
    part ≠ [] → entity.findField? (String.ofList part) = some field →
      field.type.isComposite = false →
        Walks schema reference entity (part :: next :: more)
          (.error (.scalarParent reference field.name field.type))
  | unregistered {entity : Entity} {part next : List Char} {more : List (List Char)}
      {field : Field} {name : String} :
    part ≠ [] → entity.findField? (String.ofList part) = some field →
      field.type.embedded? = some name → schema.entity? name = none →
        Walks schema reference entity (part :: next :: more) (.ok none)
  | further {entity child : Entity} {part next : List Char} {more : List (List Char)}
      {field : Field} {name : String} {result : Except PathFault (Option Path)} :
    part ≠ [] → entity.findField? (String.ofList part) = some field →
      field.type.embedded? = some name → schema.entity? name = some child →
        Walks schema reference child (next :: more) result →
          Walks schema reference entity (part :: next :: more)
            (result.map (·.map (Chain.cons field.segment)))

/-- The fields that the parts find, each in the entity that the field before it embeds. -/
inductive FoundAlong (schema : Schema) : Entity → List (List Char) → List Field → Prop
  | last {entity : Entity} {part : List Char} {field : Field} :
    entity.findField? (String.ofList part) = some field →
      FoundAlong schema entity [part] [field]
  | further {entity child : Entity} {part : List Char} {parts : List (List Char)} {field : Field}
      {name : String} {fields : List Field} :
    entity.findField? (String.ofList part) = some field →
      field.type.embedded? = some name → schema.entity? name = some child →
        FoundAlong schema child parts fields →
          FoundAlong schema entity (part :: parts) (field :: fields)

variable {schema : Schema} {reference : String} {entity : Entity} {parts : List (List Char)}

/-- A walk comes to one result. -/
theorem Walks.unique {result other : Except PathFault (Option Path)}
    (walk : schema.Walks reference entity parts result)
    (again : schema.Walks reference entity parts other) : result = other := by
  -- The rules exclude each other; only the last one leaves a walk that goes on.
  induction walk generalizing other with
  | last => cases again; rfl
  | leading => cases again <;> first | rfl | contradiction
  | unknown filled absent => cases again <;> simp_all
  | scalar filled found ends => cases again <;> simp_all [FieldType.isComposite]
  | unregistered filled found embedded absent =>
    cases again <;> simp_all [FieldType.isComposite]
  | further filled found embedded known _ ih =>
    cases again with
    | leading => contradiction
    | unknown _ absent => simp_all
    | scalar _ found' ends => simp_all [FieldType.isComposite]
    | unregistered _ found' embedded' absent => simp_all
    | further _ found' embedded' known' later =>
      obtain rfl := Option.some.inj (found.symm.trans found')
      obtain rfl := Option.some.inj (embedded.symm.trans embedded')
      obtain rfl := Option.some.inj (known.symm.trans known')
      rw [ih later]

/-- A walk that comes to a path has found its fields. -/
theorem Walks.foundAlong {result : Except PathFault (Option Path)} {path : Path}
    (walk : schema.Walks reference entity parts result) (reached : result = .ok (some path)) :
    ∃ fields : Chain Field,
      schema.FoundAlong entity parts fields.toList ∧ path = fields.map Field.segment := by
  induction walk generalizing path with
  | last =>
    simp only [Except.ok.injEq, Option.map_eq_some_iff] at reached
    obtain ⟨field, found, rfl⟩ := reached
    exact ⟨.one field, .last found, rfl⟩
  | leading => cases reached
  | unknown => cases reached
  | scalar => cases reached
  | unregistered => cases reached
  | further _ found embedded known _ ih =>
    simp only [map_eq_ok, Option.map_eq_some_iff] at reached
    obtain ⟨_, later, rest, rfl, rfl⟩ := reached
    obtain ⟨fields, along, rfl⟩ := ih later
    exact ⟨.cons _ fields, .further found embedded known along, rfl⟩

theorem FoundAlong.length {fields : List Field} (along : schema.FoundAlong entity parts fields) :
    fields.length = parts.length := by
  induction along with
  | last => rfl
  | further _ _ _ _ ih => simp [ih]

/-- The fields that another one follows embed an entity. -/
theorem FoundAlong.isComposite {fields : List Field}
    (along : schema.FoundAlong entity parts fields) :
    ∀ field ∈ fields.dropLast, field.type.isComposite = true := by
  induction along with
  | last => simp
  | further found embedded _ later ih =>
    intro field here
    rw [List.dropLast_cons_of_ne_nil] at here
    · rcases List.mem_cons.mp here with rfl | here
      · simp [FieldType.isComposite, embedded]
      · exact ih field here
    · cases later <;> simp

end Schema

namespace Resolver

variable (resolver : Resolver) {reference : String} {entity : Entity} {text : List Char}

/-! ### Searching the rest of the text -/

theorem search_of_cutFirst?_eq_none
    (absent : Text.cutFirst? resolver.delimiter.toList text = none) :
    resolver.search reference entity text =
      .ok ((entity.findField? (String.ofList text)).map Chain.one) := by
  rw [search]
  split
  next => rfl
  next found => exact absurd (found.symm.trans absent) (by simp)

theorem search_of_cutFirst?_eq_some {before behind : List Char}
    (cut : Text.cutFirst? resolver.delimiter.toList text = some (before, behind)) :
    resolver.search reference entity text =
      if before.isEmpty then .error (.leadingDelimiter reference)
      else
        match entity.findField? (String.ofList before) with
        | none => .ok none
        | some field =>
          match field.type.embedded? with
          | none => .error (.scalarParent reference field.name field.type)
          | some name =>
            match resolver.schema.entity? name with
            | none => .ok none
            | some child =>
              (resolver.search reference child behind).map (·.map (Chain.cons field)) := by
  rw [search]
  split
  next absent => exact absurd (absent.symm.trans cut) (by simp)
  next found =>
    cases found.symm.trans cut
    rfl

/-- What a path keeps of the fields that a search selects. -/
def segments (found : Except PathFault (Option (Chain Field))) : Except PathFault (Option Path) :=
  found.map (·.map (Chain.map Field.segment))

theorem segments_one (found : Option Field) :
    segments (.ok (found.map Chain.one)) = .ok (found.map fun field => .one field.segment) := by
  cases found <;> rfl

theorem segments_cons (field : Field) (found : Except PathFault (Option (Chain Field))) :
    segments (found.map (·.map (Chain.cons field))) =
      (segments found).map (·.map (Chain.cons field.segment)) := by
  rcases found with _ | _ | _ <;> rfl

/-- What a text selects is what the walk along its parts comes to. -/
theorem walks_search {parts : List (List Char)}
    (cut : Text.Cut resolver.delimiter.toList text parts) :
    resolver.schema.Walks reference entity parts
      (segments (resolver.search reference entity text)) := by
  -- Each part is cut off at the delimiter that the search meets first.
  induction cut generalizing entity with
  | @whole text absent =>
    rw [resolver.search_of_cutFirst?_eq_none (Text.cutFirst?_eq_none.mpr absent), segments_one]
    exact .last
  | @part before behind parts filled first cut ih =>
    rw [resolver.search_of_cutFirst?_eq_some (Text.cutFirst?_eq_some.mpr ⟨filled, rfl, first⟩)]
    obtain ⟨next, more, rfl⟩ := cut.exists_cons
    by_cases empty : before = []
    · subst empty
      exact .leading
    rw [if_neg (by simpa using empty)]
    split
    next absent => exact .unknown empty absent
    next field found =>
      split
      next ends => exact .scalar empty found (by simp [FieldType.isComposite, ends])
      next name embedded =>
        split
        next absent => exact .unregistered empty found embedded absent
        next child known =>
          rw [segments_cons]
          exact .further empty found embedded known ih

/-- A segment keeps the name, the alias and the type of its field. -/
theorem segments_of_map (fields : Chain Field) :
    List.Forall₂ (fun segment field => segment.name = field.name ∧
      segment.aliasName = field.aliasName ∧ segment.type = field.type)
      (fields.map Field.segment).toList fields.toList := by
  rw [Chain.toList_map, List.forall₂_map_left_iff]
  exact List.forall₂_same.mpr fun _ _ => ⟨rfl, rfl, rfl⟩

/-- A reference is cut in one way, the walk along its parts comes to one result, and that is what
the reference resolves to. A path that is reached has a segment for each part, made of the field
that the part finds, and only the last segment may embed nothing. -/
theorem resolve_walks (resolver : Resolver) (entity : Entity) (reference : String) :
    ∃ parts,
      (∀ other, Text.Cut resolver.delimiter.toList reference.toList other ↔ other = parts) ∧
      (∀ result, resolver.schema.Walks reference entity parts result ↔
        result = resolver.resolve entity reference) ∧
      ∀ path, resolver.resolve entity reference = .ok (some path) →
        path.toList.length = parts.length ∧
        (∀ segment ∈ path.before, segment.type.isComposite = true) ∧
        ∃ fields, resolver.schema.FoundAlong entity parts fields ∧
          List.Forall₂ (fun segment field => segment.name = field.name ∧
            segment.aliasName = field.aliasName ∧ segment.type = field.type)
            path.toList fields := by
  have walk : resolver.schema.Walks reference entity
      (Text.pieces resolver.delimiter.toList reference.toList)
      (resolver.resolve entity reference) :=
    resolver.walks_search (Text.cut_pieces _ _)
  refine ⟨_, fun _ => Text.cut_iff, fun result => ⟨fun other => other.unique walk, ?_⟩,
    fun path reached => ?_⟩
  · rintro rfl
    exact walk
  · obtain ⟨fields, along, rfl⟩ := walk.foundAlong reached
    refine ⟨?_, ?_, fields.toList, along, segments_of_map fields⟩
    · rw [Chain.toList_map, List.length_map, along.length]
    · intro segment here
      obtain ⟨field, place, rfl⟩ := List.mem_map.mp here
      exact along.isComposite field (by simpa [Chain.toList] using place)

end Resolver

namespace Sample

/-- A folder lies in another one or in none. -/
def folder : Entity where
  name := "Folder"
  identity := "name"
  fields :=
    [{ name := "name", type := .scalar .string },
     { name := "parent", aliasName := some "in", type := .optionalEmbedded "Folder" }]

/-- References to folders are cut at two dashes. -/
def folders : Resolver := ⟨.ofEntities 1 [folder], "--"⟩

-- Of three dashes the first two are met.
example : folders.resolve folder "parent---name" = .ok none := rfl

-- A delimiter at the end leaves an empty last part, two in a row an empty one before the last.
example : folders.resolve folder "parent--" = .ok none ∧
    folders.resolve folder "parent----name" = .error (.leadingDelimiter "parent----name") :=
  ⟨rfl, rfl⟩

/-- The name of the folder two above. -/
theorem grandparent_walk :
    ∃ path fields, folders.resolve folder "parent--in--NAME" = .ok (some path) ∧
      path.toList.length = 3 ∧
      (∀ segment ∈ path.before, segment.type.isComposite = true) ∧
      folders.schema.FoundAlong folder
        ["parent".toList, "in".toList, "NAME".toList] fields ∧
      path.names = ["parent", "parent", "name"] := by
  obtain ⟨parts, cut, _, reached⟩ := folders.resolve_walks folder "parent--in--NAME"
  have split : ["parent".toList, "in".toList, "NAME".toList] = parts :=
    (cut _).mp (Text.cut_iff.mpr rfl)
  subst split
  obtain ⟨size, composite, fields, along, _⟩ := reached _ rfl
  exact ⟨_, fields, rfl, size, composite, along, rfl⟩

end Sample

end RecordQuery
