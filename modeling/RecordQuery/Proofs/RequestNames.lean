import Mathlib.Data.List.Pairwise
import RecordQuery.Proofs.CanonicalNames
import RecordQuery.Proofs.LetterCase
import RecordQuery.Proofs.Spelling

/-!
# Names in requests

Requests name a field by its declared name or its alias, in any case of ASCII letters. Where no two
fields of an entity share a name in this sense, and the delimiter has no letters, references that
differ in case alone lead to the same path at every level, and so does a reference in which the
alias of a field stands for the field.
-/

namespace RecordQuery

/-! ### Fields that answer to a name -/

/-- The names by which requests refer to the field. -/
def Field.requestNames (field : Field) : List String := field.name :: field.aliasName.toList

theorem Field.answersTo_iff {field : Field} {name : String} :
    field.answersTo name = true ↔ ∃ own ∈ field.requestNames, Text.sameName own name = true := by
  unfold Field.answersTo Field.requestNames
  cases field.aliasName <;> simp

/-- No name of the one field is one of the other, whatever the case of ASCII letters. -/
def Field.Apart (field other : Field) : Prop :=
  ∀ name ∈ field.requestNames, ∀ name' ∈ other.requestNames, Text.sameName name name' = false

instance : Std.Symm Field.Apart where
  symm field other apart := by
    intro name here name' there
    rw [Text.sameName_comm]
    exact apart name' there name here

namespace Entity

/-- The names and aliases of different fields are different. -/
def Unambiguous (entity : Entity) : Prop := entity.fields.Pairwise Field.Apart

variable {entity : Entity} {field other : Field} {name name' : String}

/-- At most one field answers to a name. -/
theorem Unambiguous.eq_of_answersTo (unambiguous : entity.Unambiguous)
    (member : field ∈ entity.fields) (member' : other ∈ entity.fields)
    (answers : field.answersTo name = true) (answers' : other.answersTo name = true) :
    field = other := by
  by_contra different
  obtain ⟨own, mine, same⟩ := Field.answersTo_iff.mp answers
  obtain ⟨own', its, same'⟩ := Field.answersTo_iff.mp answers'
  have apart := List.Pairwise.forall unambiguous member member' different own mine own' its
  rw [Text.sameName_comm] at same'
  rw [Text.sameName_trans same same'] at apart
  cases apart

/-- The field that a name refers to is the one that answers to it. The search for the exact name,
which comes first, finds no other. -/
theorem Unambiguous.findField?_eq_some (unambiguous : entity.Unambiguous) :
    entity.findField? name = some field ↔
      field ∈ entity.fields ∧ field.answersTo name = true := by
  constructor
  · intro found
    exact ⟨mem_of_findField? found, answersTo_of_findField? found⟩
  · rintro ⟨member, answers⟩
    have answered : (entity.fields.find? (·.answersTo name)).isSome = true :=
      List.find?_isSome.mpr ⟨field, member, answers⟩
    have found : (entity.findField? name).isSome = true := by
      simp [findField?, answered]
    obtain ⟨other, found⟩ := Option.isSome_iff_exists.mp found
    rw [found, unambiguous.eq_of_answersTo (mem_of_findField? found) member
      (answersTo_of_findField? found) answers]

theorem Unambiguous.findField?_aliasName (unambiguous : entity.Unambiguous)
    (member : field ∈ entity.fields) {aliasName : String}
    (named : field.aliasName = some aliasName) : entity.findField? aliasName = some field := by
  refine unambiguous.findField?_eq_some.mpr ⟨member, Field.answersTo_iff.mpr ?_⟩
  exact ⟨aliasName, by simp [Field.requestNames, named], by simp [Text.sameName]⟩

theorem Unambiguous.findField?_congr (unambiguous : entity.Unambiguous)
    (same : Text.sameName name name' = true) :
    entity.findField? name = entity.findField? name' := by
  have answers (field : Field) : field.answersTo name = field.answersTo name' := by
    unfold Field.answersTo
    simp only [Text.sameName] at same ⊢
    rw [eq_of_beq same]
  apply Option.ext
  intro field
  rw [unambiguous.findField?_eq_some, unambiguous.findField?_eq_some, answers]

end Entity

/-! ### References that differ in case -/

/-- The fault without the reference that it names. -/
def PathFault.unnamed : PathFault → PathFault
  | .leadingDelimiter _ => .leadingDelimiter ""
  | .scalarParent _ segment type => .scalarParent "" segment type

namespace Resolver

variable (resolver : Resolver) {entity : Entity} {reference reference' : String}

/-- Texts that differ in case alone select the same fields. -/
theorem search_alike (caseless : ∀ c ∈ resolver.delimiter.toList, c.isAlpha = false)
    (every : resolver.schema.EveryEntity entity Entity.Unambiguous) {text other : List Char}
    (alike : Text.AlikeInCase text other) :
    EqualUpTo PathFault.unnamed (resolver.search reference entity text)
      (resolver.search reference' entity other) := by
  -- Both searches cut at the same places, so they take the same steps until one of them ends.
  induction size : text.length using Nat.strongRecOn generalizing entity text other with
  | ind size ih =>
    subst size
    have found {part part' : List Char} (same : Text.AlikeInCase part part') :
        entity.findField? (String.ofList part) = entity.findField? (String.ofList part') :=
      every.1.findField?_congr (Text.sameName_of_alikeInCase same)
    match cut : Text.cutFirst? resolver.delimiter.toList text with
    | none =>
      have cut' := alike.cutFirst?_eq_none caseless cut
      rw [resolver.search_of_cutFirst?_eq_none cut, resolver.search_of_cutFirst?_eq_none cut',
        found alike]
      exact .of_eq rfl
    | some (before, behind) =>
      obtain ⟨before', behind', cut', befores, behinds⟩ := alike.cutFirst?_eq_some caseless cut
      have empty : before.isEmpty = before'.isEmpty := by
        simpa using congrArg List.isEmpty befores
      rw [resolver.search_of_cutFirst?_eq_some cut, resolver.search_of_cutFirst?_eq_some cut',
        found befores, empty]
      split
      · exact .of_faults rfl
      · split
        next => exact .of_eq rfl
        next field looked =>
          split
          next => exact .of_faults rfl
          next name embeds =>
            split
            next => exact .of_eq rfl
            next child known =>
              have embedded : resolver.schema.embeddedEntity? field = some child := by
                rw [Schema.embeddedEntity?, embeds, Option.bind_some, known]
              have shorter := Text.length_behind_lt cut
              exact .map _ (ih behind.length shorter (every.child embedded) behinds rfl)

theorem resolve_alike (caseless : ∀ c ∈ resolver.delimiter.toList, c.isAlpha = false)
    (every : resolver.schema.EveryEntity entity Entity.Unambiguous)
    (same : Text.sameName reference reference' = true) :
    EqualUpTo PathFault.unnamed (resolver.resolve entity reference)
      (resolver.resolve entity reference') :=
  .map _ (resolver.search_alike caseless every (Text.alikeInCase_of_sameName same))

/-! ### Aliases in the place of names -/

end Resolver

namespace Text

variable {delimiter text part : List Char} {parts : List (List Char)}

/-- The parts of a text, joined by the delimiter, are the text. -/
theorem Cut.intercalate (cut : Cut delimiter text parts) :
    delimiter.intercalate parts = text := by
  induction cut with
  | whole => simp
  | part _ _ cut ih =>
    obtain ⟨next, more, rfl⟩ := cut.exists_cons
    rw [List.intercalate_cons_cons, ih, List.append_assoc]

/-- Where the first delimiter is met does not depend on what follows it. -/
theorem FirstAfter.behind {before behind : List Char} (other : List Char)
    (first : FirstAfter delimiter before (before ++ delimiter ++ behind)) :
    FirstAfter delimiter before (before ++ delimiter ++ other) := by
  intro earlier later split
  by_contra shorter
  -- A delimiter that begins earlier ends earlier too.
  have within : earlier ++ delimiter <+: before ++ delimiter := by
    apply List.prefix_of_prefix_length_le ⟨later, split.symm⟩ ⟨other, rfl⟩
    simp only [List.length_append]
    omega
  obtain ⟨rest, joined⟩ := within
  have again : before ++ delimiter ++ behind = earlier ++ delimiter ++ (rest ++ behind) := by
    rw [← joined, List.append_assoc]
  exact shorter (first earlier _ again)

/-- A part without characters of the delimiter can stand in the place of any other. -/
theorem Cut.set (cut : Cut delimiter text parts) (apart : ∀ c ∈ part, c ∉ delimiter)
    (place : Nat) :
    Cut delimiter (delimiter.intercalate (parts.set place part)) (parts.set place part) := by
  induction cut generalizing place with
  | @whole text absent =>
    cases place with
    | zero =>
      rw [List.set_cons_zero, List.intercalate_singleton]
      by_cases empty : delimiter = []
      · exact .whole (.inl empty)
      · exact .whole (.inr (not_infix_of_disjoint empty apart))
    | succ place =>
      rw [List.set_cons_succ, List.set_nil, List.intercalate_singleton]
      exact .whole absent
  | part filled first cut ih =>
    cases place with
    | zero =>
      obtain ⟨next, more, rfl⟩ := cut.exists_cons
      rw [List.set_cons_zero, List.intercalate_cons_cons, cut.intercalate]
      exact .part filled (firstAfter_of_disjoint filled apart) cut
    | succ place =>
      have later := ih place
      obtain ⟨next, more, others⟩ := later.exists_cons
      rw [List.set_cons_succ, others, List.intercalate_cons_cons, ← others]
      exact .part filled (first.behind _) later

end Text

namespace Schema

variable {schema : Schema} {reference other : String} {entity : Entity} {parts : List (List Char)}

/-- What a reference is called does not matter to a walk that comes to a path. -/
theorem Walks.renamed {path : Path} {result : Except PathFault (Option Path)}
    (walk : schema.Walks reference entity parts result) (reached : result = .ok (some path)) :
    schema.Walks other entity parts (.ok (some path)) := by
  induction walk generalizing path with
  | last => exact reached ▸ .last
  | leading => cases reached
  | unknown => cases reached
  | scalar => cases reached
  | unregistered => cases reached
  | further filled found embedded known _ ih =>
    simp only [map_eq_ok, Option.map_eq_some_iff] at reached
    obtain ⟨_, later, rest, rfl, rfl⟩ := reached
    exact .further filled found embedded known (ih later)

/-- A walk comes to the same path when the alias of a field stands for the field. -/
theorem Walks.set {path : Path} {result : Except PathFault (Option Path)}
    (walk : schema.Walks reference entity parts result) (reached : result = .ok (some path))
    (every : schema.EveryEntity entity Entity.Unambiguous) {place : Nat} {segment : Segment}
    {aliasName : String} (placed : path.toList[place]? = some segment)
    (named : segment.aliasName = some aliasName) (filled : aliasName ≠ "") :
    schema.Walks other entity (parts.set place aliasName.toList) (.ok (some path)) := by
  induction walk generalizing path place with
  | @last entity part =>
    simp only [Except.ok.injEq, Option.map_eq_some_iff] at reached
    obtain ⟨field, found, rfl⟩ := reached
    cases place with
    | zero =>
      cases placed
      have again := every.1.findField?_aliasName (Entity.mem_of_findField? found) named
      have walk := @Walks.last schema other entity aliasName.toList
      rw [String.ofList_toList, again] at walk
      exact walk
    | succ place => cases placed
  | leading => cases reached
  | unknown => cases reached
  | scalar => cases reached
  | unregistered => cases reached
  | @further entity child part next more field name _ nonempty found embeds known walk ih =>
    simp only [map_eq_ok, Option.map_eq_some_iff] at reached
    obtain ⟨_, later, rest, rfl, rfl⟩ := reached
    cases place with
    | zero =>
      cases placed
      have again := every.1.findField?_aliasName (Entity.mem_of_findField? found) named
      exact .further (by simpa using filled) (by rw [String.ofList_toList, again]) embeds known
        (walk.renamed later)
    | succ place =>
      have embedded : schema.embeddedEntity? field = some child := by
        rw [Schema.embeddedEntity?, embeds, Option.bind_some, known]
      have further := ih later (every.child embedded) (by simpa using placed)
      obtain ⟨next', more', others⟩ : ∃ next' more',
          (next :: more).set place aliasName.toList = next' :: more' :=
        List.exists_cons_of_ne_nil (by simp)
      rw [List.set_cons_succ, others]
      rw [others] at further
      exact .further nonempty found embeds known further

end Schema

namespace Resolver

variable (resolver : Resolver) {entity : Entity}

/-- The reference with another text in the place of one of its parts. -/
def withPart (reference : String) (place : Nat) (part : String) : String :=
  String.ofList (resolver.delimiter.toList.intercalate
    ((Text.pieces resolver.delimiter.toList reference.toList).set place part.toList))

theorem resolve_withPart (every : resolver.schema.EveryEntity entity Entity.Unambiguous)
    {reference aliasName : String} {path : Path} {place : Nat} {segment : Segment}
    (resolved : resolver.resolve entity reference = .ok (some path))
    (placed : path.toList[place]? = some segment) (named : segment.aliasName = some aliasName)
    (filled : aliasName ≠ "") (apart : ∀ c ∈ aliasName.toList, c ∉ resolver.delimiter.toList) :
    resolver.resolve entity (resolver.withPart reference place aliasName) = .ok (some path) := by
  have cut := Text.cut_pieces resolver.delimiter.toList reference.toList
  have replaced : resolver.schema.Walks (resolver.withPart reference place aliasName) entity
      ((Text.pieces resolver.delimiter.toList reference.toList).set place aliasName.toList)
      (.ok (some path)) :=
    (resolver.walks_search cut).set resolved every placed named filled
  have cut' : Text.Cut resolver.delimiter.toList
      (resolver.withPart reference place aliasName).toList
      ((Text.pieces resolver.delimiter.toList reference.toList).set place aliasName.toList) := by
    rw [withPart, String.toList_ofList]
    exact cut.set apart place
  exact (resolver.walks_search cut').unique replaced

/-! ### Main result -/

/-- References that differ in case alone lead to the same path, both to none or to the same fault
apart from the reference that it names. A reference that leads to a path still does so when the
alias of a field stands for the part that selects it. -/
theorem names_in_any_case (caseless : ∀ c ∈ resolver.delimiter.toList, c.isAlpha = false)
    (every : resolver.schema.EveryEntity entity Entity.Unambiguous) :
    (∀ reference reference', Text.sameName reference reference' = true →
      EqualUpTo PathFault.unnamed (resolver.resolve entity reference)
        (resolver.resolve entity reference')) ∧
    ∀ reference path place segment aliasName,
      resolver.resolve entity reference = .ok (some path) → path.toList[place]? = some segment →
        segment.aliasName = some aliasName → aliasName ≠ "" →
          (∀ c ∈ aliasName.toList, c ∉ resolver.delimiter.toList) →
            resolver.resolve entity (resolver.withPart reference place aliasName) =
              .ok (some path) := by
  constructor
  · intro reference reference' same
    exact resolver.resolve_alike caseless every same
  · intro reference path place segment aliasName resolved placed named filled apart
    exact resolver.resolve_withPart every resolved placed named filled apart

end Resolver

namespace Sample

theorem folders_unambiguous : folders.schema.EveryEntity folder Entity.Unambiguous := by
  have folder_unambiguous : folder.Unambiguous := by
    unfold Entity.Unambiguous Field.Apart
    decide
  exact .single folder_unambiguous

-- A fault names the reference as it is written, but its kind does not depend on case.
example :
    folders.resolve folder "NAME--x" =
        .error (.scalarParent "NAME--x" "name" (.scalar .string)) ∧
      folders.resolve folder "Name--X" =
        .error (.scalarParent "Name--X" "name" (.scalar .string)) :=
  ⟨rfl, rfl⟩

/-- The name of the folder two above, in two spellings and by the alias of the second part. -/
theorem grandparent_spellings :
    ∃ path, folders.resolve folder "PARENT--Parent--name" = .ok (some path) ∧
      folders.resolve folder "parent--pARENT--NAME" = .ok (some path) ∧
      folders.withPart "PARENT--Parent--name" 1 "in" = "PARENT--in--name" ∧
      folders.resolve folder "PARENT--in--name" = .ok (some path) := by
  have caseless : ∀ c ∈ folders.delimiter.toList, c.isAlpha = false := by simp [folders]
  have apart : ∀ c ∈ "in".toList, c ∉ folders.delimiter.toList := by simp [folders]
  have names := folders.names_in_any_case caseless folders_unambiguous
  have folded := names.1 "PARENT--Parent--name" "parent--pARENT--NAME" (by decide)
  have replaced := names.2 "PARENT--Parent--name" _ 1 _ "in" rfl rfl rfl (by decide) apart
  exact ⟨_, rfl, folded.eq_ok rfl, rfl, replaced⟩

end Sample

end RecordQuery
