import RecordQuery.Proofs.FoldedKeys
import RecordQuery.Proofs.Spelling
import RecordQuery.Request.Document

/-!
# Renamed keys

Folding the keys of a document fails exactly when two keys of one object become equal. Otherwise it
renames every key and keeps all else, and what comes out does not depend on the letter case of the
keys that go in. So requests are read alike however their keys are written.
-/

namespace RecordQuery

/-! ### Related lists -/

section Lists

variable {α β γ : Type} {related : α → β → Prop} {values : List α} {others : List β}

theorem forall₂_imp_of_mem {related' : α → β → Prop}
    (pairs : List.Forall₂ related values others)
    (each : ∀ value ∈ values, ∀ other, related value other → related' value other) :
    List.Forall₂ related' values others :=
  ((List.forall₂_and_left _ _).mpr ⟨each, pairs⟩).imp fun _ other both => both.1 other both.2

theorem map_eq_map_of_forall₂ {change : α → γ} {change' : β → γ}
    (pairs : List.Forall₂ (fun value other => change value = change' other) values others) :
    values.map change = others.map change' := by
  have mapped : List.Forall₂ Eq (values.map change) (others.map change') :=
    List.forall₂_map_left_iff.mpr (List.forall₂_map_right_iff.mpr pairs)
  rwa [List.forall₂_eq_eq_eq] at mapped

theorem forall_mem_iff_of_forall₂ {property : α → Prop} {property' : β → Prop}
    (pairs : List.Forall₂ (fun value other => property value ↔ property' other) values others) :
    (∀ value ∈ values, property value) ↔ ∀ other ∈ others, property' other := by
  induction pairs with
  | nil => simp
  | cons same _ ih => rw [List.forall_mem_cons, List.forall_mem_cons, same, ih]

end Lists

namespace Json

/-! ### Renaming -/

/-- The same document but for the keys of its objects, which are related, and the order of their
entries. -/
inductive Renames (renames : String → String → Prop) : Json → Json → Prop
  | leaf {document : Json} (alone : document.inside = []) : Renames renames document document
  | list {items items' : List Json} (each : List.Forall₂ (Renames renames) items items') :
    Renames renames (.list items) (.list items')
  | object {entries renamed entries' : List (String × Json)}
    (keys : List.Forall₂ renames (entries.map (·.1)) (renamed.map (·.1)))
    (values : List.Forall₂ (Renames renames) (entries.map (·.2)) (renamed.map (·.2)))
    (reordered : renamed.Perm entries') : Renames renames (.object entries) (.object entries')

/-- The second key is the first one in small letters. -/
def MadeSmall (key small : String) : Prop := small = Text.lowercase key

/-- The keys are equal in small letters. -/
def SameSmall (key key' : String) : Prop := Text.lowercase key = Text.lowercase key'

theorem keysDiffer_iff_of_renamed {entries renamed entries' : List (String × Json)}
    (keys : List.Forall₂ SameSmall (entries.map (·.1)) (renamed.map (·.1)))
    (reordered : renamed.Perm entries') :
    (object entries).KeysDiffer ↔ (object entries').KeysDiffer := by
  have same := map_eq_map_of_forall₂ keys
  have perm := (reordered.map Prod.fst).map Text.lowercase
  calc (object entries).KeysDiffer
      ↔ ((renamed.map (·.1)).map Text.lowercase).Nodup := by rw [KeysDiffer, same]
    _ ↔ (object entries').KeysDiffer := perm.nodup_iff

theorem Renames.keysApart_iff {document other : Json} (renamed : document.Renames SameSmall other) :
    document.KeysApart ↔ other.KeysApart := by
  induction document using of_inside generalizing other with
  | step document ih =>
    cases renamed with
    | leaf => rfl
    | list each =>
      have alike := forall₂_imp_of_mem each fun item listed other same => ih item listed same
      unfold KeysApart
      rw [everywhere_iff, everywhere_iff]
      exact and_congr Iff.rfl (forall_mem_iff_of_forall₂ alike)
    | @object entries renamed entries' keys values reordered =>
      have alike := forall₂_imp_of_mem values fun value listed other same => ih value listed same
      unfold KeysApart
      rw [everywhere_iff, everywhere_iff]
      refine and_congr (keysDiffer_iff_of_renamed keys reordered) ?_
      refine (forall_mem_iff_of_forall₂ alike).trans (forall_congr' fun value => ?_)
      exact imp_congr (reordered.map Prod.snd).mem_iff Iff.rfl

theorem values_foldedEntries (entries : List (String × Json)) :
    (foldedEntries entries).map (·.2) = (entries.map (·.2)).map folded := by
  rw [foldedEntries_eq_map, List.map_map, List.map_map]
  rfl

theorem foldedEntries_eq_zip (entries : List (String × Json)) :
    foldedEntries entries =
      ((entries.map (·.1)).map Text.lowercase).zip ((entries.map (·.2)).map folded) :=
  List.zip_of_prod (keys_foldedEntries entries) (values_foldedEntries entries)

/-- Folding hides what was renamed: the keys become the same, and so do the places of the entries. -/
theorem Renames.folded_eq {document other : Json} (renamed : document.Renames SameSmall other)
    (apart : document.KeysApart) : document.folded = other.folded := by
  induction document using of_inside generalizing other with
  | step document ih =>
    obtain ⟨here, parts⟩ := everywhere_iff.mp apart
    cases renamed with
    | leaf => rfl
    | list each =>
      have same := forall₂_imp_of_mem each fun item listed other renamed =>
        ih item listed renamed (parts item listed)
      rw [folded, folded, foldedItems_eq_map, foldedItems_eq_map, map_eq_map_of_forall₂ same]
    | @object entries renamed entries' keys values reordered =>
      have small := map_eq_map_of_forall₂ keys
      have same := forall₂_imp_of_mem values fun value listed other renamed =>
        ih value listed renamed (parts value listed)
      have entries_eq : foldedEntries entries = foldedEntries renamed := by
        rw [foldedEntries_eq_zip, foldedEntries_eq_zip, small, map_eq_map_of_forall₂ same]
      have distinct : ((foldedEntries entries').map (·.1)).Nodup := by
        rw [keys_foldedEntries]
        exact (keysDiffer_iff_of_renamed keys reordered).mp here
      have perm : (foldedEntries entries).Perm (foldedEntries entries') := by
        rw [entries_eq, foldedEntries_eq_map, foldedEntries_eq_map]
        exact reordered.map _
      rw [folded, folded]
      exact congrArg Json.object (putEntries_eq_of_perm ascending_putEntries
        (perm.trans (putEntries_perm distinct).symm))

/-- What comes out of folding is the document with every key made small: the same lists and leaves,
and an entry for each entry. -/
theorem renames_folded {document : Json} (apart : document.KeysApart) :
    document.Renames MadeSmall document.folded := by
  induction apart with
  | @node document here parts ih =>
    cases document with
    | list items =>
      rw [folded, foldedItems_eq_map]
      apply Renames.list
      rw [List.forall₂_map_right_iff, List.forall₂_same]
      exact ih
    | object entries =>
      have keys : List.Forall₂ MadeSmall (entries.map (·.1)) ((foldedEntries entries).map (·.1)) := by
        rw [keys_foldedEntries, List.forall₂_map_right_iff, List.forall₂_same]
        exact fun _ _ => rfl
      have values : List.Forall₂ (Renames MadeSmall) (entries.map (·.2))
          ((foldedEntries entries).map (·.2)) := by
        rw [values_foldedEntries, List.forall₂_map_right_iff, List.forall₂_same]
        exact ih
      -- Small keys are distinct, so that none of the entries takes the place of another.
      have distinct : ((foldedEntries entries).map (·.1)).Nodup := by
        rw [keys_foldedEntries]
        exact here
      rw [folded]
      exact .object keys values (putEntries_perm distinct).symm
    | _ =>
      rw [folded]
      exact .leaf rfl

/-! ### Settled documents -/

/-- The entries of the object stand in ascending order of their keys, none of which is repeated. -/
def InOrder : Json → Prop
  | .object entries => Ascending entries
  | _ => True

/-- The entries of every object stand in ascending order of their keys. -/
def Settled (document : Json) : Prop := document.Everywhere InOrder

theorem settled_folded (document : Json) : document.folded.Settled := by
  induction document using of_inside with
  | step document ih =>
    cases document with
    | list items =>
      rw [folded, foldedItems_eq_map]
      exact Everywhere.list_map trivial ih
    | object entries =>
      rw [folded]
      refine .object ascending_putEntries fun entry listed => ?_
      have given := mem_of_mem_putEntries listed
      rw [foldedEntries_eq_map] at given
      obtain ⟨before, member, rfl⟩ := List.mem_map.mp given
      exact ih before.2 (List.mem_map.mpr ⟨before, member, rfl⟩)
    | _ =>
      rw [folded]
      exact .leaf trivial rfl

/-! ### Clashes -/

/-- Some object, the document or a part of it, has two keys that become equal in small letters. -/
def HasClash (document : Json) : Prop :=
  ∃ entries, (object entries).PartOf document ∧
    ∃ key ∈ entries.map (·.1), ∃ key' ∈ entries.map (·.1), key ≠ key' ∧ SameSmall key key'

theorem keysApart_iff_not_hasClash {document : Json} (settled : document.Settled) :
    document.KeysApart ↔ ¬ document.HasClash := by
  have each (entries : List (String × Json)) (within : (object entries).PartOf document) :
      (object entries).KeysDiffer ↔ ∀ key ∈ entries.map (·.1), ∀ key' ∈ entries.map (·.1),
        SameSmall key key' → key = key' := by
    have ascending : Ascending entries := everywhere_iff_parts.mp settled _ within
    exact List.nodup_map_iff_inj_on ascending.nodup
  unfold KeysApart
  rw [everywhere_iff_parts]
  constructor
  · rintro apart ⟨entries, within, key, listed, key', listed', different, same⟩
    exact different ((each entries within).mp (apart _ within) key listed key' listed' same)
  · intro clear part within
    cases part with
    | object entries =>
      refine (each entries within).mpr fun key listed key' listed' same => ?_
      by_contra different
      exact clear ⟨entries, within, key, listed, key', listed', different, same⟩
    | _ => trivial

theorem foldKeys_of_foldItems {items folded : List Json} (folds : foldItems items = .ok folded) :
    ∀ item ∈ items, ∃ result, item.foldKeys = .ok result := by
  induction items generalizing folded with
  | nil => exact fun item listed => absurd listed List.not_mem_nil
  | cons first rest ih =>
    simp only [foldItems, bind_eq_ok] at folds
    obtain ⟨result, here, others, later, _⟩ := folds
    exact List.forall_mem_cons.mpr ⟨⟨result, here⟩, ih later⟩

/-- Where entries are folded, each of their small keys is new among those held before it. -/
theorem new_of_foldEntries {held entries folded : List (String × Json)}
    (folds : foldEntries held entries = .ok folded) :
    (∀ entry ∈ entries, Text.lowercase entry.1 ∉ held.map (·.1) ∧
        ∃ result, entry.2.foldKeys = .ok result) ∧
      (object entries).KeysDiffer := by
  induction entries generalizing held with
  | nil => exact ⟨fun entry listed => absurd listed List.not_mem_nil, List.nodup_nil⟩
  | cons first rest ih =>
    obtain ⟨key, value⟩ := first
    rw [foldEntries] at folds
    split at folds
    next => cases folds
    next unheld =>
      rw [isSome_entryAt?] at unheld
      simp only [bind_eq_ok] at folds
      obtain ⟨result, here, later⟩ := folds
      obtain ⟨new, differ⟩ := ih later
      refine ⟨List.forall_mem_cons.mpr ⟨⟨unheld, result, here⟩, fun entry listed => ?_⟩, ?_⟩
      · -- What is new behind the first entry is new before it.
        obtain ⟨fresh, folded⟩ := new entry listed
        exact ⟨fun old => fresh (mem_keys_putEntry.mpr (.inr old)), folded⟩
      · refine List.nodup_cons.mpr ⟨fun again => ?_, differ⟩
        obtain ⟨other, listed, same⟩ := List.mem_map.mp again
        obtain ⟨entry, member, rfl⟩ := List.mem_map.mp listed
        exact (new entry member).1 (mem_keys_putEntry.mpr (.inl same))

/-- Folding succeeds only where the keys stay apart. -/
theorem keysApart_of_foldKeys {document result : Json} (folds : document.foldKeys = .ok result) :
    document.KeysApart := by
  induction document using of_inside generalizing result with
  | step document ih =>
    cases document with
    | list items =>
      rw [foldKeys, map_eq_ok] at folds
      obtain ⟨_, each, _⟩ := folds
      refine .node trivial fun item listed => ?_
      obtain ⟨_, folded⟩ := foldKeys_of_foldItems each item listed
      exact ih item listed folded
    | object entries =>
      rw [foldKeys, map_eq_ok] at folds
      obtain ⟨_, each, _⟩ := folds
      obtain ⟨new, differ⟩ := new_of_foldEntries each
      refine .object differ fun entry listed => ?_
      obtain ⟨_, _, folded⟩ := new entry listed
      exact ih entry.2 (List.mem_map.mpr ⟨entry, listed, rfl⟩) folded
    | _ => exact .leaf trivial rfl

theorem exists_clash {document : Json} (meets : ¬ document.KeysApart) :
    ∃ clash, document.foldKeys = .error clash := by
  cases folds : document.foldKeys with
  | error clash => exact ⟨clash, rfl⟩
  | ok result => exact absurd (keysApart_of_foldKeys folds) meets

theorem exists_clash_iff {document : Json} :
    (∃ clash, document.foldKeys = .error clash) ↔ ¬ document.KeysApart := by
  constructor
  · rintro ⟨clash, failed⟩ apart
    rw [foldKeys_eq apart] at failed
    cases failed
  · exact exists_clash

end Json

/-! ### Main result -/

/-- The fault without the key that it names. -/
def RequestFault.unnamed : RequestFault → RequestFault
  | .unreadable => .unreadable
  | .duplicateKey _ => .duplicateKey ""

/-- Documents that are equal but for the letter case of keys are read alike. -/
theorem readFolded_renamed {α : Type} (read : Json → Option α) {document other : Json}
    (renamed : document.Renames Json.SameSmall other) :
    EqualUpTo RequestFault.unnamed (readFolded read document) (readFolded read other) := by
  unfold readFolded
  by_cases apart : document.KeysApart
  · have folds : document.foldKeys = other.foldKeys := by
      rw [Json.foldKeys_eq apart, Json.foldKeys_eq (renamed.keysApart_iff.mp apart),
        renamed.folded_eq apart]
    rw [folds]
    rfl
  · -- Both have a clash, though not always of the same keys.
    obtain ⟨clash, failed⟩ := Json.exists_clash apart
    obtain ⟨clash', failed'⟩ := Json.exists_clash (mt renamed.keysApart_iff.mpr apart)
    rw [failed, failed']
    rfl

/-- Folding the keys of a document fails exactly when two keys of one of its objects become equal.
Otherwise it renames every key and keeps all else. So queries are read alike from documents that
differ in the letter case of keys alone. -/
theorem keys_folded_unless_clash {document : Json} (settled : document.Settled) :
    ((∃ clash, document.foldKeys = .error clash) ↔ document.HasClash) ∧
    (¬ document.HasClash → ∃ result, document.foldKeys = .ok result ∧
      document.Renames Json.MadeSmall result ∧ result.Settled) ∧
    ∀ other, document.Renames Json.SameSmall other →
      EqualUpTo RequestFault.unnamed (Query.ofJson document) (Query.ofJson other) := by
  have apart_iff := Json.keysApart_iff_not_hasClash settled
  refine ⟨?_, fun clear => ?_, fun other renamed => readFolded_renamed _ renamed⟩
  · rw [Json.exists_clash_iff, apart_iff, not_not]
  · have apart := apart_iff.mpr clear
    exact ⟨document.folded, Json.foldKeys_eq apart, Json.renames_folded apart,
      document.settled_folded⟩

/-! ### A page in two spellings -/

namespace Sample

def page : Json := .object [("Skip", .integer 20), ("limit", .integer 10)]

/-- The same page. Its keys have the other order. -/
def pageRespelled : Json := .object [("LIMIT", .integer 10), ("skip", .integer 20)]

/-- A page of two sizes. -/
def pageDoubled : Json := .object [("Limit", .integer 20), ("limit", .integer 10)]

theorem page_renamed : page.Renames Json.SameSmall pageRespelled := by
  have skip : Text.lowercase "Skip" = Text.lowercase "skip" := by decide
  have limit : Text.lowercase "limit" = Text.lowercase "LIMIT" := by decide
  exact @Json.Renames.object _ _ [("skip", .integer 20), ("LIMIT", .integer 10)] _
    (.cons skip (.cons limit .nil)) (.cons (.leaf rfl) (.cons (.leaf rfl) .nil)) (.swap ..)

theorem settled_of_lt {first second : String} (ascending : first < second) (n m : Int) :
    (Json.object [(first, .integer n), (second, .integer m)]).Settled := by
  have ordered : Ascending [(first, Json.integer n), (second, .integer m)] := by
    simpa [Ascending] using ascending
  refine .object ordered fun entry listed => ?_
  rcases List.mem_pair.mp listed with rfl | rfl
  · exact .leaf trivial rfl
  · exact .leaf trivial rfl

theorem page_settled : page.Settled ∧ pageDoubled.Settled :=
  ⟨settled_of_lt (by decide) 20 10, settled_of_lt (by decide) 20 10⟩

theorem page_read : Query.ofJson page = .ok { limit := some 10, skip := some 20 } := rfl

theorem pageDoubled_hasClash : pageDoubled.HasClash := by
  have same : Text.lowercase "Limit" = Text.lowercase "limit" := by decide
  exact ⟨_, .itself, "Limit", by decide, "limit", by decide, by decide, same⟩

theorem page_read_alike :
    page.Settled ∧ Query.ofJson pageRespelled = .ok { limit := some 10, skip := some 20 } ∧
      pageDoubled.Settled ∧ ∃ clash, pageDoubled.foldKeys = .error clash := by
  obtain ⟨settled, doubled⟩ := page_settled
  have alike := (keys_folded_unless_clash settled).2.2 _ page_renamed
  exact ⟨settled, alike.eq_ok page_read, doubled,
    (keys_folded_unless_clash doubled).1.mpr pageDoubled_hasClash⟩

end Sample

end RecordQuery
