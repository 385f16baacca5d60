import RecordQuery.Proofs.Outcome
import RecordQuery.Proofs.Places
import RecordQuery.Proofs.RequestDocuments

/-!
# Where values stand in a text

A condition's text may give its parts in any order, with any space between them and with keys in
any letter case. Wherever the value stands, it is read as the document that begins there.
-/

namespace RecordQuery

/-! ### Places of entries -/

section Entries

variable {α : Type}

theorem entryAt?_putEntry (key : String) (value : α) (entries : List (String × α)) :
    entryAt? key (putEntry key value entries) = some value := by
  induction entries with
  | nil => simp [putEntry, entryAt?]
  | cons first rest ih =>
    rw [putEntry]
    split
    · simp [entryAt?]
    · split
      · simp [entryAt?]
      next other =>
        have passed : (first.1 == key) = false := by simpa using Ne.symm other
        simpa [entryAt?, passed] using ih

theorem entryAt?_putEntry_of_ne {key other : String} (differ : key ≠ other) (value : α)
    (entries : List (String × α)) :
    entryAt? key (putEntry other value entries) = entryAt? key entries := by
  have passed : (other == key) = false := by simpa using Ne.symm differ
  induction entries with
  | nil => simp [putEntry, entryAt?, passed]
  | cons first rest ih =>
    rw [putEntry]
    split
    · simp [entryAt?, passed]
    · split
      next same =>
        subst same
        simp [entryAt?, passed]
      next =>
        by_cases here : first.1 == key
        · simp [entryAt?, here]
        · simpa [entryAt?, here] using ih

/-- What is found at a key stays there as long as nothing else is put there. -/
theorem entryAt?_foldl_putEntry {key : String} {value : α} {held entries : List (String × α)}
    (here : entryAt? key held = some value) (others : ∀ entry ∈ entries, entry.1 ≠ key) :
    entryAt? key (entries.foldl (fun held (key, value) => putEntry key value held) held) =
      some value := by
  induction entries generalizing held with
  | nil => exact here
  | cons first rest ih =>
    obtain ⟨differs, further⟩ := List.forall_mem_cons.mp others
    exact ih ((entryAt?_putEntry_of_ne differs.symm first.2 held).trans here) further

/-- The last of the entries with a key is found at it. -/
theorem entryAt?_putEntries {key : String} {value : α} {before after : List (String × α)}
    (last : ∀ entry ∈ after, entry.1 ≠ key) :
    entryAt? key (putEntries (before ++ (key, value) :: after)) = some value := by
  rw [putEntries, List.foldl_append, List.foldl_cons]
  exact entryAt?_foldl_putEntry (entryAt?_putEntry _ _ _) last

end Entries

namespace Json

/-- An entry that is held stays when further entries are folded. -/
theorem entryAt?_of_foldEntries_of_held {key : String} {value : Json}
    {held entries folded : List (String × Json)} (here : entryAt? key held = some value)
    (done : foldEntries held entries = .ok folded) : entryAt? key folded = some value := by
  induction entries generalizing held with
  | nil =>
    rw [foldEntries] at done
    cases done
    exact here
  | cons first rest ih =>
    rw [foldEntries] at done
    split at done
    · cases done
    next new =>
      obtain ⟨small, _, done⟩ := bind_eq_ok.mp done
      -- A second key with the same small letters would be refused.
      have differ : key ≠ Text.lowercase first.1 := by
        rintro rfl
        rw [here] at new
        exact new rfl
      exact ih ((entryAt?_putEntry_of_ne differ _ _).trans here) done

/-- Each entry is found at its small key when keys are folded. -/
theorem entryAt?_of_foldEntries {key : String} {value : Json}
    {held entries folded : List (String × Json)} (listed : (key, value) ∈ entries)
    (done : foldEntries held entries = .ok folded) :
    ∃ small, value.foldKeys = .ok small ∧ entryAt? (Text.lowercase key) folded = some small := by
  induction entries generalizing held with
  | nil => cases listed
  | cons first rest ih =>
    rw [foldEntries] at done
    split at done
    · cases done
    obtain ⟨small, here, done⟩ := bind_eq_ok.mp done
    rcases List.mem_cons.mp listed with rfl | later
    · exact ⟨small, here, entryAt?_of_foldEntries_of_held (entryAt?_putEntry _ _ _) done⟩
    · exact ih later done

/-- The value that a settled object has at a key is that of the last such entry, and folding finds
it at the small key. -/
theorem entryAt?_of_fold {before after : List (String × Json)} {key : String} {value folded : Json}
    (last : ∀ entry ∈ after, entry.1 ≠ key)
    (done : (object (before ++ (key, value) :: after)).settle.foldKeys = .ok folded) :
    ∃ entries small, folded = .object entries ∧ value.settle.foldKeys = .ok small ∧
      entryAt? (Text.lowercase key) entries = some small := by
  rw [settle, settleEntries_eq_map, List.map_append, List.map_cons, foldKeys, map_eq_ok] at done
  obtain ⟨entries, done, rfl⟩ := done
  -- Settling keeps one value for each key, the last one, and no later entry has this key.
  have settled : entryAt? key (putEntries
      (before.map (fun entry => (entry.1, entry.2.settle)) ++ (key, value.settle) ::
        after.map fun entry => (entry.1, entry.2.settle))) = some value.settle := by
    apply entryAt?_putEntries
    intro entry member
    obtain ⟨other, listed, rfl⟩ := List.mem_map.mp member
    exact last other listed
  obtain ⟨small, here, found⟩ := entryAt?_of_foldEntries (mem_of_entryAt? settled) done
  exact ⟨entries, small, rfl, here, found⟩

theorem foldItems_eq_ok {items smalls : List Json} (done : foldItems items = .ok smalls) :
    List.Forall₂ (fun item small => item.foldKeys = .ok small) items smalls := by
  induction items generalizing smalls with
  | nil =>
    rw [foldItems] at done
    cases done
    exact .nil
  | cons item rest ih =>
    simp only [foldItems, bind_eq_ok, pure_eq_ok] at done
    obtain ⟨small, here, others, further, rfl⟩ := done
    exact .cons here (ih further)

end Json

/-! ### Parts at their places -/

section Pairs

variable {α β : Type} {related : α → β → Prop}

/-- Where two lists are related in order, an element stands opposite one of the other list. -/
theorem exists_opposite {before after : List α} {here : α} {values : List β}
    (pairs : List.Forall₂ related (before ++ here :: after) values) :
    ∃ front value back, values = front ++ value :: back ∧ related here value ∧
      List.Forall₂ related after back := by
  induction before generalizing values with
  | nil =>
    obtain ⟨value, back, opposite, rest, rfl⟩ := List.forall₂_cons_left_iff.mp pairs
    exact ⟨[], value, back, rfl, opposite, rest⟩
  | cons first more ih =>
    obtain ⟨value, rest, _, rest_pairs, rfl⟩ := List.forall₂_cons_left_iff.mp pairs
    obtain ⟨front, found, back, rfl, opposite, later⟩ := ih rest_pairs
    exact ⟨value :: front, found, back, rfl, opposite, later⟩

theorem exists_opposite_at {left : List α} {right : List β}
    (pairs : List.Forall₂ related left right) {i : Nat} {here : α}
    (place : left[i]? = some here) :
    ∃ there, right[i]? = some there ∧ related here there := by
  induction pairs generalizing i with
  | nil => cases place
  | cons opposite _ ih =>
    cases i with
    | zero =>
      cases place
      exact ⟨_, rfl, opposite⟩
    | succ i => exact ih place

end Pairs

namespace Json

/-- The text begins with a document that is read with settled and small keys as this one. -/
def Reads (text : List Char) (small : Json) : Prop :=
  ∃ document, Holds text document ∧ document.settle.foldKeys = .ok small

/-- The text that the field of a record begins: behind the colon of the last entry whose key is the
field's name in any letter case, or at the field's place in a list. -/
inductive GivesField (names : List String) (i : Nat) (text : List Char) : List Char → Prop
  | named {inner place : List Char} {key : String}
      {before after : List (Option String × List Char)} :
    skipSpaces text = '{' :: inner → EntryTexts inner (before ++ (some key, place) :: after) →
      names[i]? = some (Text.lowercase key) →
        (∀ later ∈ after, ∀ name, later.1 = some name →
          Text.lowercase name ≠ Text.lowercase key) →
          GivesField names i text place
  | listed {inner place : List Char} {texts : List (List Char)} :
    skipSpaces text = '[' :: inner → ItemTexts inner texts → texts[i]? = some place →
      GivesField names i text place

/-- The text that an item of a list begins. -/
inductive GivesItem (i : Nat) (text : List Char) : List Char → Prop
  | listed {inner place : List Char} {texts : List (List Char)} :
    skipSpaces text = '[' :: inner → ItemTexts inner texts → texts[i]? = some place →
      GivesItem i text place

variable {text place : List Char} {small : Json} {i : Nat}

theorem Reads.item_at {inner : List Char} {texts : List (List Char)} (reads : Reads text small)
    (opens : skipSpaces text = '[' :: inner) (placed : ItemTexts inner texts)
    (listed : texts[i]? = some place) :
    ∃ smalls part, small = .list smalls ∧ smalls[i]? = some part ∧ Reads place part := by
  obtain ⟨document, holds, done⟩ := reads
  obtain ⟨items, rfl, pairs⟩ := holds.list opens placed
  obtain ⟨item, there, held⟩ := exists_opposite_at pairs listed
  rw [settle, settleItems_eq_map, foldKeys, map_eq_ok] at done
  obtain ⟨smalls, folded, rfl⟩ := done
  have settled : (items.map settle)[i]? = some item.settle := by simp [there]
  obtain ⟨part, opposite, here⟩ := exists_opposite_at (foldItems_eq_ok folded) settled
  exact ⟨smalls, part, rfl, opposite, item, held, here⟩

/-- An item is read from the document that begins at its place. -/
theorem Reads.item (reads : Reads text small) (gives : GivesItem i text place) :
    ∃ smalls part, small = .list smalls ∧ smalls[i]? = some part ∧ Reads place part := by
  cases gives with
  | listed opens placed listed => exact reads.item_at opens placed listed

/-- A field is read from the document that begins at its place. -/
theorem Reads.field {names : List String} {parts : List (Option Json)} (reads : Reads text small)
    (gives : GivesField names i text place) (fields : small.fields? names = some parts) :
    ∃ part, parts[i]? = some (some part) ∧ Reads place part := by
  cases gives with
  | @named inner place key before after opens placed name last =>
    obtain ⟨document, holds, done⟩ := reads
    obtain ⟨entries, rfl, pairs⟩ := holds.object opens placed
    obtain ⟨front, ⟨key', value⟩, back, rfl, ⟨same, held⟩, later⟩ := exists_opposite pairs
    obtain rfl := Option.some.inj same
    -- Keys that agree in the same letter case agree in any, so the entry is the last with its key.
    have others : ∀ entry ∈ back, entry.1 ≠ key := by
      intro entry listed equal
      obtain ⟨text, there, known, _⟩ := exists_related later listed
      exact last text there entry.1 known (congrArg Text.lowercase equal)
    obtain ⟨entries, part, rfl, here, found⟩ := entryAt?_of_fold others done
    simp only [fields?, fieldsByName?, Option.ite_none_left_eq_some, Option.some.injEq] at fields
    obtain ⟨_, rfl⟩ := fields
    exact ⟨part, by simp [name, found], value, held, here⟩
  | listed opens placed listed =>
    obtain ⟨smalls, part, rfl, there, here⟩ := reads.item_at opens placed listed
    simp only [fields?, fieldsInOrder?, Option.ite_none_left_eq_some, Option.some.injEq] at fields
    obtain ⟨_, rfl⟩ := fields
    refine ⟨part, ?_, here⟩
    -- Fields that the list does not reach are missing behind its items.
    rw [List.getElem?_append_left (by simpa using (List.getElem?_eq_some_iff.mp there).1)]
    simp [there]

/-- Items that are read one by one stand in their places. -/
theorem mapM_eq_some_iff {α β : Type} {read : α → Option β} {items : List α} {values : List β} :
    items.mapM read = some values ↔
      List.Forall₂ (fun item value => read item = some value) items values := by
  induction items generalizing values with
  | nil => cases values <;> simp
  | cons item rest ih => cases values <;> simp [ih, Option.bind_eq_some_iff]

/-- A value in the place of a list that was read is read from the item there. -/
theorem list?_at {α : Type} {read : Json → Option α} {smalls : List Json} {values : List α}
    {part : Json} {value : α} (found : list? read (.list smalls) = some values)
    (there : smalls[i]? = some part) (here : values[i]? = some value) :
    read part = some value := by
  obtain ⟨other, place, taken⟩ := exists_opposite_at (mapM_eq_some_iff.mp found) there
  cases here.symm.trans place
  exact taken

theorem read_of_nullable? {α : Type} {read : Json → Option α} {document : Json} {value : α}
    (found : nullable? read document = some (some value)) : read document = some value := by
  unfold nullable? at found
  split at found
  · cases found
  · simpa using found

end Json

/-! ### Conditions in a text -/

namespace Condition

open Json (GivesField GivesItem Reads)

/-- The text that a condition of the tree begins, within the text of the condition at its root. -/
inductive Stands : List Char → Condition → List Char → Condition → Prop
  | root {text : List Char} {condition : Condition} : Stands text condition text condition
  | member {text groupsText groupText membersText memberText place : List Char}
      {condition child node : Condition} {groups : List (Option Group)} {group : Group}
      {i j : Nat} :
    GivesField keys 4 text groupsText → GivesItem i groupsText groupText →
      GivesField groupKeys 1 groupText membersText → GivesItem j membersText memberText →
        condition.groups = some groups → groups[i]? = some (some group) →
          group.members[j]? = some (some child) → Stands memberText child place node →
            Stands text condition place node

/-- The text that the value of a condition begins. -/
def GivesValue (text place : List Char) : Prop := GivesField keys 2 text place

theorem read?_parts {depth : Nat} {small : Json} {condition : Condition}
    (read : read? depth small = some condition) :
    ∃ depth' field operator value values groups,
      small.fields? keys = some [field, operator, value, values, groups] ∧
        Json.optional Literal.ofJson? value = some condition.value ∧
        Json.optional (Json.list? (Json.nullable? (readGroup? depth'))) groups =
          some condition.groups := by
  cases depth with
  | zero => simp [read?] at read
  | succ depth =>
    simp only [read?, Option.bind_eq_bind, Option.bind_eq_some_iff] at read
    obtain ⟨parts, fields, read⟩ := read
    split at read
    next field operator value values groups =>
      simp only [Option.pure_def, Option.bind_eq_some_iff, Option.some.injEq] at read
      obtain ⟨_, _, _, _, _, valued, _, _, _, grouped, rfl⟩ := read
      exact ⟨depth, _, _, _, _, _, fields, valued, grouped⟩
    next => cases read

theorem readGroup?_parts {depth : Nat} {small : Json} {group : Group}
    (read : readGroup? depth small = some group) :
    ∃ depth' operator members, small.fields? groupKeys = some [operator, members] ∧
      Json.listOrNone (Json.nullable? (read? depth')) members = some group.members := by
  cases depth with
  | zero => simp [readGroup?] at read
  | succ depth =>
    simp only [readGroup?, Option.bind_eq_bind, Option.bind_eq_some_iff] at read
    obtain ⟨parts, fields, read⟩ := read
    split at read
    next operator members =>
      simp only [Option.pure_def, Option.bind_eq_some_iff, Option.some.injEq] at read
      obtain ⟨_, _, _, listed, rfl⟩ := read
      exact ⟨depth, _, _, fields, listed⟩
    next => cases read

/-- A group of a condition is read from the document at its place. -/
theorem group_reads {text groupsText groupText : List Char} {small : Json} {depth i : Nat}
    {condition : Condition} {groups : List (Option Group)} {group : Group}
    (reads : Reads text small) (read : read? depth small = some condition)
    (field : GivesField keys 4 text groupsText) (item : GivesItem i groupsText groupText)
    (grouped : condition.groups = some groups) (here : groups[i]? = some (some group)) :
    ∃ depth' small', Reads groupText small' ∧ readGroup? depth' small' = some group := by
  obtain ⟨depth', _, _, _, _, _, fields, _, found⟩ := read?_parts read
  obtain ⟨part, place, groups_read⟩ := reads.field field fields
  cases place
  rw [grouped] at found
  obtain ⟨smalls, group_small, rfl, there, group_read⟩ := groups_read.item item
  have taken := Json.list?_at (Json.read_of_nullable? found) there here
  exact ⟨depth', group_small, group_read, Json.read_of_nullable? taken⟩

/-- A member of a group is read from the document at its place. -/
theorem member_reads {text membersText memberText : List Char} {small : Json} {depth j : Nat}
    {group : Group} {child : Condition} (reads : Reads text small)
    (read : readGroup? depth small = some group) (field : GivesField groupKeys 1 text membersText)
    (item : GivesItem j membersText memberText) (here : group.members[j]? = some (some child)) :
    ∃ depth' small', Reads memberText small' ∧ read? depth' small' = some child := by
  obtain ⟨depth', _, _, fields, found⟩ := readGroup?_parts read
  obtain ⟨part, place, members_read⟩ := reads.field field fields
  cases place
  obtain ⟨smalls, member_small, rfl, there, member_read⟩ := members_read.item item
  have listed : Json.list? (Json.nullable? (read? depth')) (.list smalls) = some group.members := by
    simpa [Json.listOrNone, Json.optional, Json.withDefault, Json.nullable?] using found
  have taken := Json.list?_at listed there here
  exact ⟨depth', member_small, member_read, Json.read_of_nullable? taken⟩

/-- Each condition of the tree is read from the document that begins at its place. -/
theorem Stands.reads {text place : List Char} {condition node : Condition}
    (stands : Stands text condition place node) {small : Json} {depth : Nat}
    (reads : Reads text small) (read : read? depth small = some condition) :
    ∃ depth' small', Reads place small' ∧ read? depth' small' = some node := by
  -- The way down leads through the list of groups and the list of members of one of them.
  induction stands generalizing small depth with
  | root => exact ⟨depth, small, reads, read⟩
  | member groups group members member grouped listed belongs _ ih =>
    obtain ⟨_, _, group_read, group_taken⟩ := group_reads reads read groups group grouped listed
    obtain ⟨_, _, member_read, member_taken⟩ :=
      member_reads group_read group_taken members member belongs
    exact ih member_read member_taken

theorem reads_of_ofText {text : String} {condition : Condition}
    (read : ofText text = .ok condition) :
    ∃ depth small, Reads text.toList small ∧ read? depth small = some condition := by
  unfold ofText readText ofJson readFolded at read
  split at read
  next document parsed =>
    split at read
    next => cases read
    next small done =>
      split at read
      next taken =>
        cases read
        exact ⟨_, small, ⟨document, Json.holds_of_ofText? parsed, done⟩, taken⟩
      next => cases read
  next => cases read

/-- The value of a condition is read from the document that begins at its place in the text. -/
theorem value_reads {text : String} {condition node : Condition} {place value : List Char}
    (read : ofText text = .ok condition) (stands : Stands text.toList condition place node)
    (given : GivesValue place value) :
    ∃ part, Reads value part ∧ Json.optional Literal.ofJson? (some part) = some node.value := by
  obtain ⟨_, _, reads, taken⟩ := reads_of_ofText read
  obtain ⟨_, _, node_reads, node_taken⟩ := stands.reads reads taken
  obtain ⟨_, _, _, _, _, _, fields, valued, _⟩ := read?_parts node_taken
  obtain ⟨part, here, part_reads⟩ := node_reads.field given fields
  cases here
  exact ⟨part, part_reads, valued⟩

end Condition

end RecordQuery
