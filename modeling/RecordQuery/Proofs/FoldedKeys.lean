import RecordQuery.Proofs.Parts

/-!
# Folded keys

Making keys small fails only where two keys of one object become equal. Where none do, the folded
document does not depend on the order of entries, so it is the same before and after they are
settled, and the fields of a folded record are its parts.
-/

namespace RecordQuery.Json

/-! ### Small keys -/

mutual

/-- Every key in small letters, of equal keys the last. -/
def folded : Json → Json
  | .list items => .list (foldedItems items)
  | .object entries => .object (putEntries (foldedEntries entries))
  | .null => .null
  | .bool value => .bool value
  | .integer value => .integer value
  | .real value => .real value
  | .string value => .string value

def foldedItems : List Json → List Json
  | [] => []
  | item :: rest => item.folded :: foldedItems rest

def foldedEntries : List (String × Json) → List (String × Json)
  | [] => []
  | (key, value) :: rest => (Text.lowercase key, value.folded) :: foldedEntries rest

end

/-- No two keys of the object become equal in small letters. -/
def KeysDiffer : Json → Prop
  | .object entries => ((entries.map (·.1)).map Text.lowercase).Nodup
  | _ => True

/-- No two keys of any object become equal in small letters. -/
def KeysApart (document : Json) : Prop := document.Everywhere KeysDiffer

theorem foldedItems_eq_map (items : List Json) : foldedItems items = items.map folded := by
  induction items with
  | nil => simp [foldedItems]
  | cons item rest ih => simp [foldedItems, ih]

theorem foldedEntries_eq_map (entries : List (String × Json)) :
    foldedEntries entries = entries.map fun entry => (Text.lowercase entry.1, entry.2.folded) := by
  induction entries with
  | nil => simp [foldedEntries]
  | cons first rest ih => simp [foldedEntries, ih]

theorem keys_foldedEntries (entries : List (String × Json)) :
    (foldedEntries entries).map (·.1) = (entries.map (·.1)).map Text.lowercase := by
  rw [foldedEntries_eq_map, List.map_map, List.map_map]
  rfl

/-! ### Folding -/

theorem foldItems_eq {items : List Json}
    (each : ∀ item ∈ items, item.foldKeys = .ok item.folded) :
    foldItems items = .ok (foldedItems items) := by
  induction items with
  | nil => simp [foldItems, foldedItems]
  | cons item rest ih =>
    have others := ih fun other later => each other (List.mem_cons_of_mem _ later)
    rw [foldItems, each item List.mem_cons_self, others, foldedItems]
    rfl

/-- Entries are put behind those held as long as their small keys are new. -/
theorem foldEntries_eq {held entries : List (String × Json)}
    (new : ((held ++ foldedEntries entries).map (·.1)).Nodup)
    (each : ∀ entry ∈ entries, entry.2.foldKeys = .ok entry.2.folded) :
    foldEntries held entries =
      .ok ((foldedEntries entries).foldl (fun held (key, value) => putEntry key value held)
        held) := by
  induction entries generalizing held with
  | nil => simp [foldEntries, foldedEntries]
  | cons first rest ih =>
    obtain ⟨key, value⟩ := first
    have here : value.foldKeys = .ok value.folded := each _ List.mem_cons_self
    rw [foldedEntries] at new ⊢
    -- Keys are distinct in any order, so the new one may be counted among the held ones.
    have moved : ((Text.lowercase key, value.folded) :: (held ++ foldedEntries rest)).Perm
        (held ++ (Text.lowercase key, value.folded) :: foldedEntries rest) :=
      List.perm_middle.symm
    have distinct := (moved.map Prod.fst).nodup_iff.mpr new
    have unheld : Text.lowercase key ∉ held.map (·.1) := by
      rw [List.map_cons, List.nodup_cons, List.map_append] at distinct
      exact fun old => distinct.1 (List.mem_append_left _ old)
    have further : ((putEntry (Text.lowercase key) value.folded held ++
        foldedEntries rest).map (·.1)).Nodup :=
      (((putEntry_perm unheld).append_right _).map Prod.fst).nodup_iff.mpr distinct
    rw [foldEntries, if_neg (mt isSome_entryAt?.mp unheld), here]
    exact ih further fun other later => each other (List.mem_cons_of_mem _ later)

/-- Folding keys that stay apart does not fail. -/
theorem foldKeys_eq {document : Json} (apart : document.KeysApart) :
    document.foldKeys = .ok document.folded := by
  induction apart with
  | @node document here parts ih =>
    cases document with
    | list items =>
      have each : foldItems items = .ok (foldedItems items) := foldItems_eq ih
      rw [foldKeys, folded, each]
      rfl
    | object entries =>
      have new : ((foldedEntries entries).map (·.1)).Nodup := by
        rw [keys_foldedEntries]
        exact here
      have each : ∀ entry ∈ entries, entry.2.foldKeys = .ok entry.2.folded :=
        fun entry member => ih _ (List.mem_map.mpr ⟨entry, member, rfl⟩)
      rw [foldKeys, folded, foldEntries_eq (by rwa [List.nil_append]) each]
      rfl
    | _ => simp [foldKeys, folded]

/-! ### Settled documents -/

theorem settleItems_eq_map (items : List Json) : settleItems items = items.map settle := by
  induction items with
  | nil => simp [settleItems]
  | cons item rest ih => simp [settleItems, ih]

theorem settleEntries_eq_map (entries : List (String × Json)) :
    settleEntries entries = entries.map fun entry => (entry.1, entry.2.settle) := by
  induction entries with
  | nil => simp [settleEntries]
  | cons first rest ih => simp [settleEntries, ih]

theorem keys_settleEntries (entries : List (String × Json)) :
    (settleEntries entries).map (·.1) = entries.map (·.1) := by
  rw [settleEntries_eq_map, List.map_map]
  rfl

/-- Keys that stay apart in small letters are distinct, so settling only rearranges them. -/
theorem putEntries_settleEntries_perm {entries : List (String × Json)}
    (apart : (object entries).KeysDiffer) :
    (putEntries (settleEntries entries)).Perm (settleEntries entries) := by
  apply putEntries_perm
  rw [keys_settleEntries]
  exact List.Nodup.of_map _ apart

theorem keysApart_settle {document : Json} (apart : document.KeysApart) :
    document.settle.KeysApart := by
  induction apart with
  | @node document here parts ih =>
    cases document with
    | list items =>
      rw [settle, settleItems_eq_map]
      exact Everywhere.list_map trivial ih
    | object entries =>
      -- The settled entries have the same keys in another order, and settled values.
      have perm := putEntries_settleEntries_perm here
      rw [settle]
      refine .node ?_ ?_
      · have keys := ((perm.map Prod.fst).map Text.lowercase).nodup_iff
        rw [KeysDiffer, keys, keys_settleEntries]
        exact here
      · intro part member
        rw [inside, (perm.map Prod.snd).mem_iff, settleEntries_eq_map, List.map_map] at member
        obtain ⟨entry, listed, rfl⟩ := List.mem_map.mp member
        exact ih entry.2 (List.mem_map.mpr ⟨entry, listed, rfl⟩)
    | _ =>
      rw [settle]
      exact .leaf trivial rfl

/-- Entries come to stand in the order of their small keys, whether they were settled or not. -/
theorem folded_settle {document : Json} (apart : document.KeysApart) :
    document.settle.folded = document.folded := by
  induction apart with
  | @node document here parts ih =>
    cases document with
    | list items =>
      rw [settle, folded, folded, settleItems_eq_map, foldedItems_eq_map, foldedItems_eq_map,
        List.map_map]
      exact congrArg list (List.map_congr_left ih)
    | object entries =>
      have same : foldedEntries (settleEntries entries) = foldedEntries entries := by
        rw [settleEntries_eq_map, foldedEntries_eq_map, foldedEntries_eq_map, List.map_map]
        apply List.map_congr_left
        intro entry member
        exact Prod.ext rfl (ih entry.2 (List.mem_map.mpr ⟨entry, member, rfl⟩))
      have perm : (foldedEntries (putEntries (settleEntries entries))).Perm
          (foldedEntries entries) := by
        rw [← same, foldedEntries_eq_map, foldedEntries_eq_map]
        exact (putEntries_settleEntries_perm here).map _
      have distinct : ((foldedEntries entries).map (·.1)).Nodup := by
        rw [keys_foldedEntries]
        exact here
      rw [settle, folded, folded]
      -- Both sides are in ascending order and hold the same entries.
      exact congrArg object (putEntries_eq_of_perm ascending_putEntries
        (perm.trans (putEntries_perm distinct).symm))
    | _ => simp [settle]

/-! ### Folded records -/

section Record

variable {parts : List (String × Option Json)}

theorem keysApart_present (distinct : ((parts.map (·.1)).map Text.lowercase).Nodup)
    (apart : ∀ part ∈ parts, ∀ value, part.2 = some value → value.KeysApart) :
    (object (present parts)).KeysApart :=
  .object_present (distinct.sublist ((keys_present_sublist parts).map _)) apart

theorem foldedEntries_present (parts : List (String × Option Json)) :
    foldedEntries (present parts) =
      present (parts.map fun part => (Text.lowercase part.1, part.2.map folded)) := by
  induction parts with
  | nil => simp [present, foldedEntries]
  | cons first rest ih =>
    obtain ⟨key, part⟩ := first
    cases part with
    | none => simpa [present] using ih
    | some value => simpa [present, foldedEntries] using ih

/-- The fields of a folded record are its folded parts. -/
theorem fields?_folded (parts : List (String × Option Json)) {names : List String}
    (small : (parts.map (·.1)).map Text.lowercase = names) (distinct : names.Nodup) :
    (object (present parts)).folded.fields? names =
      some (parts.map fun part => part.2.map folded) := by
  have keys : (parts.map fun part => (Text.lowercase part.1, part.2.map folded)).map (·.1) =
      names := by
    rw [← small, List.map_map, List.map_map]
    rfl
  have distinct_small := keys ▸ distinct
  have perm : (putEntries (foldedEntries (present parts))).Perm
      (present (parts.map fun part => (Text.lowercase part.1, part.2.map folded))) := by
    rw [foldedEntries_present]
    exact putEntries_perm (distinct_small.sublist (keys_present_sublist _))
  have fields := fieldsByName?_of_perm distinct_small perm
  rw [keys, List.map_map] at fields
  rw [folded]
  exact fields

end Record

/-! ### Nesting -/

theorem depth_le_depthItems {item : Json} {items : List Json} (member : item ∈ items) :
    item.depth ≤ depthItems items := by
  induction items with
  | nil => cases member
  | cons first rest ih =>
    rw [depthItems]
    rcases List.mem_cons.mp member with rfl | later
    · exact Nat.le_max_left _ _
    · exact Nat.le_trans (ih later) (Nat.le_max_right _ _)

theorem depth_le_depthEntries {entry : String × Json} {entries : List (String × Json)}
    (member : entry ∈ entries) : entry.2.depth ≤ depthEntries entries := by
  induction entries with
  | nil => cases member
  | cons first rest ih =>
    rw [depthEntries]
    rcases List.mem_cons.mp member with rfl | later
    · exact Nat.le_max_left _ _
    · exact Nat.le_trans (ih later) (Nat.le_max_right _ _)

/-- A part nests less deeply than its record. -/
theorem depth_part_lt {parts : List (String × Option Json)} {key : String} {value : Json}
    (distinct : ((parts.map (·.1)).map Text.lowercase).Nodup)
    (member : (key, some value) ∈ parts) :
    value.folded.depth < (object (present parts)).folded.depth := by
  have listed : (Text.lowercase key, value.folded) ∈ foldedEntries (present parts) := by
    rw [foldedEntries_eq_map]
    exact List.mem_map.mpr ⟨(key, value), mem_present.mpr member, rfl⟩
  have distinct_small : ((foldedEntries (present parts)).map (·.1)).Nodup := by
    rw [keys_foldedEntries]
    exact distinct.sublist ((keys_present_sublist parts).map _)
  have put := (putEntries_perm distinct_small).mem_iff.mpr listed
  rw [folded, depth]
  exact Nat.lt_succ_of_le (depth_le_depthEntries put)

/-- An item nests less deeply than its list. -/
theorem depth_item_lt {items : List Json} {item : Json} (member : item ∈ items) :
    item.folded.depth < (list items).folded.depth := by
  rw [folded, depth, foldedItems_eq_map]
  exact Nat.lt_succ_of_le (depth_le_depthItems (List.mem_map.mpr ⟨item, member, rfl⟩))

end RecordQuery.Json
