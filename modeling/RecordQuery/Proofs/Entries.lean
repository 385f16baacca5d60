import Mathlib.Data.List.Basic
import Mathlib.Data.List.Nodup
import RecordQuery.Dictionary

/-!
# Entries in order

Entries that are put one after the other stand in ascending order of their keys. Where no key is
repeated they are the given ones rearranged, so what is found at a key does not depend on the order
in which the entries were written.
-/

namespace RecordQuery

variable {α : Type}

/-! ### Found entries -/

theorem mem_of_entryAt? {key : String} {entries : List (String × α)} {value : α}
    (found : entryAt? key entries = some value) : (key, value) ∈ entries := by
  obtain ⟨⟨other, held⟩, first, rfl⟩ := Option.map_eq_some_iff.mp found
  have same := List.find?_some first
  simp only [beq_iff_eq] at same
  exact same ▸ List.mem_of_find?_eq_some first

theorem isSome_entryAt? {key : String} {entries : List (String × α)} :
    (entryAt? key entries).isSome = true ↔ key ∈ entries.map (·.1) := by
  simp [entryAt?, List.find?_isSome]

/-- Among keys that are distinct an entry is found at its key. -/
theorem entryAt?_of_mem {key : String} {entries : List (String × α)} {value : α}
    (distinct : (entries.map (·.1)).Nodup) (member : (key, value) ∈ entries) :
    entryAt? key entries = some value := by
  induction entries with
  | nil => cases member
  | cons first rest ih =>
    obtain ⟨new, others⟩ := List.nodup_cons.mp distinct
    rcases List.mem_cons.mp member with rfl | later
    · simp [entryAt?]
    · -- The first entry has another key, so the search passes it.
      have different : first.1 ≠ key := by
        rintro rfl
        exact new (List.mem_map.mpr ⟨(first.1, value), later, rfl⟩)
      have found := ih others later
      unfold entryAt? at found ⊢
      rw [List.find?_cons_of_neg (by simpa using different)]
      exact found

theorem entryAt?_eq_of_perm {key : String} {left right : List (String × α)}
    (distinct : (left.map (·.1)).Nodup) (perm : left.Perm right) :
    entryAt? key left = entryAt? key right := by
  have distinct_right : (right.map (·.1)).Nodup := (perm.map _).nodup_iff.mp distinct
  apply Option.ext
  intro value
  constructor
  · intro found
    exact entryAt?_of_mem distinct_right (perm.mem_iff.mp (mem_of_entryAt? found))
  · intro found
    exact entryAt?_of_mem distinct (perm.mem_iff.mpr (mem_of_entryAt? found))

/-! ### Ascending entries -/

theorem Ascending.nodup {entries : List (String × α)} (ascending : Ascending entries) :
    (entries.map (·.1)).Nodup := by
  apply List.pairwise_map.mpr
  apply ascending.imp
  intro left right less same
  exact String.lt_irrefl right.1 (same ▸ less)

/-- Entries have only one ascending order. -/
theorem Ascending.eq_of_perm {left right : List (String × α)} (ascending : Ascending left)
    (ascending' : Ascending right) (perm : left.Perm right) : left = right := by
  apply perm.eq_of_pairwise _ ascending ascending'
  intro first second _ _ less greater
  exact absurd greater (String.lt_asymm less)

theorem mem_keys_putEntry {key other : String} {value : α} {entries : List (String × α)} :
    other ∈ (putEntry key value entries).map (·.1) ↔ other = key ∨ other ∈ entries.map (·.1) := by
  induction entries with
  | nil => simp [putEntry]
  | cons head rest ih =>
    unfold putEntry
    split
    next => simp
    next =>
      split
      next equal => simp [equal]
      next =>
        rw [List.map_cons, List.mem_cons, ih, List.map_cons, List.mem_cons]
        exact or_left_comm

/-- An entry with a new key is put among the others. -/
theorem putEntry_perm {key : String} {value : α} {entries : List (String × α)}
    (new : key ∉ entries.map (·.1)) :
    (putEntry key value entries).Perm ((key, value) :: entries) := by
  induction entries with
  | nil => exact .refl _
  | cons head rest ih =>
    obtain ⟨different, further⟩ : key ≠ head.1 ∧ key ∉ rest.map (·.1) := by simpa using new
    unfold putEntry
    split
    next => exact .refl _
    next => exact ((ih further).cons head).trans (.swap _ _ _)

section Put

variable {entries held : List (String × α)}

theorem mem_of_mem_foldl_putEntry {entry : String × α}
    (member : entry ∈ entries.foldl (fun held (key, value) => putEntry key value held) held) :
    entry ∈ held ∨ entry ∈ entries := by
  induction entries generalizing held with
  | nil => exact .inl member
  | cons first rest ih =>
    rcases ih member with before | later
    · rcases mem_putEntry before with rfl | old
      · exact .inr List.mem_cons_self
      · exact .inl old
    · exact .inr (List.mem_cons_of_mem _ later)

theorem mem_of_mem_putEntries {entry : String × α} (member : entry ∈ putEntries entries) :
    entry ∈ entries := by
  rcases mem_of_mem_foldl_putEntry member with impossible | given
  · cases impossible
  · exact given

theorem mem_keys_foldl_putEntry {key : String} :
    key ∈ (entries.foldl (fun held (key, value) => putEntry key value held) held).map (·.1) ↔
      key ∈ held.map (·.1) ∨ key ∈ entries.map (·.1) := by
  induction entries generalizing held with
  | nil => simp
  | cons first rest ih =>
    rw [List.foldl_cons, ih, mem_keys_putEntry, List.map_cons, List.mem_cons]
    exact ⟨fun either => by tauto, fun either => by tauto⟩

theorem mem_keys_putEntries {key : String} :
    key ∈ (putEntries entries).map (·.1) ↔ key ∈ entries.map (·.1) := by
  unfold putEntries
  rw [mem_keys_foldl_putEntry]
  simp

theorem ascending_foldl_putEntry (ascending : Ascending held) :
    Ascending (entries.foldl (fun held (key, value) => putEntry key value held) held) := by
  induction entries generalizing held with
  | nil => exact ascending
  | cons first rest ih => exact ih (ascending_putEntry first.1 first.2 ascending)

theorem ascending_putEntries : Ascending (putEntries entries) :=
  ascending_foldl_putEntry List.Pairwise.nil

theorem foldl_putEntry_perm (distinct : ((held ++ entries).map (·.1)).Nodup) :
    (entries.foldl (fun held (key, value) => putEntry key value held) held).Perm
      (held ++ entries) := by
  induction entries generalizing held with
  | nil => simp
  | cons first rest ih =>
    -- The first entry moves to the held ones, among which its key is new.
    have moved : ((first :: held) ++ rest).Perm (held ++ first :: rest) := List.perm_middle.symm
    have distinct_moved : (((first :: held) ++ rest).map (·.1)).Nodup :=
      (moved.map _).nodup_iff.mpr distinct
    have new : first.1 ∉ held.map (·.1) := by
      rw [List.cons_append, List.map_cons, List.nodup_cons, List.map_append] at distinct_moved
      exact fun old => distinct_moved.1 (List.mem_append_left _ old)
    have put : (putEntry first.1 first.2 held).Perm (first :: held) := putEntry_perm new
    have distinct_put : ((putEntry first.1 first.2 held ++ rest).map (·.1)).Nodup :=
      ((put.append_right rest).map _).nodup_iff.mpr distinct_moved
    exact (ih distinct_put).trans ((put.append_right rest).trans moved)

/-- Putting entries with distinct keys only rearranges them. -/
theorem putEntries_perm (distinct : (entries.map (·.1)).Nodup) :
    (putEntries entries).Perm entries :=
  foldl_putEntry_perm (by simpa using distinct)

/-- Entries come to stand in their ascending order, whatever order they were in. -/
theorem putEntries_eq_of_perm {sorted : List (String × α)} (ascending : Ascending sorted)
    (perm : entries.Perm sorted) : putEntries entries = sorted := by
  have distinct : (entries.map (·.1)).Nodup := (perm.map _).nodup_iff.mpr ascending.nodup
  exact ascending_putEntries.eq_of_perm ascending ((putEntries_perm distinct).trans perm)

end Put

end RecordQuery
